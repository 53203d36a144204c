import Virtrigaud.Effects.System
import Virtrigaud.Go.Ints
import Virtrigaud.Go.Strings
import Virtrigaud.Api.Meta

/-!
# How the vSphere provider builds a VM

`createVirtualMachine` places the VM, clones it from a template or creates it around an
imported disk, and then works on the VM it built: the primary disk is grown, additional
disks are attached, and the VM is powered on. The reference of the new VM is carried from
the two ways of building it to these steps in the variables `vmRef` and `vmID`.
-/

namespace Virtrigaud.Vsphere.Creation

/-- `types.ManagedObjectReference`. The zero value refers to no object. -/
structure MoRef where
  (type value : String := "")
  deriving DecidableEq, Repr

/-- The defaults for the placement. -/
structure Config where
  (defaultCluster defaultDatastore defaultStoragePod defaultFolder : String := "")
  deriving DecidableEq, Repr

structure AdditionalDiskSpec where
  name : String := ""
  sizeGiB : Int := 0
  type : String := ""
  scsiController : Option Int := none
  (scsiSharedBus scsiControllerType : String := "")
  deriving DecidableEq, Repr

/-- What `parseCreateRequest` made of the request. -/
structure VMSpec where
  name : String
  (cpu memoryMB diskSizeGB : Int := 0)
  (templateName diskPath networkName staticIP : String := "")
  netPrefix : Int := 0
  (gateway dns firmware : String := "")
  hardwareVersion : Option Int := none
  (cloudInit cloudInitMetaData : String := "")
  nestedVirtualization : Bool := false
  virtualizationBasedSecurity : Bool := false
  (cpuHotAddEnabled memoryHotAddEnabled secureBoot tpmEnabled vtdEnabled : Bool := false)
  additionalDisks : List AdditionalDiskSpec := []
  (cluster datastore storagePod folder : String := "")
  deriving DecidableEq, Repr

inductive ScsiType
  | pvscsi
  | lsilogic
  | lsilogicSas
  | buslogic
  deriving DecidableEq, Repr

structure ScsiController where
  (key busNumber : Int)
  type : ScsiType
  sharedBus : String
  deriving DecidableEq, Repr

structure VirtualDisk where
  (key controllerKey : Int)
  unitNumber : Option Int
  fileName : String
  datastore : Option MoRef := none
  diskMode : String := "persistent"
  (thinProvisioned eagerlyScrub : Option Bool := none)
  (label summary : String := "")
  capacityInKB : Int := 0
  deriving DecidableEq, Repr

inductive Device
  | scsiController (controller : ScsiController)
  | disk (disk : VirtualDisk)
  | vmxnet3 (networkName : String) (network : MoRef)
  | tpm
  | other (key : Int)
  deriving DecidableEq, Repr

/-- `types.VirtualDeviceConfigSpec`: a device to add, or one to edit. -/
structure DeviceChange where
  (edit createFile : Bool := false)
  device : Device
  deriving DecidableEq, Repr

/-- `types.VirtualMachineConfigSpec`, as far as the provider fills it. -/
structure ConfigSpec where
  name : String := ""
  (numCPUs memoryMB : Int := 0)
  (firmware version : String := "")
  (cpuHotAddEnabled memoryHotAddEnabled efiSecureBootEnabled : Bool := false)
  extraConfig : StringMap := []
  vmPathName : Option String := none
  guestId : String := ""
  deviceChange : List DeviceChange := []
  deriving DecidableEq, Repr

structure CloneSpec where
  (datastore pool : MoRef)
  config : ConfigSpec
  deriving DecidableEq, Repr

structure Datastore where
  name : String
  ref : MoRef
  deriving DecidableEq, Repr

structure DatastoreSummary where
  name : String
  freeSpace : Int
  deriving DecidableEq, Repr

/-- The properties of a VM that are read back. -/
structure Hardware where
  name : String := ""
  devices : List Device := []
  deriving DecidableEq, Repr

/-- `info.Result` of a finished task. -/
inductive TaskResult
  | reference (ref : MoRef)
  | other (typeName : String)
  deriving DecidableEq, Repr

inductive Call
  | defaultDatacenter
  | findVirtualMachine (name : String)
  | findCluster (name : String)
  | resourcePool (cluster : MoRef)
  | findDatastore (name : String)
  | createContainerView
  | storagePods
  | datastoreSummaries (refs : List MoRef)
  | findFolder (name : String)
  | findNetwork (name : String)
  | createVM (folder : MoRef) (config : ConfigSpec) (pool : MoRef)
  | cloneVM (template folder : MoRef) (name : String) (spec : CloneSpec)
  | waitForResult (task : MoRef)
  | properties (vm : MoRef)
  | reconfigure (vm : MoRef) (config : ConfigSpec)
  | powerOn (vm : MoRef)
  deriving DecidableEq

/-- The storage pods are given with their children; one without the property has none. -/
@[reducible] def Answer : Call → Type
  | .defaultDatacenter => Except GoError String
  | .findVirtualMachine _ => Except GoError MoRef
  | .findCluster _ => Except GoError MoRef
  | .resourcePool _ => Except GoError MoRef
  | .findDatastore _ => Except GoError Datastore
  | .createContainerView => Option GoError
  | .storagePods => Except GoError (List (String × Option (List MoRef)))
  | .datastoreSummaries _ => Except GoError (List DatastoreSummary)
  | .findFolder _ => Except GoError MoRef
  | .findNetwork _ => Except GoError MoRef
  | .createVM _ _ _ => Except GoError MoRef
  | .cloneVM _ _ _ _ => Except GoError MoRef
  | .waitForResult _ => Except GoError TaskResult
  | .properties _ => Except GoError Hardware
  | .reconfigure _ _ => Except GoError MoRef
  | .powerOn _ => Except GoError MoRef

/-- The VM that an operation is applied to. -/
def Call.target : Call → Option MoRef
  | .properties vm => some vm
  | .reconfigure vm _ => some vm
  | .powerOn vm => some vm
  | _ => none

/-- The configuration that a VM is built with. -/
def Call.submitted : Call → Option ConfigSpec
  | .createVM _ config _ => some config
  | .cloneVM _ _ _ clone => some clone.config
  | _ => none

def isUEFI (firmware : String) : Bool := firmware.toUpper = "UEFI"

section

variable (devices : List Device) (base64 : String → String) (spec : VMSpec) (network : Option MoRef)

/-- Secure Boot and TPM force UEFI. -/
def firmwareOf : String :=
  if (spec.secureBoot || spec.tpmEnabled) && !isUEFI spec.firmware then "efi"
  else if spec.firmware = "" then ""
  else if isUEFI spec.firmware then "efi"
  else "bios"

/-- The static network configuration that the guest reads. -/
def guestNetwork : StringMap :=
  if spec.staticIP = "" then []
  else
    [("guestinfo.network.ip", spec.staticIP)] ++
    (if spec.netPrefix > 0 then [("guestinfo.network.prefix", Go.formatInt spec.netPrefix)]
      else []) ++
    (if spec.gateway ≠ "" then [("guestinfo.network.gateway", spec.gateway)] else []) ++
    (if spec.dns ≠ "" then [("guestinfo.network.dns", spec.dns)] else [])

def extraConfigOf : StringMap :=
  (if spec.nestedVirtualization then
    [("vhv.enable", "TRUE"), ("vhv.allowNestedPageTables", "TRUE")] else []) ++
  (if spec.virtualizationBasedSecurity then [("vbs.enable", "TRUE")] else []) ++
  (if spec.vtdEnabled then [("vvtd.enable", "TRUE")] else []) ++
  guestNetwork spec

/-- The adapter replaces the devices that were to be added before it. -/
def initialDevices : List DeviceChange :=
  match network with
  | some ref => [{ device := .vmxnet3 spec.networkName ref }]
  | none => if spec.tpmEnabled then [{ device := .tpm }] else []

def baseConfig : ConfigSpec :=
  { numCPUs := spec.cpu
    memoryMB := spec.memoryMB
    firmware := firmwareOf spec
    version := match spec.hardwareVersion with
      | some version => "vmx-" ++ Go.formatInt version
      | none => ""
    cpuHotAddEnabled := spec.cpuHotAddEnabled && !spec.nestedVirtualization
    memoryHotAddEnabled := spec.memoryHotAddEnabled
    efiSecureBootEnabled := spec.secureBoot
    extraConfig := extraConfigOf spec
    deviceChange := initialDevices spec network }

/-- The pair of keys for one encoded document; none for an empty one. -/
def guestDocument (key encoded : String) : StringMap :=
  if encoded = "" then [] else [(key, encoded), (key ++ ".encoding", "base64")]

/-- `addCloudInitToConfigSpec`, which never fails. -/
def addCloudInitToConfigSpec (config : ConfigSpec) (userData metaData : String) : ConfigSpec :=
  if userData = "" ∧ metaData = "" then config
  else
    let encodedUserData := if userData = "" then "" else base64 userData
    let value :=
      if metaData ≠ "" then metaData else "instance-id: \"" ++ config.name ++ "\""
    { config with
      extraConfig := config.extraConfig ++ guestDocument "guestinfo.userdata" encodedUserData ++
        guestDocument "guestinfo.metadata" (base64 value) }

def withCloudInit (config : ConfigSpec) : ConfigSpec :=
  if spec.cloudInit ≠ "" then
    addCloudInitToConfigSpec base64 config spec.cloudInit spec.cloudInitMetaData
  else config

/-- The datastore of the imported disk in brackets, where the VM gets its home. -/
def vmHome (diskPath : String) : Option String :=
  if "[".toList.isPrefixOf diskPath.toList then
    match Go.beforeFirst "]".toList diskPath.toList with
    | some front => if front.length > 1 then some (String.ofList (front ++ [']'])) else none
    | none => none
  else none

/-- The controller and the disk that a VM gets around an imported disk. -/
def importedDisk (diskPath : String) : List DeviceChange :=
  [{ device := .scsiController ⟨-1, 0, .lsilogic, "noSharing"⟩ },
   { device := .disk { key := -2, controllerKey := -1, unitNumber := some 0,
                       fileName := diskPath } }]

/-- The specification for `CreateVM`. -/
def diskConfig : ConfigSpec :=
  let config := { baseConfig spec network with
    name := spec.name
    vmPathName := vmHome spec.diskPath
    guestId := "otherLinux64Guest" }
  let config := withCloudInit base64 spec config
  { config with deviceChange := config.deviceChange ++ importedDisk spec.diskPath }

/-- The configuration for `Clone`. -/
def cloneConfig : ConfigSpec :=
  withCloudInit base64 spec { baseConfig spec network with name := spec.name }

/-- The controllers of the VM, by bus number: the last one counts. -/
def controllerKey (busNumber : Int) : Option Int :=
  devices.foldl (fun found device =>
    match device with
    | .scsiController controller =>
      if controller.busNumber = busNumber then some controller.key else found
    | _ => found) none

def hasController : Bool :=
  devices.any fun device =>
    match device with
    | .scsiController _ => true
    | _ => false

def usedUnitNumbers (key : Int) : List Int :=
  devices.filterMap fun device =>
    match device with
    | .disk disk => if disk.controllerKey = key then disk.unitNumber else none
    | _ => none

/-- The first free unit of a controller; unit 7 is the controller itself. -/
def freeUnit (used : List Int) : Option Int :=
  ([0, 1, 2, 3, 4, 5, 6, 8, 9, 10, 11, 12, 13, 14, 15] : List Int).find? fun unit => unit ∉ used

/-- The type of a new controller, with its default. -/
def scsiType (name : String) : Option ScsiType :=
  match (if name = "" then "pvscsi" else name).toLower with
  | "pvscsi" => some .pvscsi
  | "lsilogic" => some .lsilogic
  | "lsilogic-sas" => some .lsilogicSas
  | "buslogic" => some .buslogic
  | _ => none

/-- The disk to be attached, as file `diskIndex` of the VM. -/
def additionalDisk (diskSpec : AdditionalDiskSpec) (vmName : String) (datastore : Datastore)
    (diskIndex : Nat) (key unit : Int) : VirtualDisk :=
  let type := diskSpec.type.toLower
  { key := -1
    controllerKey := key
    unitNumber := some unit
    fileName := "[" ++ datastore.name ++ "] " ++ vmName ++ "/" ++ vmName ++ "_" ++
      Go.formatInt diskIndex ++ ".vmdk"
    datastore := some datastore.ref
    thinProvisioned := some (decide (type ≠ "thick" ∧ type ≠ "eagerzeroedthick"))
    eagerlyScrub := if type = "eagerzeroedthick" then some true else none
    label := diskSpec.name
    summary := Go.formatInt diskSpec.sizeGiB ++ " GB disk"
    capacityInKB := diskSpec.sizeGiB * 1024 * 1024 }

def primaryDisk : Option VirtualDisk :=
  devices.findSome? fun device =>
    match device with
    | .disk disk => some disk
    | _ => none

end

/-- `selectBestDatastoreByFreeSpace`: of equal ones the first. -/
def selectBestDatastoreByFreeSpace (first : DatastoreSummary) (rest : List DatastoreSummary) :
    DatastoreSummary :=
  rest.foldl (fun best ds => if ds.freeSpace > best.freeSpace then ds else best) first

/-- Where the VM is built. -/
structure Place where
  (template pool : MoRef)
  datastore : Datastore
  folder : MoRef
  network : Option MoRef

/-- The two variables that say what was created. -/
structure Created where
  vmRef : MoRef := {}
  vmID : String := ""
  deriving DecidableEq, Repr

section

variable {m : Type → Type} [Monad m] (vcenter : (c : Call) → m (Answer c))

def resolveDatastoreFromStoragePod (name : String) : m (Except GoError Datastore) := do
  match ← vcenter .createContainerView with
  | some err => return .error (err.wrap "failed to create container view for StoragePods")
  | none =>
  match ← vcenter .storagePods with
  | .error err => return .error (err.wrap "failed to retrieve StoragePods")
  | .ok pods =>
  match (pods.find? fun pod => pod.1 = name).bind (·.2) with
  | none => return .error (errorf ("StoragePod '" ++ name ++ "' not found"))
  | some [] => return .error (errorf ("StoragePod '" ++ name ++ "' contains no datastores"))
  | some (child :: children) =>
  match ← vcenter (.datastoreSummaries (child :: children)) with
  | .error err =>
    return .error (err.wrap ("failed to retrieve datastores from StoragePod '" ++ name ++ "'"))
  | .ok [] => return .error (errorf ("StoragePod '" ++ name ++ "' has no accessible datastores"))
  | .ok (first :: rest) =>
    vcenter (.findDatastore (selectBestDatastoreByFreeSpace first rest).name)

def findDatastore (name : String) : m (Except GoError Datastore) := do
  match ← vcenter (.findDatastore name) with
  | .error err => return .error (err.wrap ("failed to find datastore '" ++ name ++ "'"))
  | .ok datastore => return .ok datastore

variable (base64 : String → String) (config : Config) (spec : VMSpec) (place : Place)

/-- The datastore of the specification, of the storage pod, or the default one. -/
def placeDatastore : m (Except GoError Datastore) := do
  if spec.datastore ≠ "" then findDatastore vcenter spec.datastore
  else
  let pod := if spec.storagePod ≠ "" then spec.storagePod else config.defaultStoragePod
  if pod ≠ "" then
    match ← resolveDatastoreFromStoragePod vcenter pod with
    | .error err =>
      return .error (err.wrap ("failed to resolve datastore from StoragePod '" ++ pod ++ "'"))
    | .ok datastore => return .ok datastore
  else findDatastore vcenter config.defaultDatastore

/-- A folder that cannot be found is replaced by the one of the datacenter. -/
def placeFolder (datacenter : String) : m (Except GoError MoRef) := do
  let name := if spec.folder ≠ "" then spec.folder else config.defaultFolder
  match ← vcenter (.findFolder name) with
  | .ok folder => return .ok folder
  | .error _ =>
  match ← vcenter (.findFolder (datacenter ++ "/vm")) with
  | .ok folder => return .ok folder
  | .error err => return .error (err.wrap "failed to find datacenter VM folder")

def findNetwork : m (Except GoError (Option MoRef)) := do
  if spec.networkName = "" then return .ok none
  else
  match ← vcenter (.findNetwork spec.networkName) with
  | .error err =>
    return .error (err.wrap ("failed to find network '" ++ spec.networkName ++ "'"))
  | .ok network => return .ok (some network)

/-- The template; none is looked up for an imported disk. -/
def findTemplate : m (Except GoError MoRef) := do
  if spec.diskPath ≠ "" then return .ok {}
  else if spec.templateName = "" then
    return .error (errorf "either templateName or diskPath must be specified")
  else
  match ← vcenter (.findVirtualMachine spec.templateName) with
  | .error err =>
    return .error (err.wrap ("failed to find template VM '" ++ spec.templateName ++ "'"))
  | .ok template => return .ok template

def placeVM : m (Except GoError Place) := do
  match ← vcenter .defaultDatacenter with
  | .error err => return .error (err.wrap "failed to find default datacenter")
  | .ok datacenter =>
  match ← findTemplate vcenter spec with
  | .error err => return .error err
  | .ok template =>
  let clusterName := if spec.cluster ≠ "" then spec.cluster else config.defaultCluster
  match ← vcenter (.findCluster clusterName) with
  | .error err => return .error (err.wrap ("failed to find cluster '" ++ clusterName ++ "'"))
  | .ok cluster =>
  match ← vcenter (.resourcePool cluster) with
  | .error err => return .error (err.wrap "failed to get resource pool from cluster")
  | .ok pool =>
  match ← placeDatastore vcenter config spec with
  | .error err => return .error err
  | .ok datastore =>
  match ← placeFolder vcenter config spec datacenter with
  | .error err => return .error err
  | .ok folder =>
  match ← findNetwork vcenter spec with
  | .error err => return .error err
  | .ok network => return .ok ⟨template, pool, datastore, folder, network⟩

/-- The VM around an imported disk. The task's result is bound to a `vmRef` of the inner
block, so the outer variable keeps its zero value. -/
def createFromDisk : m (Except GoError Created) := do
  match ← vcenter (.createVM place.folder (diskConfig base64 spec place.network) place.pool) with
  | .error err => return .error (err.wrap "failed to create VM")
  | .ok task =>
  match ← vcenter (.waitForResult task) with
  | .error err => return .error (err.wrap "VM creation task failed")
  | .ok (.other typeName) =>
    return .error (errorf ("unexpected result type from create task: " ++ typeName))
  | .ok (.reference vmRef) => return .ok { vmID := vmRef.value }

/-- The VM from a template; here the task's result is assigned to the outer `vmRef`. -/
def cloneFromTemplate : m (Except GoError Created) := do
  match ← vcenter (.cloneVM place.template place.folder spec.name
      ⟨place.datastore.ref, place.pool, cloneConfig base64 spec place.network⟩) with
  | .error err => return .error (err.wrap "failed to start clone operation")
  | .ok task =>
  match ← vcenter (.waitForResult task) with
  | .error err => return .error (err.wrap "clone task failed")
  | .ok (.other typeName) =>
    return .error (errorf ("unexpected result type from clone task: " ++ typeName))
  | .ok (.reference vmRef) => return .ok { vmRef := vmRef, vmID := vmRef.value }

section

variable (vm : MoRef)

/-- A reconfiguration and the wait for its task. -/
def reconfigureAndWait (change : DeviceChange) (startText waitText : String) : m (Option GoError)
    := do
  match ← vcenter (.reconfigure vm { deviceChange := [change] }) with
  | .error err => return some (err.wrap startText)
  | .ok task =>
  match ← vcenter (.waitForResult task) with
  | .error err => return some (err.wrap waitText)
  | .ok _ => return none

/-- `resizeVMDisk`: the disk only grows. -/
def resizeVMDisk (targetSizeGB : Int) : m (Option GoError) := do
  match ← vcenter (.properties vm) with
  | .error err => return some (err.wrap "failed to get VM properties")
  | .ok hardware =>
  match primaryDisk hardware.devices with
  | none => return some (errorf "no disk found in VM")
  | some disk =>
    if targetSizeGB ≤ disk.capacityInKB.tdiv (1024 * 1024) then return none
    else
      reconfigureAndWait vcenter vm
        { edit := true, device := .disk { disk with capacityInKB := targetSizeGB * 1024 * 1024 } }
        "failed to start disk resize task" "disk resize task failed"

def createSCSIController (busNumber : Int) (controllerType sharedBus : String) : m
    (Except GoError Int) := do
  match scsiType controllerType with
  | none => return .error (errorf ("unsupported SCSI controller type: " ++ controllerType))
  | some type =>
  let sharedBus := if sharedBus = "" then "noSharing" else sharedBus
  match ← reconfigureAndWait vcenter vm
      { device := .scsiController ⟨-1, busNumber, type, sharedBus⟩ }
      "failed to start controller creation task" "controller creation task failed" with
  | some err => return .error err
  | none =>
  match ← vcenter (.properties vm) with
  | .error err =>
    return .error (err.wrap "failed to get VM properties after controller creation")
  | .ok hardware =>
  match hardware.devices.findSome? (fun device =>
      match device with
      | .scsiController controller =>
        if controller.busNumber = busNumber then some controller.key else none
      | _ => none) with
  | some key => return .ok key
  | none =>
    return .error (errorf ("failed to find newly created SCSI controller (bus " ++
      Go.formatInt busNumber ++ ")"))

/-- The controller for the disk, made if the VM has none on the requested bus, with the
units that are taken. -/
def selectController (diskSpec : AdditionalDiskSpec) (devices : List Device) : m
    (Except GoError (Int × List Int)) := do
  match diskSpec.scsiController with
  | some bus =>
    match controllerKey devices bus with
    | some key => return .ok (key, usedUnitNumbers devices key)
    | none =>
    match ← createSCSIController vcenter vm bus diskSpec.scsiControllerType
        diskSpec.scsiSharedBus with
    | .error err => return .error (err.wrap "failed to create SCSI controller")
    | .ok key => return .ok (key, [])
  | none =>
    if hasController devices = false then
      return .error (errorf "no SCSI controller found in VM")
    else
    match controllerKey devices 0 with
    | some key => return .ok (key, usedUnitNumbers devices key)
    | none => return .error (errorf "no SCSI controller found on bus 0")

def attachAdditionalDisk (diskSpec : AdditionalDiskSpec) (datastore : Datastore) (diskIndex : Nat) :
    m (Option GoError) := do
  match ← vcenter (.properties vm) with
  | .error err => return some (err.wrap "failed to get VM properties")
  | .ok hardware =>
  match ← selectController vcenter vm diskSpec hardware.devices with
  | .error err => return some err
  | .ok (key, used) =>
  match freeUnit used with
  | none =>
    return some (errorf "no available unit numbers on SCSI controller (all 15 slots used)")
  | some unit =>
    reconfigureAndWait vcenter vm
      { createFile := true,
        device := .disk (additionalDisk diskSpec hardware.name datastore diskIndex key unit) }
      "failed to start disk attachment task" "disk attachment task failed"

/-- The loop over the additional disks. A disk that cannot be attached is only logged. -/
def attachAll (vm : MoRef) (datastore : Datastore) : List AdditionalDiskSpec → Nat → m Unit
  | [], _ => return ()
  | diskSpec :: rest, index => do
    let _ ← attachAdditionalDisk vcenter vm diskSpec datastore index
    attachAll vm datastore rest (index + 1)

/-- The power-on. Its failures are only logged. -/
def powerOnVM : m Unit := do
  match ← vcenter (.powerOn vm) with
  | .error _ => return ()
  | .ok task =>
    let _ ← vcenter (.waitForResult task)
    return ()

/-- The growth of the primary disk, if a size is asked for. A failure is only logged. -/
def growDisk (diskSizeGB : Int) : m Unit := do
  if diskSizeGB > 0 then
    let _ ← resizeVMDisk vcenter vm diskSizeGB
    return ()
  else return ()

end

/-- Everything after the creation. -/
def finishVM (datastore : Datastore) (created : Created) : m String := do
  growDisk vcenter created.vmRef spec.diskSizeGB
  attachAll vcenter created.vmRef datastore spec.additionalDisks 1
  powerOnVM vcenter created.vmRef
  return created.vmID

/-- One of the two ways to build the VM. -/
def buildVM : m (Except GoError Created) :=
  if spec.diskPath ≠ "" then createFromDisk vcenter base64 spec place
  else cloneFromTemplate vcenter base64 spec place

def createVirtualMachine : m (Except GoError String) := do
  match ← placeVM vcenter config spec with
  | .error err => return .error err
  | .ok place =>
  match ← buildVM vcenter base64 spec place with
  | .error err => return .error err
  | .ok created =>
    let id ← finishVM vcenter spec place.datastore created
    return .ok id

end

open Effects Program List Option

/-- The call is applied to no VM. -/
def Placing (c : Call) : Prop := c.target = none

/-- The call is applied to this VM, if it is applied to one. -/
def WorksOn (vm : MoRef) (c : Call) : Prop := c.target = none ∨ c.target = some vm

/-- Such a call that builds no VM. -/
def Besides (P : Call → Prop) (c : Call) : Prop := P c ∧ c.submitted = none

theorem placeVM_only (config : Config) (spec : VMSpec) :
    (placeVM perform config spec : Program Call Answer _).Only (Besides Placing) := by
  unfold placeVM findTemplate placeDatastore resolveDatastoreFromStoragePod findDatastore
    placeFolder findNetwork
  repeat' first
    | trivial
    | exact ⟨⟨rfl, rfl⟩, fun _ => trivial⟩
    | refine only_perform ⟨rfl, rfl⟩ fun _ => ?_
    | refine Only.bind ?_ fun _ => ?_
    | split
    | dsimp only

theorem reconfigureAndWait_only (vm : MoRef) (change : DeviceChange) (startText waitText : String) :
    (reconfigureAndWait perform vm change startText waitText : Program Call Answer _).Only
      (Besides (WorksOn vm)) := by
  refine ⟨⟨.inr rfl, rfl⟩, fun task => ?_⟩
  cases task with
  | error err => trivial
  | ok task =>
    refine ⟨⟨.inl rfl, rfl⟩, fun result => ?_⟩
    cases result <;> trivial

theorem growDisk_only (vm : MoRef) (diskSizeGB : Int) :
    (growDisk perform vm diskSizeGB : Program Call Answer _).Only (Besides (WorksOn vm)) := by
  unfold growDisk resizeVMDisk
  repeat' first
    | trivial
    | exact reconfigureAndWait_only vm _ _ _
    | refine only_perform ⟨.inr rfl, rfl⟩ fun _ => ?_
    | refine Only.bind ?_ fun _ => ?_
    | split

theorem attachAdditionalDisk_only (vm : MoRef) (diskSpec : AdditionalDiskSpec)
    (datastore : Datastore) (diskIndex : Nat) :
    (attachAdditionalDisk perform vm diskSpec datastore diskIndex :
      Program Call Answer _).Only (Besides (WorksOn vm)) := by
  unfold attachAdditionalDisk selectController createSCSIController
  repeat' first
    | trivial
    | exact reconfigureAndWait_only vm _ _ _
    | refine (reconfigureAndWait_only vm _ _ _).bind fun _ => ?_
    | refine only_perform ⟨.inr rfl, rfl⟩ fun _ => ?_
    | refine Only.bind ?_ fun _ => ?_
    | split

theorem attachAll_only (vm : MoRef) (datastore : Datastore) (disks : List AdditionalDiskSpec)
    (index : Nat) :
    (attachAll perform vm datastore disks index : Program Call Answer _).Only
      (Besides (WorksOn vm)) := by
  induction disks generalizing index with
  | nil => trivial
  | cons diskSpec rest ih =>
    exact (attachAdditionalDisk_only vm diskSpec datastore index).bind fun _ => ih (index + 1)

theorem powerOnVM_only (vm : MoRef) :
    (powerOnVM perform vm : Program Call Answer _).Only (Besides (WorksOn vm)) := by
  refine ⟨⟨.inr rfl, rfl⟩, fun task => ?_⟩
  cases task with
  | error err => trivial
  | ok task => exact ⟨⟨.inl rfl, rfl⟩, fun _ => trivial⟩

theorem finishVM_only (spec : VMSpec) (datastore : Datastore) (created : Created) :
    (finishVM perform spec datastore created : Program Call Answer _).Only
      (Besides (WorksOn created.vmRef)) := by
  refine (growDisk_only created.vmRef _).bind fun _ => ?_
  refine (attachAll_only created.vmRef datastore _ 1).bind fun _ => ?_
  exact (powerOnVM_only created.vmRef).bind fun _ => trivial

theorem finishVM_returns (spec : VMSpec) (datastore : Datastore) (created : Created) :
    (finishVM perform spec datastore created : Program Call Answer _).Returns
      (· = created.vmID) := by
  refine (returns_true _).bind fun _ _ => ?_
  refine (returns_true _).bind fun _ _ => ?_
  exact (returns_true _).bind fun _ _ => rfl

/-- The log shows a task that ended with this VM as its result. -/
def Built (vm : MoRef) (log : List (Event Call Answer)) : Prop :=
  ∃ task, ⟨.waitForResult task, .ok (.reference vm)⟩ ∈ log

/-- No call so far was applied to a VM. -/
def Untouched (log : List (Event Call Answer)) : Prop := ∀ event ∈ log, Placing event.1

/-- Every call so far that was applied to a VM was applied to this one. -/
def OnlyOn (vm : MoRef) (log : List (Event Call Answer)) : Prop :=
  ∀ event ∈ log, WorksOn vm event.1

/-- A template gives a VM whose reference and id belong together. -/
theorem cloneFromTemplate_builds (base64 : String → String) (spec : VMSpec) (place : Place)
    {log : List (Event Call Answer)} (hlog : Untouched log) :
    (cloneFromTemplate perform base64 spec place).Obeys (fun _ _ => True)
      (fun result log' => ∀ created, result = .ok created →
        created.vmRef.value = created.vmID ∧ Built created.vmRef log' ∧ Untouched log') log := by
  refine ⟨trivial, fun task => ?_⟩
  cases task with
  | error err => exact fun created hcreated => nomatch hcreated
  | ok task =>
  refine ⟨trivial, fun result => ?_⟩
  cases result with
  | error err => exact fun created hcreated => nomatch hcreated
  | ok result =>
  cases result with
  | other typeName => exact fun created hcreated => nomatch hcreated
  | reference vmRef =>
    rintro created ⟨⟩
    refine ⟨rfl, ⟨task, .head _⟩, ?_⟩
    exact forall_mem_cons.mpr ⟨rfl, forall_mem_cons.mpr ⟨rfl, hlog⟩⟩

/-- What the caller of `createVirtualMachine` may rely on. -/
def Settled (result : Except GoError String) (log : List (Event Call Answer)) : Prop :=
  ∀ id, result = .ok id → ∃ vm : MoRef, vm.value = id ∧ Built vm log ∧ OnlyOn vm log

theorem createVirtualMachine_settled (base64 : String → String) (config : Config) {spec : VMSpec}
    (hclone : spec.diskPath = "") :
    (createVirtualMachine perform base64 config spec).Obeys (fun _ _ => True) Settled [] := by
  have hplace : (placeVM perform config spec).Obeys (fun _ _ => True)
      (fun _ log => True ∧ Untouched log) [] :=
    (placeVM_only config spec).obeys (returns_true _) (forall_mem_nil _)
      (fun log c hlog hcall => ⟨trivial, fun _ => forall_mem_cons.mpr ⟨hcall.1, hlog⟩⟩)
  refine hplace.bind fun place log _ hlog => ?_
  cases place with
  | error err => exact fun id hid => nomatch hid
  | ok place =>
  dsimp only [buildVM]
  rw [if_neg (not_not_intro hclone)]
  refine (cloneFromTemplate_builds base64 spec place hlog.2).bind fun created log' _ hcreated => ?_
  cases created with
  | error err => exact fun id hid => nomatch hid
  | ok created =>
  obtain ⟨hid, hbuilt, huntouched⟩ := hcreated created rfl
  have honly : OnlyOn created.vmRef log' := fun event hevent => .inl (huntouched event hevent)
  -- the last part adds only calls on the new VM, and the log keeps the task that built it
  have hfinish : (finishVM perform spec place.datastore created).Obeys (fun _ _ => True)
      (fun id log => id = created.vmID ∧ OnlyOn created.vmRef log) log' :=
    (finishVM_only spec place.datastore created).obeys
      (finishVM_returns spec place.datastore created) honly
      (fun log c hlog hcall => ⟨trivial, fun _ => forall_mem_cons.mpr ⟨hcall.1, hlog⟩⟩)
  refine hfinish.bind fun id log'' hsuffix hlast => ?_
  rintro returned ⟨⟩
  obtain ⟨task, htask⟩ := hbuilt
  exact ⟨created.vmRef, hid.trans hlast.1.symm, ⟨task, hsuffix.subset htask⟩, hlast.2⟩

/-- A vCenter with this storage pod, on which a VM is built and nothing more can be done with it. -/
def building (pod : String) : (c : Call) → Answer c
  | .defaultDatacenter => .ok ""
  | .findVirtualMachine _ | .findCluster _ | .resourcePool _ | .findFolder _ | .findNetwork _
  | .createVM _ _ _ | .cloneVM _ _ _ _ => .ok {}
  | .findDatastore name => .ok ⟨name, {}⟩
  | .createContainerView => none
  | .storagePods => .ok [(pod, some [{}])]
  | .datastoreSummaries _ => .ok [⟨"", 0⟩]
  | .waitForResult _ => .ok (.reference { value := "vm-1" })
  | .properties _ | .reconfigure _ _ | .powerOn _ => .error (errorf "")

section Disk

variable (config : Config) (spec : VMSpec) (log : List (Event Call Answer))

theorem resolveDatastoreFromStoragePod_building (pod : String) : ∃ datastore log',
    (resolveDatastoreFromStoragePod perform pod).eval (logging (building pod)) log =
      (.ok datastore, log') := by
  simp [resolveDatastoreFromStoragePod, logging, building, perform]

variable {pod : String}
  (hpod : pod = if spec.storagePod ≠ "" then spec.storagePod else config.defaultStoragePod)

section

include hpod

theorem placeDatastore_building : ∃ datastore log',
    (placeDatastore perform config spec).eval (logging (building pod)) log =
      (.ok datastore, log') := by
  unfold placeDatastore
  rw [← hpod]
  split
  · exact ⟨_, _, rfl⟩
  dsimp only
  split
  · obtain ⟨datastore, log', hresolve⟩ := resolveDatastoreFromStoragePod_building log pod
    exact ⟨datastore, log', eval_bind_of hresolve⟩
  · exact ⟨_, _, rfl⟩

end

theorem findTemplate_building (hsource : spec.diskPath ≠ "" ∨ spec.templateName ≠ "") :
    ∃ template log',
      (findTemplate perform spec).eval (logging (building pod)) log = (.ok template, log') := by
  unfold findTemplate
  split_ifs with hdisk htemplate
  · exact ⟨_, _, rfl⟩
  · exact absurd hsource (not_or.mpr ⟨hdisk, not_not_intro htemplate⟩)
  · exact ⟨_, _, rfl⟩

theorem findNetwork_building : ∃ network log',
    (findNetwork perform spec).eval (logging (building pod)) log = (.ok network, log') := by
  unfold findNetwork
  split
  · exact ⟨_, _, rfl⟩
  · exact ⟨_, _, rfl⟩

include hpod in
theorem placeVM_building (hsource : spec.diskPath ≠ "" ∨ spec.templateName ≠ "") : ∃ place log',
    (placeVM perform config spec).eval (logging (building pod)) log = (.ok place, log') := by
  simp only [placeVM, perform_bind, eval_call, logging, building]
  obtain ⟨template, _, htemplate⟩ := findTemplate_building spec _ hsource
  rw [eval_bind_of htemplate]
  simp only [eval_call, logging, building]
  obtain ⟨datastore, _, hdatastore⟩ := placeDatastore_building config spec _ hpod
  rw [eval_bind_of hdatastore]
  simp only [placeFolder, perform_bind, call_bind, done_bind, pure_eq_done, eval_call, logging,
    building]
  obtain ⟨network, log', hnetwork⟩ := findNetwork_building spec _
  exact ⟨_, log', eval_bind_of hnetwork⟩

theorem finishVM_building (datastore : Datastore) (created : Created) : ∃ log' answer,
    (finishVM perform spec datastore created).eval (logging (building pod)) log =
      (created.vmID, ⟨.powerOn created.vmRef, answer⟩ :: log') := by
  unfold finishVM
  rw [eval_bind, eval_bind]
  exact ⟨_, _, rfl⟩

include hpod in
/-- The power-on goes to the reference without a value, and the id of the task is returned. -/
theorem createVirtualMachine_building (base64 : String → String) (hdisk : spec.diskPath ≠ "") :
    ∃ log' answer, (createVirtualMachine perform base64 config spec).eval
      (logging (building pod)) log = (.ok "vm-1", ⟨.powerOn {}, answer⟩ :: log') := by
  obtain ⟨place, _, hplace⟩ := placeVM_building config spec log hpod (.inl hdisk)
  unfold createVirtualMachine
  rw [eval_bind_of hplace]
  simp only [buildVM, if_pos hdisk, createFromDisk, perform_bind, call_bind, eval_call, logging,
    building]
  obtain ⟨log', answer, hfinish⟩ := finishVM_building spec _ place.datastore { vmID := "vm-1" }
  exact ⟨log', answer, eval_bind_of hfinish⟩

end Disk

/-- The VM that is resized, extended and powered on is the one that the task built and whose id is
returned exactly if the specification has no imported disk. -/
theorem clone_works_on_returned (base64 : String → String) (config : Config) (spec : VMSpec) :
    (∀ (σ Choice : Type) (vcenter : Host Call Answer σ Choice) (s : σ) (choices : List Choice)
        (out : Outcome Call Answer σ (Except GoError String)) (id : String),
      (createVirtualMachine perform base64 config spec).run vcenter s [] choices = some out →
      out.result = some (.ok id) →
      ∃ vm : MoRef, vm.value = id ∧ Built vm out.log ∧
        ∀ event ∈ out.log, ∀ target, event.1.target = some target → target = vm) ↔
      spec.diskPath = "" := by
  constructor
  · intro h
    by_contra hdisk
    obtain ⟨log, answer, heval⟩ := createVirtualMachine_building config spec [] rfl base64 hdisk
    obtain ⟨choices, hrun⟩ := exists_run_free (building _)
      (createVirtualMachine perform base64 config spec) []
    rw [heval] at hrun
    obtain ⟨vm, hid, -, honly⟩ := h _ _ _ _ _ _ _ hrun rfl
    rw [← honly _ (.head _) {} rfl] at hid
    exact absurd hid (by decide)
  · intro hclone σ Choice vcenter s choices out id hrun hresult
    obtain ⟨vm, hid, hbuilt, honly⟩ :=
      (createVirtualMachine_settled base64 config hclone).run_result hrun hresult id rfl
    refine ⟨vm, hid, hbuilt, fun event hevent target htarget => ?_⟩
    rcases honly event hevent with hnone | hsome
    · rw [hnone] at htarget
      cases htarget
    · rw [hsome] at htarget
      exact (some.inj htarget).symm

namespace Sample

def fromDisk : VMSpec := { name := "web", diskPath := "[ds] web/web.vmdk" }

/-- The run of a request with as many calls as it makes where VMs are built. -/
def outcome (spec : VMSpec) (calls : Nat) :
    Option (Outcome Call Answer Unit (Except GoError String)) :=
  (createVirtualMachine perform id {} spec).run Host.free () [] (replicate calls (building ""))

end Sample

open Creation.Sample

/-- Around an imported disk: the VM `vm-1` is built and returned, and the power-on goes to
the reference without a value. -/
theorem disk_powers_on_nothing :
    ∃ out ∈ outcome fromDisk 8, out.result = some (.ok "vm-1") ∧
      ∃ event ∈ out.log, event.1 = .powerOn {} := by
  decide +kernel

end Virtrigaud.Vsphere.Creation
