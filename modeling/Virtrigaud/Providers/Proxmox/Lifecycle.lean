import Virtrigaud.Api.Contracts
import Virtrigaud.Effects.Ensures
import Virtrigaud.Go.Ints
import Virtrigaud.Go.Strings

/-!
# Create, Describe and Delete of the Proxmox provider

The provider is written over the requests it sends to the PVE API and the commands it
runs over SSH. A VM is identified by its VMID; the node is looked up for each request.
-/

namespace Virtrigaud.Proxmox

/-- The fields of `pveapi.VMConfig` that decide how Create proceeds. -/
structure VMConfig where
  vmid : Int
  name : String
  (cpus memory : Int := 0)
  (template importedDiskPath importedDiskFormat : String := "")
  deriving DecidableEq, Repr

structure VM where
  (name status : String)
  raw : StringMap := []
  deriving DecidableEq, Repr

/-- `ErrVMNotFound` is the answer 404; everything else is another error. -/
inductive GetVMError
  | vmNotFound
  | other (err : GoError)
  deriving DecidableEq, Repr

/-- What a reconfiguration sets: the sizing of the class, or cloud-init with the boot
order for the detected disk. -/
inductive Settings
  | sizing (cores memory : Int)
  | cloudInit (primaryDisk : String)
  | importedCloudInit (storage : String)
  deriving DecidableEq, Repr

/-- The requests and commands. `importedVolume` resolves the volume that an import
created from `qm config`, the output of the import, or the conventional name. -/
inductive Call
  | getNextVMID
  | now
  | findNode
  | getVM (node : String) (vmid : Int)
  | cloneVM (node : String) (templateID : Int) (config : VMConfig)
  | createVM (node : String) (config : VMConfig)
  | waitForTask (node taskID : String)
  | reconfigureVM (node : String) (vmid : Int) (settings : Settings)
  | detectPrimaryDisk (node : String) (vmid : Int)
  | powerOperation (node : String) (vmid : Int) (operation : String)
  | deleteVM (node : String) (vmid : Int)
  | guestNetworkIPs (node : String) (vmid : Int)
  | importDisk (vmid : Int) (path storage format : String)
  | importedVolume (vmid : Int) (storage output : String)
  | attachDisk (vmid : Int) (volume : String)
  | removeNodeFile (path : String)
  deriving DecidableEq

/-- Requests that start a task answer its id; commands that fail answer their stderr. -/
@[reducible] def Answer : Call → Type
  | .getNextVMID => Except GoError Int
  | .now => Time
  | .findNode => Except GoError String
  | .getVM _ _ => Except GetVMError VM
  | .cloneVM _ _ _ => Except GoError String
  | .createVM _ _ => Except GoError String
  | .waitForTask _ _ => Option GoError
  | .reconfigureVM _ _ _ => Except GoError String
  | .detectPrimaryDisk _ _ => Except GoError String
  | .powerOperation _ _ _ => Except GoError String
  | .deleteVM _ _ => Except GoError String
  | .guestNetworkIPs _ _ => Except GoError (List String)
  | .importDisk _ _ _ _ => Except (String × GoError) String
  | .importedVolume _ _ _ => String
  | .attachDisk _ _ => Option (String × GoError)
  | .removeNodeFile _ => Option GoError

/-- The provider's configuration: its SSH data plane and its storage default. -/
structure Config where
  ssh : Bool := false
  (defaultStorage endpoint : String := "")
  deriving DecidableEq, Repr

def newInternal (message : String) (cause : GoError) : GrpcError :=
  ⟨.internal, message ++ ": " ++ cause.text⟩

def newInvalidSpec (message : String) : GrpcError := ⟨.invalidArgument, message⟩

def newUnavailable (service : String) : GrpcError :=
  ⟨.unavailable, "service unavailable: " ++ service⟩

/-- How an error of the create request is classified, by its text. -/
def createError (vmid : Int) (err : GoError) : GrpcError :=
  let mentions (text : String) : Bool := Go.contains err.text.toList text.toList
  if mentions "already exists" then
    ⟨.alreadyExists, "VM " ++ Go.quoted (Go.formatInt vmid) ++ " already exists"⟩
  else if mentions "insufficient" || mentions "no space" then
    ⟨.resourceExhausted, "rate limit exceeded"⟩
  else if mentions "permission" || mentions "access denied" then
    ⟨.permissionDenied, "permission denied: create VM"⟩
  else if mentions "invalid" || mentions "bad parameter" then
    newInvalidSpec ("invalid VM configuration: " ++ err.text)
  else if mentions "timeout" || mentions "connection" then
    ⟨.unavailable, "service unavailable: Proxmox VE API unavailable: %v: " ++ err.text⟩
  else newInternal "failed to create VM" err

section

variable {m : Type → Type} [Monad m] (pve : (c : Call) → m (Answer c)) (cfg : Config)

variable (req : CreateRequest) (node : String) (config : VMConfig)

/-- `WaitForTask`, when there is a task. -/
def awaitTask (taskID : String) : m (Option GoError) := do
  if taskID ≠ "" then pve (.waitForTask node taskID) else return none

/-- `nextVMID`: the cluster's choice, or one derived from the clock. -/
def nextVMID : m Int := do
  match ← pve .getNextVMID with
  | .ok vmid => return vmid
  | .error _ => return (((← pve .now) / second).tmod 999999) + 100000

/-- `parseCreateRequest`: a fresh VMID, what the request says, and a node. -/
def parseCreateRequest : m (Except GoError (VMConfig × String)) := do
  let vmid ← nextVMID pve
  let path := String.ofList (Go.trimSpace req.image.path.toList)
  let imported := decide (path ≠ "") && decide (req.image.templateName = "")
  let config : VMConfig := {
    vmid, name := req.name
    cpus := if req.vmClass.cpu > 0 then req.vmClass.cpu else 0
    memory := if req.vmClass.memoryMiB > 0 then req.vmClass.memoryMiB else 0
    template := req.image.templateName
    importedDiskPath := if imported then path else ""
    importedDiskFormat := if imported then req.image.format else "" }
  match ← pve .findNode with
  | .error err => return .error (err.wrap "failed to find node")
  | .ok node => return .ok (config, node)

/-- `parseVMReference`: a VMID, whose node is looked up, or `node:vmid`. -/
def parseVMReference (ref : String) : m (Except GoError (Int × String)) := do
  match Go.atoi ref with
  | some vmid =>
    match ← pve .findNode with
    | .error err => return .error (err.wrap "failed to find node")
    | .ok node => return .ok (vmid, node)
  | none =>
    match ref.toList.splitOn ':' with
    | [node, id] =>
      match Go.atoi (String.ofList id) with
      | some vmid => return .ok (vmid, String.ofList node)
      | none => return .error (errorf ("invalid VMID in reference: " ++ String.ofList id))
    | _ => return .error (errorf ("invalid VM reference format: " ++ ref))

/-- `applyVMClassSizing`. -/
def applyVMClassSizing : m (Option GoError) := do
  if config.cpus > 0 ∨ config.memory > 0 then
    match ← pve (.reconfigureVM node config.vmid (.sizing config.cpus config.memory)) with
    | .error err => return some err
    | .ok task => awaitTask pve node task
  else return none

/-- Cloud-init on a clone, which fails or answers the task of the last request. -/
def reconfigureCloudInit : m (Except GrpcError String) := do
  let primaryDisk := (← pve (.detectPrimaryDisk node config.vmid)).toOption.getD "scsi0"
  match ← pve (.reconfigureVM node config.vmid (.cloudInit primaryDisk)) with
  | .error err => return .error (newInternal "failed to reconfigure VM" err)
  | .ok task =>
  match ← awaitTask pve node task with
  | some err => return .error (newInternal "reconfigure task failed" err)
  | none => return .ok task

/-- The branch of Create that clones a template; it answers the task of the last request. -/
def createFromTemplate : m (Except GrpcError String) := do
  match Go.atoi config.template with
  | none =>
    return .error (newInvalidSpec ("invalid template ID '" ++ config.template ++
      "': strconv.Atoi: parsing " ++ Go.quoted config.template ++ ": invalid syntax"))
  | some templateID =>
  match ← pve (.cloneVM node templateID config) with
  | .error err => return .error (newInvalidSpec ("failed to clone template: " ++ err.text))
  | .ok task =>
  match ← awaitTask pve node task with
  | some err => return .error (newInternal "clone task failed" err)
  | none =>
  match ← applyVMClassSizing pve node config with
  | some err => return .error (newInternal "failed to apply VMClass sizing to cloned VM" err)
  | none =>
  if req.userData.getD "" ≠ "" then reconfigureCloudInit pve node config
  else return .ok task

/-- Attach the staged disk to the shell, and cloud-init if there is user data. -/
def attachImportedDisk (storage format : String) (config : VMConfig) : m (Option GrpcError) := do
  match ← pve (.importDisk config.vmid config.importedDiskPath storage format) with
  | .error (stderr, err) =>
    return some (newInternal ("qm importdisk failed for vmid " ++ Go.formatInt config.vmid ++
      " (stderr: " ++ stderr ++ ")") err)
  | .ok output =>
  let volume ← pve (.importedVolume config.vmid storage output)
  match ← pve (.attachDisk config.vmid volume) with
  | some (stderr, err) =>
    return some (newInternal ("qm set (attach imported disk) failed for vmid " ++
      Go.formatInt config.vmid ++ " (stderr: " ++ stderr ++ ")") err)
  | none =>
  if req.userData.getD "" ≠ "" then
    match ← pve (.reconfigureVM node config.vmid (.importedCloudInit storage)) with
    | .error err =>
      return some (newInternal ("failed to attach cloud-init to imported-disk VM " ++
        Go.formatInt config.vmid) err)
    | .ok task =>
      return (← awaitTask pve node task).map (newInternal "cloud-init reconfigure task failed")
  else return none

/-- The rollback of a shell whose disk could not be attached; its errors are only logged. -/
def deleteShell (vmid : Int) : m Unit := do
  match ← pve (.deleteVM node vmid) with
  | .error _ => return ()
  | .ok task =>
    let _ ← awaitTask pve node task
    return ()

/-- `createFromImportedDisk`. -/
def createFromImportedDisk : m (Except GrpcError CreateResponse) := do
  if !cfg.ssh then
    return .error (newUnavailable
      "migration SSH data plane not configured; cannot attach imported disk via qm importdisk")
  else
  let storage := if cfg.defaultStorage = "" then "local-lvm" else cfg.defaultStorage
  let format := if config.importedDiskFormat = "" then "qcow2" else config.importedDiskFormat
  match ← pve (.createVM node { config with template := "" }) with
  | .error err => return .error (newInternal "failed to create VM shell for imported disk" err)
  | .ok task =>
  match ← awaitTask pve node task with
  | some err => return .error (newInternal "VM shell create task failed" err)
  | none =>
  match ← attachImportedDisk pve req node storage format config with
  | some err =>
    deleteShell pve node config.vmid
    return .error err
  | none =>
    let _ ← pve (.removeNodeFile config.importedDiskPath)
    return .ok { id := Go.formatInt config.vmid }

/-- How Create proceeds once it has a VMID. -/
def createWith : m (Except GrpcError CreateResponse) := do
  if config.importedDiskPath ≠ "" then createFromImportedDisk pve cfg req node config
  else if config.template ≠ "" then
    match ← createFromTemplate pve req node config with
    | .error err => return .error err
    | .ok task => return .ok { id := Go.formatInt config.vmid, taskRef := task }
  else
    match ← pve (.createVM node config) with
    | .error err => return .error (createError config.vmid err)
    | .ok task => return .ok { id := Go.formatInt config.vmid, taskRef := task }

/-- Only a VM under the VMID that was just drawn is looked at for the name. -/
def create : m (Except GrpcError CreateResponse) := do
  match ← parseCreateRequest pve req with
  | .error err =>
    return .error (newInvalidSpec ("failed to parse create request: " ++ err.text))
  | .ok (config, node) =>
  match ← pve (.getVM node config.vmid) with
  | .ok existing =>
    if existing.name = req.name then return .ok { id := Go.formatInt config.vmid }
    else
      let vmid ← nextVMID pve
      createWith pve cfg req node { config with vmid }
  | .error _ => createWith pve cfg req node config

def describe (id : String) : m (Except GrpcError DescribeResponse) := do
  match ← parseVMReference pve id with
  | .error err => return .error (newInvalidSpec ("invalid VM reference: " ++ err.text))
  | .ok (vmid, node) =>
  match ← pve (.getVM node vmid) with
  | .error .vmNotFound => return .ok { doesExist := false, powerState := .other "notfound" }
  | .error (.other err) => return .error (newInternal "failed to describe VM" err)
  | .ok vm =>
    let ips ← if vm.status = "running" then
      (do return (← pve (.guestNetworkIPs node vmid)).toOption.getD []) else pure []
    return .ok {
      doesExist := true
      powerState := if vm.status ∈ ["running", "suspended", "paused"] then .on else .off
      ips
      consoleURL := Go.trimSuffix cfg.endpoint "/api2" ++ "/#v1:0:=qemu/" ++
        Go.formatInt vmid ++ ":4:5:=console"
      providerRaw := vm.raw }

/-- PVE does not destroy a running VM, so it is stopped first. -/
def stopFirst (vmid : Int) : m (Option GrpcError) := do
  match ← pve (.getVM node vmid) with
  | .error _ => return none
  | .ok vm =>
  if vm.status ∈ ["running", "paused", "suspended"] then
    match ← pve (.powerOperation node vmid "stop") with
    | .error err => return some (newInternal "failed to stop VM before delete" err)
    | .ok task =>
      return (← awaitTask pve node task).map
        (newInternal "failed waiting for VM to stop before delete")
  else return none

/-- A VM that PVE does not know counts as deleted. -/
def delete (id : String) : m (Except GrpcError String) := do
  match ← parseVMReference pve id with
  | .error err => return .error (newInvalidSpec ("invalid VM reference: " ++ err.text))
  | .ok (vmid, node) =>
  match ← stopFirst pve node vmid with
  | some err => return .error err
  | none =>
  match ← pve (.deleteVM node vmid) with
  | .error err => return .error (newInternal "failed to delete VM" err)
  | .ok task =>
  match ← awaitTask pve node task with
  | some err => return .error (newInternal "failed waiting for VM destroy task" err)
  | none => return .ok ""

end

open Effects Program

variable {C : Type} {A : C → Type} {P : C → Prop} {pve : (c : Call) → Program C A (Answer c)}
  (h : ∀ c, (pve c).Only P)
include h

theorem nextVMID_only : (nextVMID pve).Only P := by
  repeat' first
    | trivial
    | exact h _
    | refine Only.bind ?_ fun _ => ?_
    | split

theorem createWith_only (cfg : Config) (req : CreateRequest) (node : String) (config : VMConfig) :
    (createWith pve cfg req node config).Only P := by
  unfold createWith createFromImportedDisk attachImportedDisk deleteShell createFromTemplate
    applyVMClassSizing reconfigureCloudInit awaitTask
  repeat' first
    | trivial
    | exact h _
    | refine Only.bind ?_ fun _ => ?_
    | split

theorem create_only (cfg : Config) (req : CreateRequest) : (create pve cfg req).Only P := by
  unfold create parseCreateRequest
  repeat' first
    | trivial
    | exact h _
    | exact nextVMID_only h
    | exact createWith_only h cfg req _ _
    | refine Only.bind ?_ fun _ => ?_
    | split

end Virtrigaud.Proxmox
