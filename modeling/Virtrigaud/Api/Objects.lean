import Virtrigaud.Api.Meta

/-!
# Objects the controllers read

VirtualMachines, Providers, the core objects (claims, secrets, Deployments, pods) and what a
VirtualMachine refers to, reduced to the fields some modelled function reads or writes. A
`resource.Quantity` is its value in bytes.
-/

namespace Virtrigaud

inductive PowerState
  | unset
  | on
  | off
  | offGraceful
  deriving DecidableEq, Repr

def PowerState.text : PowerState → String
  | .unset => ""
  | .on => "On"
  | .off => "Off"
  | .offGraceful => "OffGraceful"

structure VMNetworkRef where
  name : String
  networkRef : Option ObjectRef := none
  ipAddress : String := ""
  ipPrefix : Int := 0
  (gateway dns macAddress : String := "")
  deriving DecidableEq, Repr

structure ImportedDiskRef where
  diskID : String
  (path format source : String := "")
  migrationRef : Option LocalObjectReference := none
  sizeGiB : Int := 0
  deriving DecidableEq, Repr

structure VirtualMachineResources where
  (cpu memoryMiB : Option Int := none)
  deriving DecidableEq, Repr

structure DiskSpec where
  name : String
  sizeGiB : Int := 0
  type : String := ""
  deriving DecidableEq, Repr

/-- Cloud-init content: inline, in a secret, or both. -/
structure CloudInit where
  inlineText : String := ""
  secretRef : Option LocalObjectReference := none
  deriving DecidableEq, Repr

structure Placement where
  (cluster host datastore storagePod folder : String := "")
  deriving DecidableEq, Repr

/-- `userData` and `metaData` are the `cloudInit` members of the two fields. -/
structure VirtualMachineSpec where
  (providerRef classRef : ObjectRef := {})
  imageRef : Option ObjectRef := none
  importedDisk : Option ImportedDiskRef := none
  networks : List VMNetworkRef := []
  disks : List DiskSpec := []
  (userData metaData : Option CloudInit := none)
  placement : Option Placement := none
  powerState : PowerState := .unset
  tags : List String := []
  resources : Option VirtualMachineResources := none
  placementRef : Option LocalObjectReference := none
  deriving DecidableEq, Repr

/-- The power states a provider reports. -/
inductive ReportedPower
  | on
  | off
  | suspended
  | unknown
  | other (text : String)
  deriving DecidableEq, Repr

def ReportedPower.text : ReportedPower → String
  | .on => "On"
  | .off => "Off"
  | .suspended => "Suspended"
  | .unknown => "Unknown"
  | .other text => text

inductive VirtualMachinePhase
  | unset
  | pending
  | provisioning
  | running
  | stopped
  | reconfiguring
  | deleting
  | failed
  deriving DecidableEq, Repr

structure VirtualMachineStatus where
  id : String := ""
  powerState : Option ReportedPower := none
  ips : List String := []
  consoleURL : String := ""
  conditions : List Condition := []
  observedGeneration : Int := 0
  lastTaskRef : String := ""
  provider : StringMap := []
  reconfigureTaskRef : String := ""
  lastReconfigureTime : Option Time := none
  currentResources : Option VirtualMachineResources := none
  phase : VirtualMachinePhase := .unset
  deriving DecidableEq, Repr

structure VirtualMachine where
  objectMeta : ObjectMeta := {}
  spec : VirtualMachineSpec := {}
  status : VirtualMachineStatus := {}
  deriving DecidableEq, Repr

/-- The status of a condition, if it is set (`meta.FindStatusCondition`). -/
def VirtualMachine.readyCondition (vm : VirtualMachine) : Option ConditionStatus :=
  (getCondition vm.status.conditions "Ready").map Condition.status

inductive ProviderType
  | vsphere
  | libvirt
  | firecracker
  | qemu
  | proxmox
  deriving DecidableEq, Repr

structure ReportedCapabilities where
  (supportedExportBackends supportedImportBackends supportedTransferModes : List String := [])
  deriving DecidableEq, Repr

structure Provider where
  objectMeta : ObjectMeta := {}
  type : ProviderType := .libvirt
  conditions : List Condition := []
  reportedCapabilities : Option ReportedCapabilities := none
  deriving DecidableEq, Repr

structure PersistentVolumeClaim where
  objectMeta : ObjectMeta := {}
  /-- The migration that controls the claim (`SetControllerReference`), by UID. -/
  (controller storageClassName accessMode size : String := "")
  deriving DecidableEq, Repr

/-- A provider Deployment: the claims its pod template mounts and its rollout. -/
structure Deployment where
  claims : List String := []
  replicas : Option Int := none
  (updatedReplicas readyReplicas : Int := 0)
  deriving DecidableEq, Repr

structure Pod where
  terminating : Bool := false
  claims : List String := []
  running : Bool := false
  /-- The pod's conditions as type and status. -/
  conditions : List (String × Bool) := []
  deriving DecidableEq, Repr

structure Secret where
  name : String := ""
  data : StringMap := []
  deriving DecidableEq, Repr

structure DiskDefaults where
  type : String := ""
  size : Int := 0
  deriving DecidableEq, Repr

structure VMResourceLimits where
  (cpuLimit cpuReservation memoryLimit memoryReservation cpuShares : Option Int := none)
  deriving DecidableEq, Repr

/-- The API type and the contract type of this name have the same fields. -/
structure PerformanceProfile where
  latencySensitivity : String := ""
  cpuHotAddEnabled : Bool := false
  (memoryHotAddEnabled virtualizationBasedSecurity nestedVirtualization : Bool := false)
  hyperThreadingPolicy : String := ""
  deriving DecidableEq, Repr

structure EncryptionPolicy where
  enabled : Bool := false
  keyProvider : String := ""
  requireEncryption : Bool := false
  deriving DecidableEq, Repr

structure SecurityProfile where
  (secureBoot tpmEnabled : Bool := false)
  tpmVersion : String := ""
  vtdEnabled : Bool := false
  encryptionPolicy : Option EncryptionPolicy := none
  deriving DecidableEq, Repr

structure VMClassSpec where
  (cpu memory : Int := 0)
  firmware : String := ""
  diskDefaults : Option DiskDefaults := none
  guestToolsPolicy : String := ""
  extraConfig : StringMap := []
  resourceLimits : Option VMResourceLimits := none
  performanceProfile : Option PerformanceProfile := none
  securityProfile : Option SecurityProfile := none
  deriving DecidableEq, Repr

structure VMClass where
  objectMeta : ObjectMeta := {}
  spec : VMClassSpec := {}
  deriving DecidableEq, Repr

structure VSphereImageSource where
  (templateName ovaURL checksum checksumType : String := "")
  deriving DecidableEq, Repr

structure LibvirtImageSource where
  (path url format checksum checksumType : String := "")
  deriving DecidableEq, Repr

structure ProxmoxImageSource where
  templateID : Option Int := none
  templateName : String := ""
  deriving DecidableEq, Repr

structure ProviderImageStatus where
  available : Bool := false
  (id path : String := "")
  deriving DecidableEq, Repr

/-- A VMImage; `providerStatus` is keyed by the provider's name. -/
structure VMImage where
  objectMeta : ObjectMeta := {}
  vsphere : Option VSphereImageSource := none
  libvirt : Option LibvirtImageSource := none
  proxmox : Option ProxmoxImageSource := none
  providerStatus : List (String × ProviderImageStatus) := []
  deriving DecidableEq, Repr

structure VSphereNetworkConfig where
  portgroup : String := ""
  (vlanID pciSlotNumber : Option Int := none)
  deriving DecidableEq, Repr

structure LibvirtNetworkConfig where
  networkName : String := ""
  bridge : Option String := none
  model : String := ""
  deriving DecidableEq, Repr

structure ProxmoxNetworkConfig where
  (bridge model : String := "")
  vlanTag : Option Int := none
  deriving DecidableEq, Repr

structure VMNetworkAttachment where
  objectMeta : ObjectMeta := {}
  vsphere : Option VSphereNetworkConfig := none
  libvirt : Option LibvirtNetworkConfig := none
  proxmox : Option ProxmoxNetworkConfig := none
  deriving DecidableEq, Repr

end Virtrigaud
