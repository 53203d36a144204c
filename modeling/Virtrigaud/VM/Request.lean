import Virtrigaud.VM.Calls

/-!
# The create request

`buildCreateRequest` translates a VirtualMachine and the objects it refers to into the
provider's terms. The VM is named by the object's name alone.
-/

namespace Virtrigaud.VM

open Effects Program

def mebibyte : Int := 1024 * 1024

def gibibyte : Int := 1024 * mebibyte

/-- Bytes as MiB in an `int32`, where larger values are clamped. -/
def limitMiB (bytes : Int) : Int := Go.int32 (min (bytes.tdiv mebibyte) 2147483647)

def convertSecurityProfile (profile : SecurityProfile) : Contracts.SecurityProfile where
  secureBoot := profile.secureBoot
  tpmEnabled := profile.tpmEnabled
  tpmVersion := profile.tpmVersion
  vtdEnabled := profile.vtdEnabled
  encryptionEnabled := profile.encryptionPolicy.any (·.enabled)
  keyProvider := (profile.encryptionPolicy.map (·.keyProvider)).getD ""
  requireEncryption := profile.encryptionPolicy.any (·.requireEncryption)

def convertResourceLimits (limits : VMResourceLimits) : Contracts.ResourceLimits where
  cpuLimit := limits.cpuLimit
  cpuReservation := limits.cpuReservation
  memoryLimitMiB := limits.memoryLimit.map limitMiB
  memoryReservationMiB := limits.memoryReservation.map limitMiB
  cpuShares := limits.cpuShares

/-- The VMClass in the provider's terms; `spec.resources` is not looked at. -/
def convertClass (spec : VMClassSpec) : Contracts.VMClass where
  cpu := spec.cpu
  memoryMiB := Go.int32 (spec.memory.tdiv mebibyte)
  firmware := spec.firmware
  diskDefaults := spec.diskDefaults.map fun defaults =>
    { type := defaults.type, sizeGiB := Go.int32 (defaults.size.tdiv gibibyte) }
  guestToolsPolicy := spec.guestToolsPolicy
  extraConfig := spec.extraConfig
  performanceProfile := spec.performanceProfile
  securityProfile := spec.securityProfile.map convertSecurityProfile
  resourceLimits := spec.resourceLimits.map convertResourceLimits

/-- An imported disk: its own path, or the place libvirt would keep it. -/
def importedImage (disk : ImportedDiskRef) : Contracts.VMImage :=
  let format := if disk.format = "" then "qcow2" else disk.format
  { path := if disk.path = "" then
        "/var/lib/libvirt/images/" ++ disk.diskID ++ "." ++ format
      else disk.path
    format
    checksumType := "sha256" }

variable (image : Contracts.VMImage)

def withVSphereSource (source : VSphereImageSource) : Contracts.VMImage :=
  { image with
    templateName := source.templateName
    url := source.ovaURL
    checksum := if source.checksum = "" then image.checksum else source.checksum
    checksumType := if source.checksumType = "" then image.checksumType else source.checksumType }

def withLibvirtSource (source : LibvirtImageSource) : Contracts.VMImage :=
  { image with
    path := source.path
    url := source.url
    format := source.format
    checksum := if source.checksum = "" then image.checksum else source.checksum
    checksumType := if source.checksumType = "" then image.checksumType else source.checksumType }

def withProxmoxSource (source : ProxmoxImageSource) : Contracts.VMImage :=
  match source.templateID with
  | some templateID => { image with templateName := Go.formatInt templateID }
  | none =>
    if source.templateName = "" then image else { image with templateName := source.templateName }

/-- `overrideImageWithPreparedLocation`, by the first source the VMImage has. -/
def overrideImageWithPreparedLocation (vmImage : VMImage) (providerName : String) :
    Contracts.VMImage :=
  match vmImage.providerStatus.lookup providerName with
  | none => image
  | some prepared =>
    if !prepared.available then image
    else if vmImage.libvirt.isSome then
      if prepared.path = "" then image else { image with path := prepared.path, url := "" }
    else if prepared.id = "" then image
    else if vmImage.vsphere.isSome then { image with templateName := prepared.id, url := "" }
    else if vmImage.proxmox.isSome then { image with templateName := prepared.id }
    else image

/-- A VMImage: all of its sources, and then where it was prepared. -/
def templateImage (vmImage : VMImage) (providerName : String) : Contracts.VMImage :=
  let image : Contracts.VMImage := { format := "template", checksumType := "sha256" }
  let image := (vmImage.vsphere.map (withVSphereSource image)).getD image
  let image := (vmImage.libvirt.map (withLibvirtSource image)).getD image
  let image := (vmImage.proxmox.map (withProxmoxSource image)).getD image
  overrideImageWithPreparedLocation image vmImage providerName

def convertImage (vm : VirtualMachine) (vmImage : Option VMImage) (providerName : String) :
    Contracts.VMImage :=
  match vm.spec.importedDisk, vmImage with
  | some disk, _ => importedImage disk
  | none, some vmImage => templateImage vmImage providerName
  | none, none => {}

def withNetwork (attachment : Contracts.NetworkAttachment) (net : VMNetworkAttachment) :
    Contracts.NetworkAttachment :=
  let attachment := (net.vsphere.map fun vsphere =>
    { attachment with
      networkName := vsphere.portgroup
      vlan := vsphere.vlanID.getD attachment.vlan
      pciSlotNumber := vsphere.pciSlotNumber.or attachment.pciSlotNumber }).getD attachment
  let attachment := (net.libvirt.map fun libvirt =>
    { attachment with
      networkName := libvirt.networkName
      bridge := libvirt.bridge.getD attachment.bridge
      model := libvirt.model }).getD attachment
  (net.proxmox.map fun proxmox =>
    { attachment with
      bridge := proxmox.bridge
      model := proxmox.model
      vlan := proxmox.vlanTag.getD attachment.vlan }).getD attachment

/-- One attachment; a network that was looked up is at the position of its reference. -/
def convertNetwork (netRef : VMNetworkRef) (network : Option VMNetworkAttachment) :
    Contracts.NetworkAttachment :=
  let attachment : Contracts.NetworkAttachment := {
    name := netRef.name
    staticIP := netRef.ipAddress
    ipPrefix := netRef.ipPrefix
    gateway := netRef.gateway
    dns := netRef.dns }
  match netRef.networkRef, network with
  | some _, some net => withNetwork attachment net
  | _, _ => attachment

def convertNetworks : List VMNetworkRef → List (Option VMNetworkAttachment) →
    List Contracts.NetworkAttachment
  | [], _ => []
  | netRef :: refs, [] => convertNetwork netRef none :: convertNetworks refs []
  | netRef :: refs, network :: networks =>
    convertNetwork netRef network :: convertNetworks refs networks

/-- The text under the first accepted key of a secret. -/
def extractFromSecret (what : String) (acceptedKeys : List String) (secret : Secret) :
    Except GoError String :=
  match acceptedKeys.findSome? fun key => secret.data.lookup key with
  | some text => .ok text
  | none => .error (errorf ("secret " ++ Go.quoted secret.name ++ " contains no recognised " ++
      what ++ " key; accepted keys: " ++ Go.formatList acceptedKeys))

def extractCloudInitFromSecret : Secret → Except GoError String :=
  extractFromSecret "cloud-init" ["userdata", "user-data", "cloud-init", "cloud-config"]

def extractMetaDataFromSecret : Secret → Except GoError String :=
  extractFromSecret "metadata" ["metadata", "meta-data", "meta_data"]

def cloudInitBoundary : String := "VIRTRIGAUD_CLOUD_INIT_BOUNDARY"

/-- `mergeCloudConfigParts`: a MIME multipart document. -/
def mergeCloudConfigParts (parts : List String) : String :=
  "Content-Type: multipart/mixed; boundary=\"" ++ cloudInitBoundary ++ "\"\n" ++
    "MIME-Version: 1.0\n" ++
    String.join (parts.map fun part =>
      "\n--" ++ cloudInitBoundary ++ "\nContent-Type: text/cloud-config; charset=\"utf-8\"\n\n" ++
        part ++ "\n") ++
    "\n--" ++ cloudInitBoundary ++ "--\n"

/-- The parts of a cloud-init source: its inline text and the text of its secret. -/
def cloudInitParts (ns what : String) (extract : Secret → Except GoError String)
    (source : CloudInit) : M (Except GoError (List String)) := do
  let inlineParts := if source.inlineText = "" then [] else [source.inlineText]
  match source.secretRef with
  | none => return .ok inlineParts
  | some ref =>
  match ← ask (.getSecret ⟨ns, ref.name⟩) with
  | .error err => return .error (err.wrap ("fetching " ++ what ++ " secret " ++ Go.quoted ref.name))
  | .ok secret => return (extract secret).map (inlineParts ++ [·])

def resolveCloudInitUserData (ns : String) (source : CloudInit) : M (Except GoError String) := do
  match ← cloudInitParts ns "cloud-init" extractCloudInitFromSecret source with
  | .error err => return .error err
  | .ok [] => return .ok ""
  | .ok [part] => return .ok part
  | .ok parts => return .ok (mergeCloudConfigParts parts)

def resolveCloudInitMetaData (ns : String) (source : CloudInit) : M (Except GoError String) := do
  match ← cloudInitParts ns "metadata" extractMetaDataFromSecret source with
  | .error err => return .error err
  | .ok parts => return .ok ("\n".intercalate parts)

/-- A cloud-init field of the request: absent when it is not set or empty. -/
def resolveOptional (resolve : CloudInit → M (Except GoError String)) (what : String)
    (source : Option CloudInit) : M (Except GoError (Option String)) := do
  match source with
  | none => return .ok none
  | some source =>
  match ← resolve source with
  | .error err => return .error (err.wrap ("resolving cloud-init " ++ what))
  | .ok text => return .ok (if text = "" then none else some text)

def convertPlacement (placement : Placement) : Contracts.Placement where
  datastore := placement.datastore
  storagePod := placement.storagePod
  cluster := placement.cluster
  folder := placement.folder

/-- What a VirtualMachine refers to. -/
structure Dependencies where
  provider : Provider
  vmClass : VMClass
  vmImage : Option VMImage
  networks : List (Option VMNetworkAttachment)

def buildCreateRequest (vm : VirtualMachine) (deps : Dependencies) :
    M (Except GoError CreateRequest) := do
  match ← resolveOptional (resolveCloudInitUserData vm.objectMeta.ns) "user data"
    vm.spec.userData with
  | .error err => return .error err
  | .ok userData =>
  match ← resolveOptional (resolveCloudInitMetaData vm.objectMeta.ns) "metadata"
    vm.spec.metaData with
  | .error err => return .error err
  | .ok metaData =>
    return .ok {
      name := vm.objectMeta.name
      vmClass := convertClass deps.vmClass.spec
      image := convertImage vm deps.vmImage deps.provider.objectMeta.name
      networks := convertNetworks vm.spec.networks deps.networks
      disks := vm.spec.disks
      userData
      metaData
      placement := vm.spec.placement.map convertPlacement
      tags := vm.spec.tags }

end Virtrigaud.VM
