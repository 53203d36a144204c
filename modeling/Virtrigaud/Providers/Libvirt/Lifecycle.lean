import Virtrigaud.Api.Contracts
import Virtrigaud.Providers.Libvirt.DomainXML

/-!
# Create, Describe and Delete of the libvirt provider

The provider is written over the commands it runs on the host, so that it can be run
by anything that answers them. A domain is identified by its name.
-/

namespace Virtrigaud.Libvirt

/-- What `getDomainInfo` and the guest agent report. -/
structure DomainInfo where
  state : String := ""
  ips : List String := []
  consoleURL : String := ""
  raw : StringMap := []
  deriving DecidableEq, Repr

/-- The commands. `prepareVM` stands for the storage and cloud-init steps that
`createVMWithCloudInit` takes before it defines the domain. -/
inductive Call
  | listDomains
  | prepareVM (req : CreateRequest)
  | defineDomain (name : String)
  | getDomainInfo (id : String)
  | dumpxml (id : String)
  | destroyDomain (id : String)
  | undefineDomain (id : String)
  | removeFile (path : List Char)
  | removeDirectory (path : List Char)
  deriving DecidableEq

@[reducible] def Answer : Call → Type
  | .listDomains => Except GoError (List String)
  | .prepareVM _ => Option GoError
  | .defineDomain _ => Option GoError
  | .getDomainInfo _ => Except GoError DomainInfo
  | .dumpxml _ => Except GoError (List Char)
  | .destroyDomain _ => Option GoError
  | .undefineDomain _ => Option GoError
  | .removeFile _ => Option GoError
  | .removeDirectory _ => Option GoError

/-- `mapLibvirtPowerState`. -/
def mapLibvirtPowerState (state : String) : ReportedPower :=
  if state.toLower = "running" then .on else .off

section

variable {m : Type → Type} [Monad m] (virsh : (c : Call) → m (Answer c))

/-- The last steps of `createVMWithCloudInit`. -/
def createVMWithCloudInit (req : CreateRequest) : m (Except GoError String) := do
  match ← virsh (.prepareVM req) with
  | some err => return .error err
  | none =>
  match ← virsh (.defineDomain req.name) with
  | some err => return .error (err.wrap "failed to define domain")
  | none => return .ok req.name

def create (req : CreateRequest) : m (Except GrpcError CreateResponse) := do
  match ← virsh .listDomains with
  | .error err =>
    return .error (.plain ("failed to create VM: " ++
      retryable "failed to list existing domains" err))
  | .ok domains =>
  if req.name ∈ domains then return .ok { id := req.name }
  else
  match ← createVMWithCloudInit virsh req with
  | .error err =>
    return .error (.plain ("failed to create VM: " ++ retryable "failed to create VM" err))
  | .ok vmID => return .ok { id := vmID }

variable (id : String)

/-- A domain that does not exist makes Describe fail; it is never reported as absent. -/
def describe : m (Except GrpcError DescribeResponse) := do
  match ← virsh (.getDomainInfo id) with
  | .error err =>
    return .error (.plain ("failed to describe VM: " ++ retryable "failed to get domain info" err))
  | .ok info =>
    return .ok {
      doesExist := true
      powerState := mapLibvirtPowerState info.state
      ips := info.ips
      consoleURL := info.consoleURL
      providerRaw := info.raw }

/-- `getDomainDiskPaths`; an error is only logged. -/
def getDomainDiskPaths : m (List (List Char)) := do
  match ← virsh (.dumpxml id) with
  | .ok xml => return domainDiskPaths xml
  | .error _ => return []

/-- `getCloudInitISOPath`; an error is only logged. -/
def getCloudInitISOPath : m (List Char) := do
  match ← virsh (.dumpxml id) with
  | .ok xml => return cloudInitISOPath xml
  | .error _ => return []

/-- `deleteDiskFile` for each of the paths; errors are only logged. -/
def deleteDiskFiles : List (List Char) → m Unit
  | [] => return ()
  | path :: paths => do
    let _ ← virsh (.removeFile path)
    deleteDiskFiles paths

/-- `deleteCloudInitResources`: the directory that holds the ISO. -/
def deleteCloudInitResources (isoPath : List Char) : m Unit := do
  let _ ← virsh (.removeDirectory (Go.beforeLast '/' isoPath))
  return ()

/-- The directory in which Create prepares the cloud-init ISO of a domain. -/
def cloudInitDirectory : List Char :=
  "/tmp/virtrigaud-cloudinit/".toList ++ id.toList

/-- The files that `cleanupOrphanedResources` guesses. -/
def orphanedDisks : List (List Char) :=
  ["-disk.qcow2", ".qcow2", "-disk"].map fun ending =>
    "/var/lib/libvirt/images/".toList ++ id.toList ++ ending.toList

def cleanupOrphanedResources : m Unit := do
  deleteDiskFiles virsh (orphanedDisks id)
  let _ ← virsh (.removeDirectory (cloudInitDirectory id))
  return ()

def delete : m (Except GrpcError String) := do
  match ← virsh .listDomains with
  | .error err =>
    return .error (.plain ("failed to delete VM: " ++ retryable "failed to list domains" err))
  | .ok domains =>
  if id ∉ domains then
    cleanupOrphanedResources virsh id
    return .ok ""
  else
  let diskPaths ← getDomainDiskPaths virsh id
  let isoPath ← getCloudInitISOPath virsh id
  -- A domain that is not running cannot be destroyed; the error is only logged.
  let _ ← virsh (.destroyDomain id)
  match ← virsh (.undefineDomain id) with
  | some err =>
    return .error (.plain ("failed to delete VM: " ++ retryable "failed to undefine domain" err))
  | none =>
    deleteDiskFiles virsh diskPaths
    if isoPath ≠ [] then deleteCloudInitResources virsh isoPath
    return .ok ""

end

end Virtrigaud.Libvirt
