import Virtrigaud.Api.Clone
import Virtrigaud.Providers.Proxmox.Lifecycle

/-!
# Clone of the Proxmox provider

The clone takes the sizes of its source, and is then sized by the class of the request. The
class and the placement are read by the names of the Go fields of the contracts.
-/

namespace Virtrigaud.Proxmox.Clone

/-- The fields of `pveapi.VMConfig` that a clone request sends; `full` and `target` are
entries of `Custom`. -/
structure CloneConfig where
  vmid : Int
  name : String
  storage : String := ""
  full : String
  target : Option String := none
  deriving DecidableEq, Repr

/-- The requests that Create makes as well, and the clone request. -/
inductive Call
  | request (c : Proxmox.Call)
  | cloneVM (node : String) (vmid : Int) (config : CloneConfig)
  deriving DecidableEq

@[reducible] def Answer : Call → Type
  | .request c => Proxmox.Answer c
  | .cloneVM _ _ _ => Except GoError String

/-- The vCPUs and the memory in MiB; a type mismatch is no sizing. -/
def classSizing? (members : List (String × Go.Json)) : Option (Int × Int) := do
  let cpu ← Go.Json.field "CPU" Go.Json.int32? 0 members
  let memoryMiB ← Go.Json.field "MemoryMiB" Go.Json.int32? 0 members
  return (cpu, memoryMiB)

def parseClassSizing (classJSON : Option Go.Json) : Int × Int :=
  (classJSON.bind (Go.Json.struct classSizing?)).getD (0, 0)

/-- The host and the datastore. -/
def placement? (members : List (String × Go.Json)) : Option (String × String) := do
  let host ← Go.Json.field "Host" Go.Json.str? "" members
  let datastore ← Go.Json.field "Datastore" Go.Json.str? "" members
  return (host, datastore)

def parsePlacement (placementJSON : Option Go.Json) : String × String :=
  (placementJSON.bind (Go.Json.struct placement?)).getD ("", "")

section

variable {m : Type → Type} [Monad m] (pve : (c : Call) → m (Answer c))

/-- `Provider.Clone`. -/
def clone (req : CloneRequest) : m (Except GrpcError CloneResponse) := do
  let request := fun c => pve (.request c)
  match ← parseVMReference request req.sourceVmID with
  | .error err => return .error (newInvalidSpec ("invalid source VM reference: " ++ err.text))
  | .ok (sourceVMID, sourceNode) =>
  let targetVMID ← nextVMID request
  let (host, datastore) := parsePlacement req.placementJSON
  let config : CloneConfig := {
    vmid := targetVMID, name := req.targetName, storage := datastore
    full := if req.linked then "0" else "1"
    target := if host ≠ "" then some host else none }
  let targetNode := if host ≠ "" then host else sourceNode
  match ← pve (.cloneVM sourceNode sourceVMID config) with
  | .error err => return .error (newInternal "failed to clone VM" err)
  | .ok task =>
  match ← awaitTask request sourceNode task with
  | some err => return .error (newInternal "clone task failed" err)
  | none =>
  let (cpus, memory) := parseClassSizing req.classJSON
  let sizing : VMConfig := { vmid := targetVMID, name := req.targetName, cpus, memory }
  match ← applyVMClassSizing request targetNode sizing with
  | some err => return .error (newInternal "failed to apply VMClass sizing to cloned VM" err)
  | none => return .ok { targetVmID := Go.formatInt targetVMID }

end

end Virtrigaud.Proxmox.Clone
