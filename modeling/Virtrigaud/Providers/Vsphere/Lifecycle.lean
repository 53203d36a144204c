import Virtrigaud.Api.Contracts

/-!
# Create, Describe and Delete of the vSphere provider

The provider is written over the vCenter operations it performs. A VM is identified by
the value of its managed object reference.
-/

namespace Virtrigaud.Vsphere

/-- The faults of vCenter that the provider could tell apart. -/
inductive VimFault
  | managedObjectNotFound
  | other (name : String)
  deriving DecidableEq, Repr

/-- An error of a vCenter operation; one without a fault is an error of the transport. -/
structure VimError where
  fault : Option VimFault
  text : String
  deriving DecidableEq, Repr

structure VMProperties where
  poweredOn : Bool := false
  ips : List String := []
  consoleURL : String := ""
  raw : StringMap := []
  deriving DecidableEq, Repr

/-- The operations. `parseCreateRequest` fails on specifications that cannot be decoded;
`createVirtualMachine` places, clones or builds the VM and powers it on. -/
inductive Call
  | parseCreateRequest (req : CreateRequest)
  | defaultDatacenter
  | findVirtualMachine (name : String)
  | createVirtualMachine (req : CreateRequest)
  | retrieve (id : String)
  | powerState (id : String)
  | powerOff (id : String)
  | awaitPowerOff (id : String)
  | destroy (id : String)
  | awaitDestroy (id : String)
  deriving DecidableEq

@[reducible] def Answer : Call → Type
  | .parseCreateRequest _ => Option GoError
  | .defaultDatacenter => Option GoError
  | .findVirtualMachine _ => Except GoError String
  | .createVirtualMachine _ => Except GoError String
  | .retrieve _ => Except VimError VMProperties
  | .powerState _ => Except VimError Bool
  | .powerOff _ => Option GoError
  | .awaitPowerOff _ => Option GoError
  | .destroy _ => Option GoError
  | .awaitDestroy _ => Option GoError

section

variable {m : Type → Type} [Monad m] (vcenter : (c : Call) → m (Answer c))

/-- A VM of the name in the default datacenter. Every error counts as absence. -/
def findExisting (name : String) : m (Option String) := do
  match ← vcenter .defaultDatacenter with
  | some _ => return none
  | none =>
  match ← vcenter (.findVirtualMachine name) with
  | .error _ => return none
  | .ok ref => return some ref

def create (req : CreateRequest) : m (Except GrpcError CreateResponse) := do
  match ← vcenter (.parseCreateRequest req) with
  | some err => return .error (.plain ("failed to parse create request: " ++ err.text))
  | none =>
  match ← findExisting vcenter req.name with
  | some ref => return .ok { id := ref }
  | none =>
  match ← vcenter (.createVirtualMachine req) with
  | .error err => return .error (.plain ("failed to create virtual machine: " ++ err.text))
  | .ok vmID => return .ok { id := vmID }

/-- Any error of the property query is reported as a VM that does not exist. -/
def describe (id : String) : m (Except GrpcError DescribeResponse) := do
  match ← vcenter .defaultDatacenter with
  | some err => return .error (.plain ("failed to find default datacenter: " ++ err.text))
  | none =>
  match ← vcenter (.retrieve id) with
  | .error _ => return .ok { doesExist := false, powerState := .other "" }
  | .ok props =>
    return .ok {
      doesExist := true
      powerState := if props.poweredOn then .on else .off
      ips := props.ips
      consoleURL := props.consoleURL
      providerRaw := props.raw }

/-- The power-off that precedes a deletion. A task that fails is only logged. -/
def powerOffFirst (id : String) (poweredOn : Bool) : m (Option GrpcError) := do
  if poweredOn then
    match ← vcenter (.powerOff id) with
    | some err =>
      return some (.plain ("failed to start power off operation: " ++ err.text))
    | none =>
      let _ ← vcenter (.awaitPowerOff id)
      return none
  else return none

def destroyVM (id : String) : m (Except GrpcError String) := do
  match ← vcenter (.destroy id) with
  | some err => return .error (.plain ("failed to start VM deletion: " ++ err.text))
  | none =>
  match ← vcenter (.awaitDestroy id) with
  | some err => return .error (.plain ("VM deletion failed: " ++ err.text))
  | none => return .ok ""

/-- Every fault of vCenter counts as a VM that is gone already. -/
def delete (id : String) : m (Except GrpcError String) := do
  match ← vcenter .defaultDatacenter with
  | some err => return .error (.plain ("failed to find default datacenter: " ++ err.text))
  | none =>
  match ← vcenter (.powerState id) with
  | .error err =>
    if err.fault.isSome then return .ok ""
    else return .error (.plain ("failed to check VM power state: " ++ err.text))
  | .ok poweredOn =>
  match ← powerOffFirst vcenter id poweredOn with
  | some err => return .error err
  | none => destroyVM vcenter id

end

end Virtrigaud.Vsphere
