import Virtrigaud.Api.Contracts
import Virtrigaud.Effects.Program

/-!
# The snapshot controller

`VMSnapshotReconciler.Reconcile` and its steps: issue the snapshot, poll its task, apply the
retention policy, and delete the snapshot with its object. Events, logging and metrics are left
out. A provider client is named by the key of its Provider object.
-/

namespace Virtrigaud.Snapshot

open Effects

inductive SnapshotPhase
  | unset
  | pending
  | creating
  | ready
  | deleting
  | failed
  | expired
  deriving DecidableEq, Repr

structure SnapshotConfig where
  (name description : String := "")
  (includeMemory quiesce : Bool := false)
  deriving DecidableEq, Repr

structure SnapshotRetentionPolicy where
  maxAge : Option Duration := none
  deleteOnVMDelete : Bool := false
  deriving DecidableEq, Repr

structure VMSnapshotSpec where
  vmRef : LocalObjectReference
  snapshotConfig : Option SnapshotConfig := none
  retentionPolicy : Option SnapshotRetentionPolicy := none
  deriving DecidableEq, Repr

structure VMSnapshotStatus where
  snapshotID : String := ""
  phase : SnapshotPhase := .unset
  message : String := ""
  creationTime : Option Time := none
  taskRef : String := ""
  conditions : List Condition := []
  deriving DecidableEq, Repr

structure VMSnapshot where
  objectMeta : ObjectMeta := {}
  spec : VMSnapshotSpec
  status : VMSnapshotStatus := {}
  deriving DecidableEq, Repr

/-- `contracts.Capabilities`, as far as snapshots are gated on it. -/
structure SnapshotCapabilities where
  (supportsSnapshots supportsMemorySnapshots : Bool := false)
  deriving DecidableEq, Repr

/-- Every point where the reconciler leaves its own code. `panic` is the dereference of a nil
pointer, after which nothing follows. -/
inductive Call
  | getSnapshot (key : ObjectKey)
  | updateSnapshot (snapshot : VMSnapshot)
  | statusUpdate (snapshot : VMSnapshot)
  | deleteSnapshot (snapshot : VMSnapshot)
  | getVirtualMachine (key : ObjectKey)
  | getProvider (key : ObjectKey)
  | getProviderInstance (provider : ObjectKey)
  | getCapabilities (provider : ObjectKey)
  | snapshotCreate (provider : ObjectKey) (req : SnapshotCreateRequest)
  | snapshotDelete (provider : ObjectKey) (vmId snapshotId : String)
  | taskStatus (provider : ObjectKey) (taskRef : String)
  | now
  | panic

/-- The answer to each call. A status write goes through only over the version the writer saw,
so a successful one answers with nothing but the new resource version. `getCapabilities` answers
`none` when the client does not report capabilities. -/
@[reducible] def Answer : Call → Type
  | .getSnapshot _ => Except GoError VMSnapshot
  | .updateSnapshot _ => Option GoError
  | .statusUpdate _ => Except GoError Nat
  | .deleteSnapshot _ => Option GoError
  | .getVirtualMachine _ => Except GoError VirtualMachine
  | .getProvider _ => Except GoError Provider
  | .getProviderInstance _ => Option GoError
  | .getCapabilities _ => Option (Except GoError SnapshotCapabilities)
  | .snapshotCreate _ _ => Except GoError SnapshotCreateResponse
  | .snapshotDelete _ _ _ => Except GoError String
  | .taskStatus _ _ => Except GoError TaskStatus
  | .now => Time
  | .panic => Empty

/-- A computation of the snapshot controller. -/
abbrev M := Program Call Answer

def ask (c : Call) : M (Answer c) := .perform c

abbrev LogEntry := Event Call Answer

structure Reconciler where
  enforceCapabilities : Bool := false

section Statuses

variable (status : VMSnapshotStatus)

/-- Set a condition of the status. -/
def VMSnapshotStatus.setCondition (type : String) (value : ConditionStatus)
    (reason message : String) : VMSnapshotStatus :=
  { status with conditions := Virtrigaud.setCondition status.conditions type value reason message }

def vmMissing (err : GoError) : VMSnapshotStatus :=
  status.setCondition "Ready" .conditionFalse "ProviderError"
    ("Referenced VM not found: " ++ err.text)

def vmWaits : VMSnapshotStatus :=
  status.setCondition "Creating" .conditionTrue "Creating" "Waiting for VM to be provisioned"

/-- The status in memory while the snapshot is issued. -/
def creatingStatus : VMSnapshotStatus :=
  { status with phase := .creating, message := "Creating snapshot" }.setCondition
    "Creating" .conditionTrue "Creating" "Snapshot creation initiated"

def providerError (message : String) : VMSnapshotStatus :=
  status.setCondition "Ready" .conditionFalse "ProviderError" message

def createFailed (err : GoError) : VMSnapshotStatus :=
  ({ status with
    phase := .failed
    message := "Failed to create snapshot: " ++ err.text }.setCondition
    "Ready" .conditionFalse "ProviderError" ("Snapshot creation failed: " ++ err.text)).setCondition
    "Creating" .conditionFalse "ProviderError" ("Snapshot creation failed: " ++ err.text)

def blockedStatus (message : String) : VMSnapshotStatus :=
  ({ status with phase := .failed, message := message }.setCondition
    "Ready" .conditionFalse "UnsupportedByProvider" message).setCondition
    "Creating" .conditionFalse "UnsupportedByProvider" message

def taskFailed (error : String) : VMSnapshotStatus :=
  ({ status with
    phase := .failed
    message := "Snapshot creation failed: " ++ error
    taskRef := "" }.setCondition
    "Ready" .conditionFalse "ProviderError" ("Snapshot creation failed: " ++ error)).setCondition
    "Creating" .conditionFalse "ProviderError" "Snapshot creation failed"

def readyStatus : VMSnapshotStatus :=
  ({ status with
    phase := .ready, message := "Snapshot created successfully", taskRef := "" }.setCondition
    "Ready" .conditionTrue "Created" "Snapshot created successfully").setCondition
    "Creating" .conditionFalse "Created" "Snapshot creation completed"

/-- The SnapshotCreate RPC has answered. -/
def createdStatus (resp : SnapshotCreateResponse) (now : Time) : VMSnapshotStatus :=
  let status := { status with snapshotID := resp.snapshotId, creationTime := some now }
  if resp.task = "" then readyStatus status else { status with taskRef := resp.task }

def deletingStatus : VMSnapshotStatus :=
  { status with phase := .deleting }.setCondition
    "Deleting" .conditionTrue "Deleting" "Snapshot deletion initiated"

end Statuses

variable (r : Reconciler) (snapshot : VMSnapshot)

/-- Persist the in-memory status. Returns the object as it is in memory afterwards. -/
def updateStatus : M (VMSnapshot × Option GoError) := do
  match ← ask (.statusUpdate snapshot) with
  | .error err => return (snapshot, some err)
  | .ok resourceVersion =>
    return ({ snapshot with objectMeta := { snapshot.objectMeta with resourceVersion } }, none)

/-- Persist a status whose write may fail, and return the result in any case. -/
def persistOrNot (status : VMSnapshotStatus) (result : Result) : M Return := do
  let _ ← updateStatus { snapshot with status }
  return (result, none)

/-- Persist a status and return the result, or the error of the write. -/
def persist (status : VMSnapshotStatus) (result : Result) : M Return := do
  match ← updateStatus { snapshot with status } with
  | (_, some err) => return ({}, some err)
  | (_, none) => return (result, none)

section

variable (vm : VirtualMachine)

def providerKey : ObjectKey := vm.spec.providerRef.key vm.objectMeta.ns

def getProviderInstance (provider : Provider) : M (Option GoError) :=
  ask (.getProviderInstance provider.objectMeta.key)

def buildSnapshotCreateRequest : SnapshotCreateRequest :=
  match snapshot.spec.snapshotConfig with
  | some config =>
    { vmId := vm.status.id
      nameHint := if config.name = "" then snapshot.objectMeta.name else config.name
      description := config.description
      includeMemory := config.includeMemory
      quiesce := config.quiesce }
  | none =>
    { vmId := vm.status.id
      nameHint := snapshot.objectMeta.name
      description := ""
      includeMemory := false
      quiesce := true }

/-- Why the provider cannot make the snapshot, by its own report. -/
def unsupported (caps : SnapshotCapabilities) (req : SnapshotCreateRequest) : Option String :=
  if ¬ caps.supportsSnapshots then some "Provider does not support snapshots"
  else if req.includeMemory ∧ ¬ caps.supportsMemorySnapshots then
    some "Provider does not support memory-inclusive snapshots"
  else none

/-- The refusal of the request, if capabilities are enforced; a provider that does not answer is
not refused. -/
def Reconciler.gateSnapshotCreate (provider : ObjectKey) (req : SnapshotCreateRequest) :
    M (Option String) := do
  if ¬ r.enforceCapabilities then
    return none
  match ← ask (.getCapabilities provider) with
  | none => return none
  | some (.error _) => return none
  | some (.ok caps) => return unsupported caps req

/-- A blocked snapshot is not retried. The error of the write is dropped. -/
def blockSnapshot (message : String) : M Return :=
  persistOrNot snapshot (blockedStatus snapshot.status message) {}

def Reconciler.createSnapshot : M Return := do
  let snapshot := { snapshot with status := creatingStatus snapshot.status }
  match ← ask (.getProvider (providerKey vm)) with
  | .error err =>
    persistOrNot snapshot
      (providerError snapshot.status ("Failed to get provider: " ++ err.text))
      (.after (30 * second))
  | .ok provider =>
  match ← getProviderInstance provider with
  | some err =>
    persistOrNot snapshot
      (providerError snapshot.status ("Failed to get provider instance: " ++ err.text))
      (.after (30 * second))
  | none =>
  let req := buildSnapshotCreateRequest snapshot vm
  match ← r.gateSnapshotCreate provider.objectMeta.key req with
  | some message => blockSnapshot snapshot message
  | none =>
  match ← ask (.snapshotCreate provider.objectMeta.key req) with
  | .error err =>
    persistOrNot snapshot (createFailed snapshot.status err) (.after (5 * minute))
  | .ok resp =>
  let now ← ask .now
  persist snapshot (createdStatus snapshot.status resp now)
    (if resp.task = "" then {} else .after (10 * second))

def checkSnapshotCreation : M Return := do
  if snapshot.status.taskRef = "" then
    persist snapshot (readyStatus snapshot.status) {}
  else
  match ← ask (.getProvider (providerKey vm)) with
  | .error _ => return (.after (30 * second), none)
  | .ok provider =>
  match ← getProviderInstance provider with
  | some _ => return (.after (30 * second), none)
  | none =>
  match ← ask (.taskStatus provider.objectMeta.key snapshot.status.taskRef) with
  | .error _ => return (.after (10 * second), none)
  | .ok taskStatus =>
  if taskStatus.isCompleted then
    persist snapshot
      (if taskStatus.error ≠ "" then taskFailed snapshot.status taskStatus.error
        else readyStatus snapshot.status) {}
  else return (.after (10 * second), none)

def vmKey : ObjectKey :=
  ⟨snapshot.objectMeta.ns, snapshot.spec.vmRef.name⟩

def deleteObject : M Return := do
  let err ← ask (.deleteSnapshot snapshot)
  return ({}, err)

/-- Whether the snapshot is older than its policy allows. -/
def expired : M Bool := do
  match snapshot.spec.retentionPolicy.bind SnapshotRetentionPolicy.maxAge with
  | none => return false
  | some maxAge =>
  match snapshot.status.creationTime with
  | none => return (← ask .panic).elim
  | some creationTime =>
    let now ← ask .now
    return decide (now - creationTime > maxAge)

def handleRetention : M Return := do
  if ← expired snapshot then
    deleteObject snapshot
  else if snapshot.spec.retentionPolicy.any SnapshotRetentionPolicy.deleteOnVMDelete then
    match ← ask (.getVirtualMachine (vmKey snapshot)) with
    | .error err =>
      if err.reason = .notFound then deleteObject snapshot
      else return (.after (60 * minute), none)
    | .ok _ => return (.after (60 * minute), none)
  else return (.after (60 * minute), none)

def finalizer : String := "snapshot.infra.virtrigaud.io/finalizer"

def removeFinalizer : M Return := do
  let err ← ask (.updateSnapshot
    { snapshot with objectMeta := snapshot.objectMeta.removeFinalizer finalizer })
  return ({}, err)

/-- The error of the provider is only logged. -/
def handleDeletion : M Return := do
  let (snapshot, _) ← updateStatus { snapshot with status := deletingStatus snapshot.status }
  match ← ask (.getVirtualMachine (vmKey snapshot)) with
  | .error err =>
    if err.reason = .notFound then removeFinalizer snapshot
    else return (.after (30 * second), none)
  | .ok vm =>
  if snapshot.status.snapshotID = "" ∨ vm.status.id = "" then
    removeFinalizer snapshot
  else
  match ← ask (.getProvider (providerKey vm)) with
  | .error _ => return (.after (30 * second), none)
  | .ok provider =>
  match ← getProviderInstance provider with
  | some _ => return (.after (30 * second), none)
  | none =>
  let _ ← ask (.snapshotDelete provider.objectMeta.key vm.status.id snapshot.status.snapshotID)
  removeFinalizer snapshot

/-- The part of `Reconcile` once the VirtualMachine is there and provisioned. -/
def Reconciler.handlePhase : M Return :=
  match snapshot.status.phase with
  | .unset => r.createSnapshot snapshot vm
  | .creating => checkSnapshotCreation snapshot vm
  | .ready => handleRetention snapshot
  | .failed => return (.after (5 * minute), none)
  | _ => return (.after (30 * second), none)

end

/-- `VMSnapshotReconciler.Reconcile` for the object with the given key. -/
def Reconciler.reconcile (key : ObjectKey) : M Return := do
  match ← ask (.getSnapshot key) with
  | .error err =>
    if err.reason = .notFound then return ({}, none)
    return ({}, some err)
  | .ok snapshot =>
  if snapshot.objectMeta.deletionTimestamp.isSome then
    handleDeletion snapshot
  else if ¬ snapshot.objectMeta.containsFinalizer finalizer then
    let err ← ask (.updateSnapshot
      { snapshot with objectMeta := snapshot.objectMeta.addFinalizer finalizer })
    return (if err.isSome then {} else .again, err)
  else
  match ← ask (.getVirtualMachine (vmKey snapshot)) with
  | .error err => persistOrNot snapshot (vmMissing snapshot.status err) (.after (30 * second))
  | .ok vm =>
  if vm.status.id = "" then
    persistOrNot snapshot (vmWaits snapshot.status) (.after (30 * second))
  else r.handlePhase snapshot vm

end Virtrigaud.Snapshot
