import Virtrigaud.Clone.Calls

/-!
# The clone controller

`VMCloneReconciler.Reconcile` and its steps: issue the clone, poll its task, and bind a
target VirtualMachine to the VM it made. Events, logging and metrics are left out.
-/

namespace Virtrigaud.Clone

open Effects

/-- The reconciler's configuration. -/
structure Reconciler where
  quantity : QuantityCodec

section Statuses

variable (status : VMCloneStatus)

def failedStatus (reason message : String) : VMCloneStatus :=
  { status with
    phase := .failed
    message := message
    taskRef := ""
    conditions := setCondition (setCondition status.conditions "Ready" .conditionFalse reason
      message) "Failed" .conditionTrue reason message }

def pendingStatus (reason message : String) : VMCloneStatus :=
  { status with
    phase := .pending
    message := message
    conditions := setCondition status.conditions "Ready" .conditionFalse reason message }

/-- The status in memory while the Clone RPC runs. -/
def cloningStatus (linked : Bool) (now : Time) : VMCloneStatus :=
  { status with
    phase := .cloning
    startTime := some now
    actualCloneType := if linked then .linkedClone else .fullClone
    conditions := setCondition status.conditions "Cloning" .conditionTrue "Cloning"
      "Clone operation initiated" }

/-- The Clone RPC has answered. -/
def clonedStatus (resp : CloneResponse) : VMCloneStatus :=
  { status with targetVMID := resp.targetVmID, taskRef := resp.taskRef }

def readyStatus (targetName : String) (now : Time) : VMCloneStatus :=
  { status with
    phase := .ready
    message := "Clone completed successfully"
    taskRef := ""
    completionTime := some now
    targetRef := some ⟨targetName⟩
    conditions := setCondition (setCondition status.conditions "Ready" .conditionTrue "Completed"
      "Clone completed successfully") "Cloning" .conditionFalse "Completed" "Clone completed" }

end Statuses

variable (r : Reconciler) (clone : VMClone) (sourceVM : VirtualMachine) (provider : ObjectKey)

/-- Persist the in-memory status. Returns the object as it is in memory afterwards. -/
def updateStatus : M (Except GoError VMClone) := do
  match ← ask (.statusUpdate clone) with
  | .error err => return .error err
  | .ok resourceVersion =>
    return .ok { clone with objectMeta := { clone.objectMeta with resourceVersion } }

/-- Failed is terminal. The error of the write is dropped. -/
def markFailed (reason message : String) : M Return := do
  let _ ← updateStatus { clone with status := failedStatus clone.status reason message }
  return ({}, none)

def markPending (reason message : String) : M Return := do
  let _ ← updateStatus { clone with status := pendingStatus clone.status reason message }
  return (.after (30 * second), none)

def targetNamespace : String :=
  if clone.spec.target.ns = "" then clone.objectMeta.ns else clone.spec.target.ns

def targetKey : ObjectKey := ⟨targetNamespace clone, clone.spec.target.name⟩

/-- Later entries of the second map win. -/
def overlay (base top : StringMap) : StringMap :=
  top.foldr (fun entry m => m.set entry.1 entry.2) base

/-- A reference with a name. -/
def named (ref : Option LocalObjectReference) : Option LocalObjectReference :=
  ref.filter fun ref => ref.name ≠ ""

def buildTargetVM : VirtualMachine where
  objectMeta := {
    name := clone.spec.target.name
    ns := targetNamespace clone
    labels := StringMap.set clone.spec.target.labels "virtrigaud.io/adopted" "true"
    annotations := overlay [("virtrigaud.io/cloned-from", sourceVM.objectMeta.name),
      ("virtrigaud.io/clone", clone.objectMeta.name)] clone.spec.target.annotations }
  spec := {
    providerRef := sourceVM.spec.providerRef
    classRef := ((named clone.spec.target.classRef).map fun ref => { name := ref.name }).getD
      sourceVM.spec.classRef
    networks := clone.spec.target.networks
    placementRef := named clone.spec.target.placementRef }

/-- The attempts that are left of giving the target object its ID; a conflict is retried
from a fresh read. -/
def seedStatusID (vmKey : ObjectKey) (targetVMID : String) : Nat → M (Option GoError)
  | 0 => return some (errorf "timed out waiting for the condition")
  | attempts + 1 => do
    match ← ask (.getVirtualMachine vmKey) with
    | .error err =>
      if err.reason = .conflict ∧ attempts ≠ 0 then seedStatusID vmKey targetVMID attempts
      else return some err
    | .ok latest =>
    if latest.status.id = targetVMID then return none
    match ← ask (.vmStatusUpdate
      { latest with status := { latest.status with id := targetVMID } }) with
    | none => return none
    | some err =>
      if err.reason = .conflict ∧ attempts ≠ 0 then seedStatusID vmKey targetVMID attempts
      else return some err

def finalizeReady : M Return := do
  let now ← ask .now
  match ← updateStatus { clone with
    status := readyStatus clone.status clone.spec.target.name now } with
  | .error err => return ({}, some err)
  | .ok _ => return ({}, none)

/-- The part of `bindTargetVM` once the target object exists; `retry.DefaultRetry` makes
five attempts. -/
def seedTargetVM (targetVMID : String) : M Return := do
  match ← seedStatusID (targetKey clone) targetVMID 5 with
  | some _ => return (.after (5 * second), none)
  | none => finalizeReady clone

def bindTargetVM (targetVMID : String) : M Return := do
  if targetVMID = "" then
    markFailed clone "ProviderError" "clone completed but provider returned no target VM ID"
  else
  match ← ask (.getVirtualMachine (targetKey clone)) with
  | .ok _ => seedTargetVM clone targetVMID
  | .error err =>
  if err.reason = .notFound then
    match ← ask (.createVirtualMachine (buildTargetVM clone sourceVM)) with
    | some err =>
      if err.reason = .alreadyExists then seedTargetVM clone targetVMID
      else markFailed clone "ProviderError" ("failed to create target VM: " ++ err.text)
    | none => seedTargetVM clone targetVMID
  else return (.after (30 * second), none)

/-- `requestedCloneType` is LinkedClone. -/
def linkedRequested : Bool := clone.spec.type = .linkedClone

/-- The class override, or nothing when there is none or it cannot be read. -/
def Reconciler.classJSON : M (Option Go.Json) := do
  match named clone.spec.target.classRef with
  | none => return none
  | some ref =>
  match ← ask (.getClass ⟨clone.objectMeta.ns, ref.name⟩) with
  | .error _ => return none
  | .ok vmClass => return some (marshalClass r.quantity vmClass.spec)

def placementJSON : Option Go.Json :=
  (named clone.spec.target.placementRef).map marshalReference

def cloneRequest (classJSON : Option Go.Json) : CloneRequest where
  sourceVmID := sourceVM.status.id
  targetName := clone.spec.target.name
  linked := linkedRequested clone
  classJSON := classJSON
  placementJSON := placementJSON clone
  customizeJSON := clone.spec.customization

def Reconciler.startClone : M Return := do
  if ¬ (← ask (.isCloner provider)) then
    markFailed clone "Unsupported" "provider does not support clone"
  else
  let classJSON ← r.classJSON clone
  let now ← ask .now
  let clone := { clone with status := cloningStatus clone.status (linkedRequested clone) now }
  match ← ask (.clone provider (cloneRequest clone sourceVM classJSON)) with
  | .error err => markFailed clone "ProviderError" ("clone failed: " ++ err.text)
  | .ok resp =>
  match ← updateStatus { clone with status := clonedStatus clone.status resp } with
  | .error err => return ({}, some err)
  | .ok clone =>
  if resp.taskRef = "" then bindTargetVM clone sourceVM resp.targetVmID
  else return (.after (10 * second), none)

def pollCloneTask : M Return := do
  match ← ask (.isTaskComplete provider clone.status.taskRef) with
  | .error err => markFailed clone "ProviderError" ("clone task failed: " ++ err.text)
  | .ok false => return (.after (10 * second), none)
  | .ok true =>
  match ← updateStatus { clone with status := { clone.status with taskRef := "" } } with
  | .error err => return ({}, some err)
  | .ok clone => bindTargetVM clone sourceVM clone.status.targetVMID

/-- Whether the provider reports that it makes no linked clones. -/
def gateLinkedClone : M Bool := do
  match ← ask (.supportsLinkedClones provider) with
  | some (.ok supported) => return !supported
  | _ => return false

/-- A linked clone is only made by a provider that does not deny it. -/
def linkedCloneBlocked : M Bool :=
  if linkedRequested clone then gateLinkedClone provider else return false

/-- The part of `Reconcile` once source and provider are known. -/
def Reconciler.reconcileClone : M Return := do
  if ← linkedCloneBlocked clone provider then
    markFailed clone "LinkedCloneUnsupported" "provider does not support linked clones"
  else if clone.status.taskRef ≠ "" then
    pollCloneTask clone sourceVM provider
  else if clone.status.targetVMID ≠ "" then
    bindTargetVM clone sourceVM clone.status.targetVMID
  else
  match ← ask (.getVirtualMachine (targetKey clone)) with
  | .ok _ =>
    markFailed clone "ProviderError" ("target VM " ++ Go.quoted clone.spec.target.name ++
      " already exists and was not created by this clone")
  | .error err =>
    if err.reason = .notFound then r.startClone clone sourceVM provider
    else return (.after (30 * second), none)

def vmCloneFinalizer : String := "clone.infra.virtrigaud.io/finalizer"

/-- Only the finalizer goes; the target VM is kept. -/
def handleDeletion : M Return := do
  let err ← ask (.updateClone
    { clone with objectMeta := clone.objectMeta.removeFinalizer vmCloneFinalizer })
  return ({}, err)

/-- The key of the provider, by the source object. -/
def providerKey : ObjectKey :=
  sourceVM.spec.providerRef.key sourceVM.objectMeta.ns

/-- The part of `Reconcile` for a source that is named. -/
def Reconciler.reconcileSource (source : String) : M Return := do
  match ← ask (.getVirtualMachine ⟨clone.objectMeta.ns, source⟩) with
  | .error err =>
    if err.reason = .notFound then
      markPending clone "SourceNotFound" ("source VM " ++ Go.quoted source ++ " not found")
    else return (.after (30 * second), none)
  | .ok sourceVM =>
  if sourceVM.status.id = "" then
    markPending clone "Cloning" "waiting for source VM to be provisioned"
  else
  match ← ask (.getProvider (providerKey sourceVM)) with
  | .error _ =>
    markPending clone "ProviderError"
      ("provider " ++ Go.quoted sourceVM.spec.providerRef.name ++ " not found")
  | .ok provider =>
  match ← ask (.getProviderInstance provider.objectMeta.key) with
  | some err =>
    markPending clone "ProviderError" ("failed to resolve provider " ++
      Go.quoted sourceVM.spec.providerRef.name ++ ": " ++ err.text)
  | none => r.reconcileClone clone sourceVM provider.objectMeta.key

def terminal (phase : ClonePhase) : Bool := phase = .ready || phase = .failed

/-- `VMCloneReconciler.Reconcile` for the object with the given key. -/
def Reconciler.reconcile (key : ObjectKey) : M Return := do
  match ← ask (.getClone key) with
  | .error err =>
    if err.reason = .notFound then return ({}, none)
    return ({}, some err)
  | .ok clone =>
  if clone.objectMeta.deletionTimestamp.isSome then
    handleDeletion clone
  else if ¬ clone.objectMeta.containsFinalizer vmCloneFinalizer then
    let err ← ask (.updateClone
      { clone with objectMeta := clone.objectMeta.addFinalizer vmCloneFinalizer })
    return (if err.isSome then {} else .again, err)
  else if terminal clone.status.phase then
    return ({}, none)
  else
  let clone := { clone with
    status := { clone.status with observedGeneration := clone.objectMeta.generation } }
  match named clone.spec.vmRef with
  | none =>
    markFailed clone "UnsupportedSource"
      "clone source type not yet supported; use source.vmRef"
  | some ref => r.reconcileSource clone ref.name

end Virtrigaud.Clone
