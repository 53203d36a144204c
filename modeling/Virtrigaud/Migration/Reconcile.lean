import Virtrigaud.Migration.Phases

/-!
# Target phases, clean-up and Reconcile

The phases that create and validate the target VirtualMachine, the clean-up of a
finished or deleted migration, retries, and the dispatch in `Reconcile`.
-/

namespace Virtrigaud.Migration

open Effects Program

variable (r : Reconciler) (migration : VMMigration)

/-- Name and namespace of the target VirtualMachine. -/
def targetKey : ObjectKey where
  ns := if migration.spec.target.ns = "" then migration.objectMeta.ns
    else migration.spec.target.ns
  name := if migration.spec.target.name = "" then migration.spec.source.vmRef.name ++ "-migrated"
    else migration.spec.target.name

/-- `namespace/name`, the value of the annotation that marks a created target. -/
def migrationRefText : String :=
  migration.objectMeta.ns ++ "/" ++ migration.objectMeta.name

/-- The VirtualMachine `handleCreatingPhase` creates. -/
def targetVM (diskInfo : MigrationDiskInfo) : VirtualMachine where
  objectMeta := {
    name := (targetKey migration).name
    ns := (targetKey migration).ns
    labels := migration.spec.target.labels
    annotations := migration.spec.target.annotations.foldr
      (fun pair annotations => StringMap.set annotations pair.1 pair.2)
      [("virtrigaud.io/migrated-from",
          migration.objectMeta.ns ++ "/" ++ migration.spec.source.vmRef.name),
        ("virtrigaud.io/migration", migrationRefText migration),
        ("virtrigaud.io/imported-disk-id", migration.status.importID),
        ("virtrigaud.io/disk-checksum", diskInfo.targetChecksum)] }
  spec := {
    providerRef := migration.spec.target.providerRef
    classRef := (migration.spec.target.classRef.map fun ref =>
      ({ name := ref.name, ns := migration.objectMeta.ns } : ObjectRef)).getD {}
    networks := migration.spec.target.networks
    importedDisk := some {
      diskID := migration.status.importID
      path := diskInfo.targetPath
      format := diskInfo.targetFormat
      source := "migration"
      migrationRef := some ⟨migration.objectMeta.name⟩ }
    placementRef := migration.spec.target.placementRef }

def handleCreatingPhase : M Return := do
  match ← ask (.getVirtualMachine (targetKey migration)) with
  | .ok existingVM =>
    if existingVM.status.id ≠ "" ∧ existingVM.readyCondition = some .conditionTrue then
      persist migration (targetFound migration.status existingVM.status.id) .again
    else return (.after (30 * second), none)
  | .error err =>
  if err.reason ≠ .notFound then
    transitionToFailed migration ("Failed to check target VM: " ++ err.text)
  else
  match migration.status.diskInfo with
  | none =>
    transitionToFailed migration
      "import did not record disk info (status.diskInfo is nil); cannot create target VM"
  | some diskInfo =>
  match ← ask (.createVirtualMachine (targetVM migration diskInfo)) with
  | some err => transitionToFailed migration ("Failed to create target VM: " ++ err.text)
  | none =>
    persist migration (targetCreated migration.status (targetKey migration).name)
      (.after (10 * second))

/-- The target with the annotations that protect it once the migration is complete.
The time is written in nanoseconds here; only logs read it. -/
def markCompleted (vm : VirtualMachine) (now : Time) : VirtualMachine :=
  let annotations := StringMap.set vm.objectMeta.annotations
    "virtrigaud.io/migration-completed" "true"
  { vm with objectMeta := { vm.objectMeta with
      annotations := StringMap.set annotations "virtrigaud.io/migration-completed-at"
        (toString now) } }

def handleValidatingTargetPhase : M Return := do
  match ← ask (.getVirtualMachine (targetKey migration)) with
  | .error err => transitionToFailed migration ("Failed to get target VM: " ++ err.text)
  | .ok targetVM =>
  if targetVM.readyCondition ≠ some .conditionTrue then
    let readyStatus := (targetVM.readyCondition.map ConditionStatus.text).getD "not set"
    persist migration (targetWaits migration.status readyStatus) (.after (30 * second))
  else
  let now ← ask .now
  -- The write of the completion marker may fail; the error is only logged.
  let _ ← ask (.updateVirtualMachine (markCompleted targetVM now))
  persist migration (migrationComplete migration.status targetVM.status.id now) {}

def cleanupAllowed : Bool :=
  match migration.spec.options with
  | none => true
  | some options => options.cleanupPolicy ≠ .never

/-- The migration has a snapshot of its own on the source. -/
def ownsSnapshot : Bool :=
  decide (migration.status.snapshotID ≠ "") && migration.spec.source.snapshotRef.isNone

/-- The polls that are left of a bounded wait for a task; errors keep polling. -/
def awaitTask (provider : ObjectKey) (taskRef : String) : Nat → M Bool
  | 0 => return false
  | polls + 1 => do
    match ← ask (.isTaskComplete provider taskRef) with
    | .ok true => return true
    | _ =>
      if ← ask .pollDeadline then return false
      awaitTask provider taskRef polls

/-- Delete the migration's snapshot, wait for its task, and forget its id. -/
def deleteSourceSnapshot : M (VMMigration × Option GoError) := do
  match ← getSourceVM migration with
  | .error err => return (migration, some (err.wrap "failed to get source VM"))
  | .ok sourceVM =>
  match ← getProvider (sourceProviderRef migration sourceVM) migration.objectMeta.ns with
  | .error err => return (migration, some (err.wrap "failed to get source provider"))
  | .ok sourceProvider =>
  match ← getProviderInstance sourceProvider with
  | some err => return (migration, some (err.wrap "failed to get provider instance"))
  | none =>
  let provider := sourceProvider.objectMeta.key
  let forget : VMMigration :=
    { migration with status := { migration.status with snapshotID := "" } }
  match ← ask (.snapshotDelete provider sourceVM.status.id migration.status.snapshotID) with
  | .error err => return (migration, some (err.wrap "failed to delete snapshot"))
  | .ok taskRef =>
  if taskRef = "" then
    return (forget, none)
  -- An immediate poll, then one every three seconds for two minutes.
  if ← awaitTask provider taskRef 41 then
    match ← ask (.taskStatus provider taskRef) with
    | .error err =>
      return (migration, some (err.wrap ("get snapshot delete task " ++ taskRef ++ " status")))
    | .ok taskStatus =>
    if taskStatus.error ≠ "" then
      return (migration, some (errorf ("snapshot delete task " ++ taskRef ++ " failed: " ++
        taskStatus.error)))
    return (forget, none)
  else
    return (migration, some (errorf ("await snapshot delete task " ++ taskRef ++
      ": context deadline exceeded")))

/-- Delete the source VirtualMachine object. -/
def deleteSourceVM : M (Option GoError) := do
  match ← getSourceVM migration with
  | .error err => return some (err.wrap "failed to get source VM")
  | .ok sourceVM =>
  let err ← ask (.deleteVirtualMachine sourceVM)
  return err.map (·.wrap "failed to delete source VM")

/-- Clean-up of staging storage and snapshot at Ready: the object in memory and
whether something was cleaned up, or nothing when a step has to be retried. -/
def Reconciler.cleanupArtifacts : M (Option (VMMigration × Bool)) := do
  if ¬ cleanupAllowed migration then
    return some (migration, false)
  -- Without a storage configuration this does nothing.
  match ← r.cleanupIntermediateStorage migration with
  | some _ => return none
  | none =>
  if ownsSnapshot migration then
    match ← deleteSourceSnapshot migration with
    | (_, some _) => return none
    | (migration, none) => return some (migration, true)
  else return some (migration, migration.spec.storage.isSome)

/-- Delete the source if the migration asks for it. -/
def deleteSourceIfAsked : M (Option GoError) :=
  if migration.spec.source.deleteAfterMigration then deleteSourceVM migration else return none

def Reconciler.handleReadyPhase : M Return := do
  if migration.status.cleanedUp then
    return ({}, none)
  match ← r.cleanupArtifacts migration with
  | none => return (.after (5 * minute), none)
  | some (migration, cleanupPerformed) =>
  match ← deleteSourceIfAsked migration with
  | some _ => return (.after (5 * minute), none)
  | none =>
  if cleanupPerformed ∨ migration.spec.source.deleteAfterMigration then
    persist migration (cleanupComplete migration.status) {}
  else return ({}, none)

/-- Remove the snapshot of a migration that ends here: it will not be retried, or is
deleted. Errors are logged. -/
def cleanupSnapshotOnTerminalFailure : M VMMigration := do
  if cleanupAllowed migration && ownsSnapshot migration then
    let (migration, _) ← deleteSourceSnapshot migration
    return migration
  else return migration

/-- Two's complement arithmetic of `time.Duration`. -/
def wrapInt64 (x : Int) : Int := (BitVec.ofInt 64 x).toInt

/-- `baseDelay` multiplied `count` times. -/
def backoffDelay (baseDelay : Duration) (multiplier : Int) : Nat → Duration
  | 0 => baseDelay
  | count + 1 => wrapInt64 (backoffDelay baseDelay multiplier count * multiplier)

/-- The delay before the next retry, capped at thirty minutes. -/
def retryDelay (retryPolicy : MigrationRetryPolicy) (retryCount : Int) : Duration :=
  let delay := backoffDelay (retryPolicy.retryDelay.getD (5 * minute))
    (retryPolicy.backoffMultiplier.getD 2) retryCount.toNat
  if delay > 30 * minute then 30 * minute else delay

def maxRetries (retryPolicy : MigrationRetryPolicy) : Int := retryPolicy.maxRetries.getD 3

def handleFailedPhase : M Return := do
  match migration.spec.options.bind MigrationOptions.retryPolicy with
  | none =>
    let _ ← cleanupSnapshotOnTerminalFailure migration
    return ({}, none)
  | some retryPolicy =>
  if migration.status.retryCount ≥ maxRetries retryPolicy then
    let migration ← cleanupSnapshotOnTerminalFailure
      { migration with status := retriesExceeded migration.status }
    persist migration migration.status {}
  else
  let now ← ask .now
  let delay := retryDelay retryPolicy migration.status.retryCount
  -- Without an earlier retry there is nothing to wait for.
  let elapsed := migration.status.lastRetryTime.map (now - ·)
  if elapsed.any (· < delay) then
    return (.after (delay - elapsed.getD 0), none)
  else
    persist migration (retrying migration.status (maxRetries retryPolicy) now) .again

def finalizerName : String := "vmmigration.infra.virtrigaud.io/finalizer"

/-- Remove the staged file unless that is done; errors are only collected. -/
def Reconciler.cleanupStagedFile : M Unit := do
  if migration.status.cleanedUp then
    return
  let _ ← r.cleanupIntermediateStorage migration

/-- Delete the staging claim the status names; errors are only collected. -/
def deleteClaim : M Unit := do
  if migration.status.storagePVCName = "" then
    return
  match ← ask (.getPVC ⟨migration.objectMeta.ns, migration.status.storagePVCName⟩) with
  | .error _ => return
  | .ok pvc =>
  let _ ← ask (.deletePVC pvc)

/-- Delete a partially created target: it carries this migration's annotation and no
completion marker. -/
def deletePartialTarget : M Unit := do
  if migration.status.phase ≠ .failed ∧ migration.status.phase ≠ .creating then
    return
  match ← ask (.getVirtualMachine (targetKey migration)) with
  | .error _ => return
  | .ok vm =>
  let annotations := vm.objectMeta.annotations
  if annotations.get "virtrigaud.io/migration-completed" = "true" then
    return
  if annotations.lookup "virtrigaud.io/migration" = some (migrationRefText migration) then
    let _ ← ask (.deleteVirtualMachine vm)

/-- Clean up and remove the finalizer, whatever the clean-up steps answered. -/
def Reconciler.handleDeletion : M Return := do
  r.cleanupStagedFile migration
  deleteClaim migration
  let migration ← cleanupSnapshotOnTerminalFailure migration
  deletePartialTarget migration
  let released := { migration with
    objectMeta := migration.objectMeta.removeFinalizer finalizerName }
  return ({}, ← ask (.updateMigration released))

/-- A failed migration that will not be retried. -/
def permanentlyFailed : Bool :=
  migration.status.phase = .failed &&
    match migration.spec.options.bind MigrationOptions.retryPolicy with
    | none => true
    | some retryPolicy => migration.status.retryCount ≥ maxRetries retryPolicy

/-- The handler of the phase the object was read in. -/
def Reconciler.handlePhase : M Return :=
  match migration.status.phase with
  -- `Reconcile` initializes the status before it dispatches.
  | .unset => return (.after (30 * second), none)
  | .pending => handlePendingPhase migration
  | .validating => r.handleValidatingPhase migration
  | .snapshotting => handleSnapshottingPhase migration
  | .exporting => r.handleExportingPhase migration
  | .transferring => handleTransferringPhase migration
  | .converting => handleConvertingPhase migration
  | .importing => r.handleImportingPhase migration
  | .creating => handleCreatingPhase migration
  | .validatingTarget => handleValidatingTargetPhase migration
  | .ready => r.handleReadyPhase migration
  | .failed => handleFailedPhase migration

/-- `VMMigrationReconciler.Reconcile` for the object with the given key. -/
def Reconciler.reconcile (key : ObjectKey) : M Return := do
  match ← ask (.getMigration key) with
  | .error err =>
    if err.reason = .notFound then return ({}, none)
    return ({}, some err)
  | .ok migration =>
  if migration.objectMeta.deletionTimestamp.isSome then
    r.handleDeletion migration
  else if ¬ migration.objectMeta.containsFinalizer finalizerName then
    let err ← ask (.updateMigration
      { migration with objectMeta := migration.objectMeta.addFinalizer finalizerName })
    return (if err.isSome then {} else .again, err)
  else if migration.status.phase = .unset then
    let now ← ask .now
    persist migration (started migration.status now) .again
  else if permanentlyFailed migration then
    return ({}, none)
  else r.handlePhase migration

end Virtrigaud.Migration
