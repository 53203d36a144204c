import Virtrigaud.Migration.Status

/-!
# Phase handlers

One handler per phase of a migration, in the order a migration passes them. A
handler works on the object as the reconcile read it, returns after its first
status write (validation may record its claim before), and every error it cannot
wait out ends in `transitionToFailed`.
-/

namespace Virtrigaud.Migration

open Effects Program

/-- `migrationLongOp`: the RPCs guarded by `longOpInFlight`. -/
inductive MigrationLongOp
  | exportDisk
  | importDisk
  deriving DecidableEq, Repr

def MigrationLongOp.text : MigrationLongOp → String
  | .exportDisk => "export"
  | .importDisk => "import"

variable (status : VMMigrationStatus) (r : Reconciler) (migration : VMMigration)
  (op : MigrationLongOp) (provider : ObjectKey) (sourceVM : VirtualMachine)

def longOpKey : String :=
  migration.objectMeta.uid ++ "/" ++ toString migration.objectMeta.generation ++ "/" ++ op.text

/-- Whether this call is the first to mark the operation. -/
def markLongOpStarted : M Bool := do
  let loaded ← ask (.longOpLoadOrStore (longOpKey migration op))
  return !loaded

def longOpAlreadyStarted : M Bool :=
  ask (.longOpLoad (longOpKey migration op))

def getProviderInstance (provider : Provider) : M (Option GoError) := do
  let err ← ask (.getProviderInstance provider.objectMeta.key)
  return err.map (·.wrap "failed to resolve provider")

def isProviderReady (provider : Provider) : Bool :=
  provider.conditions.any fun condition =>
    condition.type = "ProviderAvailable" ∧ condition.status = .conditionTrue

def handlePendingPhase : M Return :=
  persist migration (validationStarted migration.status) .again

/-- How a part of a handler ends: with the handler's result, or with the object in
memory for the next part. -/
inductive Flow
  | stop (result : Return)
  | next (migration : VMMigration)

/-- Record the claim in the status unless one is recorded. -/
def recordClaim (pvcName : String) : M (VMMigration × Option GoError) :=
  if migration.status.storagePVCName = "" then
    updateStatus { migration with status := storageRecorded migration.status pvcName }
  else return (migration, none)

/-- Validation of a claim: it exists, is recorded, and both providers mount it. -/
def Reconciler.validateClaim (sourceProvider targetProvider : Provider) : M Flow := do
  let source := sourceProvider.objectMeta
  let target := targetProvider.objectMeta
  if source.ns ≠ migration.objectMeta.ns ∨ target.ns ≠ migration.objectMeta.ns then
    return .stop (← transitionToFailed migration
      ("PVC-based migration requires the migration (" ++ migration.objectMeta.ns ++
        "), source provider (" ++ source.ns ++ "/" ++ source.name ++ ") and target provider (" ++
        target.ns ++ "/" ++ target.name ++
        ") to share one namespace; a pod cannot mount a PVC across namespaces"))
  match ← r.ensureMigrationPVC migration with
  | .error err =>
    return .stop (← transitionToFailed migration ("Failed to ensure migration PVC: " ++ err.text))
  | .ok pvcName =>
  match ← recordClaim migration pvcName with
  | (_, some err) => return .stop ({}, some err)
  | (migration, none) =>
  match ← migrationProvidersMounted sourceProvider targetProvider pvcName with
  | .error err =>
    return .stop (← transitionToFailed migration
      ("Failed to check migration storage mount: " ++ err.text))
  | .ok (true, _) => return .next migration
  | .ok (false, reason) =>
  match ← migrationMountDeadlineExceeded migration pvcName with
  | .error err =>
    return .stop (← transitionToFailed migration
      ("Failed to check migration storage mount: " ++ err.text))
  | .ok true =>
    return .stop (← transitionToFailed migration
      ("timed out after 5m0s waiting for providers to mount migration PVC " ++ pvcName ++ " (" ++
        reason ++ "); verify the provider Deployments rolled new pods and that those pods are " ++
        "Ready (kubectl -n " ++ migration.objectMeta.ns ++
        " get deploy,pod -l app.kubernetes.io/name=virtrigaud-provider)"))
  | .ok false =>
    return .stop (← persist migration (mountWaits migration.status reason) (.after (5 * second)))

/-- Validation of the storage configuration; only the pvc backend has a claim. -/
def Reconciler.validateStorage (sourceProvider targetProvider : Provider) : M Flow := do
  match migration.spec.storage with
  | none => return .next migration
  | some storage =>
  match r.validateStorageConfig storage with
  | some err =>
    return .stop (← transitionToFailed migration ("Invalid storage configuration: " ++ err.text))
  | none =>
  if migrationBackendType migration = backendS3 then
    match ← loadS3Credentials migration with
    | .error err =>
      return .stop (← transitionToFailed migration
        ("Invalid s3 storage configuration: " ++ err.text))
    | .ok _ => return .next migration
  else if migrationBackendType migration = backendNFS then
    return .next migration
  else
    r.validateClaim migration sourceProvider targetProvider

/-- Set the desired power state to Off unless it is. -/
def desirePowerOff (vm : VirtualMachine) : M (Except GoError VirtualMachine) :=
  if vm.spec.powerState ≠ .off then ask (.patchPowerOff vm) else return .ok vm

/-- Ask the provider to power the VM off if it reports it is on. -/
def requestPowerOff (id : String) (desc : DescribeResponse) : M (Except GoError String) :=
  if desc.powerState = .on then ask (.power provider id .off) else return .ok ""

/-- The object in memory, and whether the source is off (`ok true`), is still
powering off (`ok false`), or an error occurred. -/
def ensureSourcePoweredOff : M (VMMigration × Except GoError Bool) := do
  match ← getSourceVM migration with
  | .error err => return (migration, .error (err.wrap "get source VM"))
  | .ok found =>
  if found.status.id = "" then
    return (migration, .error (errorf ("source VM " ++ found.objectMeta.name ++
      " has no provider ID yet")))
  match ← desirePowerOff found with
  | .error err =>
    return (migration, .error (err.wrap ("set source VM " ++ found.objectMeta.name ++
      " desired power state to Off")))
  | .ok sourceVM =>
  match ← getProvider sourceVM.spec.providerRef migration.objectMeta.ns with
  | .error err => return (migration, .error (err.wrap "get source provider"))
  | .ok sourceProvider =>
  match ← getProviderInstance sourceProvider with
  | some err => return (migration, .error (err.wrap "get source provider instance"))
  | none =>
  let provider := sourceProvider.objectMeta.key
  match ← ask (.describe provider sourceVM.status.id) with
  | .error err => return (migration, .error (err.wrap "describe source VM"))
  | .ok desc =>
  if desc.powerState = .off then
    return (migration, .ok true)
  match ← requestPowerOff provider sourceVM.status.id desc with
  | .error err => return (migration, .error (err.wrap "power off source VM"))
  | .ok _ =>
  match ← updateStatus { migration with status := poweringOff migration.status } with
  | (migration, some err) => return (migration, .error err)
  | (migration, none) => return (migration, .ok false)

/-- The end of validation: power off the source if asked to, then the next phase. -/
def finishValidation : M Return := do
  let complete (migration : VMMigration) : M Return :=
    persist migration (validated migration.status migration.spec.source.createSnapshot) .again
  if migration.spec.source.powerOffBeforeMigration then
    match ← ensureSourcePoweredOff migration with
    | (migration, .error err) =>
      transitionToFailed migration
        ("Failed to power off source VM before migration: " ++ err.text)
    | (_, .ok false) => return (.after (5 * second), none)
    | (migration, .ok true) => complete migration
  else complete migration

def Reconciler.handleValidatingPhase : M Return := do
  match ← getSourceVM migration with
  | .error err => transitionToFailed migration ("Failed to get source VM: " ++ err.text)
  | .ok sourceVM =>
  if sourceVM.status.id = "" then
    persist migration (validationWaits migration.status "SourceVMNotReady"
      "Source VM is not yet provisioned") (.after (30 * second))
  else
  match ← getProvider (sourceProviderRef migration sourceVM) migration.objectMeta.ns with
  | .error err => transitionToFailed migration ("Failed to get source provider: " ++ err.text)
  | .ok sourceProvider =>
  match ← getTargetProvider migration with
  | .error err => transitionToFailed migration ("Failed to get target provider: " ++ err.text)
  | .ok targetProvider =>
  if ¬ isProviderReady sourceProvider then
    persist migration (validationWaits migration.status "SourceProviderNotReady"
      "Source provider is not ready") (.after (30 * second))
  else if ¬ isProviderReady targetProvider then
    persist migration (validationWaits migration.status "TargetProviderNotReady"
      "Target provider is not ready") (.after (30 * second))
  else
  let refusal := gateMigrationStorageBackend migration sourceProvider targetProvider
  if refusal ≠ "" then
    transitionToFailed migration refusal
  else
  match ← r.validateStorage migration sourceProvider targetProvider with
  | .stop result => return result
  | .next migration => finishValidation migration

def snapshotRequest : SnapshotCreateRequest where
  vmId := sourceVM.status.id
  nameHint := migration.spec.source.vmRef.name ++ "-migration-" ++
    String.ofList (migration.objectMeta.uid.toList.take 8)
  description := "Migration snapshot for " ++ migration.objectMeta.name
  includeMemory := false
  quiesce := false

def handleSnapshottingPhase : M Return := do
  match ← getSourceVM migration with
  | .error err => transitionToFailed migration ("Failed to get source VM: " ++ err.text)
  | .ok sourceVM =>
  match migration.spec.source.snapshotRef with
  | some ref => persist migration (snapshotSelected migration.status ref.name) .again
  | none =>
  match ← getProvider (sourceProviderRef migration sourceVM) migration.objectMeta.ns with
  | .error err => transitionToFailed migration ("Failed to get source provider: " ++ err.text)
  | .ok sourceProvider =>
  match ← getProviderInstance sourceProvider with
  | some err => transitionToFailed migration ("Failed to get provider instance: " ++ err.text)
  | none =>
  if migration.status.snapshotID ≠ "" then
    persist migration (snapshotReady migration.status) .again
  else
  match ← ask (.snapshotCreate sourceProvider.objectMeta.key
      (snapshotRequest migration sourceVM)) with
  | .error err => transitionToFailed migration ("Failed to create snapshot: " ++ err.text)
  | .ok resp =>
  if resp.task ≠ "" then
    persist migration (snapshotTaskStarted migration.status resp) (.after (10 * second))
  else
    persist migration (snapshotCreated migration.status resp) .again

/-- The refusal of a provider that reports it lacks the capability, if capabilities
are enforced; its failed status write is not reported. -/
def Reconciler.gateProviderCapability (supported : Capabilities → Bool) (failureMessage : String) :
    M (Option Result) := do
  if ¬ r.enforceCapabilities then
    return none
  match ← ask (.getCapabilities provider) with
  | none => return none
  | some (.error _) => return none
  | some (.ok caps) =>
  if supported caps then
    return none
  let (result, _) ← transitionToFailed migration failureMessage
  return some result

/-- The requested disk format. -/
def diskFormat : String :=
  let format := (migration.spec.options.map MigrationOptions.diskFormat).getD ""
  if format = "" then "qcow2" else format

/-- Wait for the task of an operation that was issued before, if there is one, and
then move on to `complete`. -/
def pollTask (migration : VMMigration) (op failure : String) (complete : VMMigrationStatus) :
    M Return := do
  if migration.status.taskRef = "" then
    persist migration complete {}
  else
  match ← ask (.isTaskComplete provider migration.status.taskRef) with
  | .error _ => return (.after (30 * second), none)
  | .ok false => return (.after (30 * second), none)
  | .ok true =>
  match ← ask (.taskStatus provider migration.status.taskRef) with
  | .error err =>
    transitionToFailed migration ("Failed to get " ++ op ++ " task status: " ++ err.text)
  | .ok taskStatus =>
  if taskStatus.error ≠ "" then
    transitionToFailed migration (failure ++ taskStatus.error)
  else
    persist migration complete {}

/-- The status alone says that the export was issued. -/
def exportRecorded : Bool :=
  decide (status.exportID ≠ "") || isConditionTrue status.conditions "Exporting"

/-- `exportAlreadyDone`. -/
def exportAlreadyDone : M Bool := do
  if exportRecorded migration.status then
    return true
  longOpAlreadyStarted migration .exportDisk

def exportRequest (destinationURL storageOpts : String) (creds : StringMap) :
    ExportDiskRequest where
  vmId := sourceVM.status.id
  diskId := ""
  snapshotId := migration.status.snapshotID
  destinationURL := destinationURL
  format := diskFormat migration
  compress := (migration.spec.options.map MigrationOptions.compress).getD false
  credentials := creds
  backendType := migrationBackendType migration
  transferMode := resolveTransferMode migration
  storageOptionsJSON := storageOpts

/-- The part of the exporting phase that issues ExportDisk. -/
def Reconciler.issueExport : M Return := do
  match r.generateStorageURL migration "export" with
  | .error err => transitionToFailed migration ("Failed to generate storage URL: " ++ err.text)
  | .ok destinationURL =>
  match r.storageOptionsJSON migration with
  | .error err => transitionToFailed migration ("Failed to build storage options: " ++ err.text)
  | .ok storageOpts =>
  match ← loadS3Credentials migration with
  | .error err => transitionToFailed migration ("Failed to load storage credentials: " ++ err.text)
  | .ok creds =>
  match ← r.gateProviderCapability migration provider Capabilities.supportsDiskExport
      "Source provider does not support disk export" with
  | some result => return (result, none)
  | none =>
  if ← markLongOpStarted migration .exportDisk then
    match ← ask (.exportDisk provider
        (exportRequest migration sourceVM destinationURL storageOpts creds)) with
    | .error err =>
      ask (.longOpDelete (longOpKey migration .exportDisk))
      transitionToFailed migration ("Failed to start disk export: " ++ err.text)
    | .ok resp =>
    if resp.taskRef ≠ "" then
      persist migration (exportTaskStarted migration.status resp (diskFormat migration))
        (.after (30 * second))
    else
      persist migration
        (exportComplete (exportStarted migration.status resp (diskFormat migration))) {}
  else return (.after (30 * second), none)

def Reconciler.handleExportingPhase : M Return := do
  match ← getSourceVM migration with
  | .error err => transitionToFailed migration ("Failed to get source VM: " ++ err.text)
  | .ok sourceVM =>
  match ← getProvider (sourceProviderRef migration sourceVM) migration.objectMeta.ns with
  | .error err => transitionToFailed migration ("Failed to get source provider: " ++ err.text)
  | .ok sourceProvider =>
  match ← getProviderInstance sourceProvider with
  | some err => transitionToFailed migration ("Failed to get provider instance: " ++ err.text)
  | none =>
  if ← exportAlreadyDone migration then
    pollTask sourceProvider.objectMeta.key migration "export" "Export failed: "
      (exportComplete migration.status)
  else
    r.issueExport migration sourceProvider.objectMeta.key sourceVM

def handleTransferringPhase : M Return :=
  persist migration (transferComplete migration.status) .again

def handleConvertingPhase : M Return :=
  persist migration (conversionComplete migration.status) .again

/-- The status alone says that the import was issued. -/
def importRecorded : Bool :=
  decide (status.importID ≠ "") || isConditionTrue status.conditions "Importing"

/-- `importAlreadyDone`. -/
def importAlreadyDone : M Bool := do
  if importRecorded migration.status then
    return true
  longOpAlreadyStarted migration .importDisk

/-- The checksum the import has to verify: the one the export recorded. -/
def expectedChecksum : String :=
  (status.diskInfo.map MigrationDiskInfo.sourceChecksum).getD ""

def importRequest (sourceURL storageOpts format : String) (creds : StringMap) :
    ImportDiskRequest where
  sourceURL := sourceURL
  storageHint := ""
  format := format
  targetName := migration.spec.target.name ++ "-migrated"
  verifyChecksum := (migration.spec.options.map MigrationOptions.verifyChecksums).getD true
  expectedChecksum := expectedChecksum migration.status
  credentials := creds
  backendType := migrationBackendType migration
  transferMode := resolveTransferMode migration
  storageOptionsJSON := storageOpts

/-- The format of the staged object. -/
def importFormat : M (Except GoError String) := do
  if migrationBackendType migration = backendS3 then
    match ← getSourceProvider migration with
    | .error err => return .error err
    | .ok sourceProvider => return .ok (stagedImportFormat sourceProvider)
  else if migrationBackendType migration = backendNFS then
    return .ok "qcow2"
  else return .ok (diskFormat migration)

/-- The part of the importing phase that issues ImportDisk. -/
def Reconciler.issueImport (targetProvider : Provider) : M Return := do
  match r.generateStorageURL migration "export" with
  | .error err => transitionToFailed migration ("Failed to generate source URL: " ++ err.text)
  | .ok sourceURL =>
  match r.storageOptionsJSON migration with
  | .error err => transitionToFailed migration ("Failed to build storage options: " ++ err.text)
  | .ok storageOpts =>
  match ← loadS3Credentials migration with
  | .error err => transitionToFailed migration ("Failed to load storage credentials: " ++ err.text)
  | .ok creds =>
  match ← importFormat migration with
  | .error err => transitionToFailed migration ("Failed to get source provider: " ++ err.text)
  | .ok format =>
  let provider := targetProvider.objectMeta.key
  match ← r.gateProviderCapability migration provider Capabilities.supportsDiskImport
      "Target provider does not support disk import" with
  | some result => return (result, none)
  | none =>
  if ← markLongOpStarted migration .importDisk then
    match ← ask (.importDisk provider
        (importRequest migration sourceURL storageOpts format creds)) with
    | .error err =>
      ask (.longOpDelete (longOpKey migration .importDisk))
      transitionToFailed migration ("Failed to start disk import: " ++ err.text)
    | .ok resp =>
    if resp.taskRef ≠ "" then
      persist migration
        (importTaskStarted migration.status resp (landedTargetFormat targetProvider))
        (.after (30 * second))
    else
      persist migration
        (importComplete (importStarted migration.status resp (landedTargetFormat targetProvider)))
        (.after (5 * second))
  else return (.after (30 * second), none)

def Reconciler.handleImportingPhase : M Return := do
  match ← getTargetProvider migration with
  | .error err => transitionToFailed migration ("Failed to get target provider: " ++ err.text)
  | .ok targetProvider =>
  match ← getProviderInstance targetProvider with
  | some err =>
    transitionToFailed migration ("Failed to get target provider instance: " ++ err.text)
  | none =>
  if ← importAlreadyDone migration then
    pollTask targetProvider.objectMeta.key migration "import" "Import failed: "
      (importComplete migration.status)
  else
    r.issueImport migration targetProvider

end Virtrigaud.Migration
