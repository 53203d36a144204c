import Virtrigaud.Migration.Storage

/-!
# Status of a migration

Every status the controller persists is one of the transformers below applied to
the status it worked from; the handlers name the transformer, and nothing else in
the controller changes a status. `updateStatus` is the only writer: up to three
attempts, and after a conflict the whole in-memory status is copied over a fresh
read of the object.
-/

namespace Virtrigaud.Migration

open Effects Program

variable (status : VMMigrationStatus)

def started (now : Time) : VMMigrationStatus :=
  { status with phase := .pending, startTime := some now }

def validationStarted : VMMigrationStatus :=
  { status with phase := .validating, message := "Starting validation" }.setCondition
    "Validating" .conditionTrue "ValidationStarted" "Migration validation started"

/-- A validation check that has to be repeated later. -/
def validationWaits (reason message : String) : VMMigrationStatus :=
  status.setCondition "Validating" .conditionFalse reason message

def storageRecorded (pvcName : String) : VMMigrationStatus :=
  { status with storagePVCName := pvcName }

def mountWaits (reason : String) : VMMigrationStatus :=
  { status.setCondition "Validating" .conditionFalse "WaitingForStorageMount" reason with
    message := "Waiting for providers to mount migration storage: " ++ reason }

def poweringOff : VMMigrationStatus :=
  { status with message := "Powering off source VM before migration" }

def validated (createSnapshot : Bool) : VMMigrationStatus :=
  (if createSnapshot then
    { status with phase := .snapshotting, message := "Preparing to snapshot source VM" }
  else
    { status with phase := .exporting, message := "Preparing to export source VM" }).setCondition
    "Validating" .conditionTrue "ValidationComplete" "Migration validation completed successfully"

def snapshotSelected (name : String) : VMMigrationStatus :=
  { status with
    snapshotID := name, phase := .exporting
    message := "Using existing snapshot " ++ name }.setCondition
    "Snapshotting" .conditionTrue "SnapshotSelected" "Using existing snapshot"

def snapshotReady : VMMigrationStatus :=
  { status with
    phase := .exporting, message := "Snapshot ready, starting export" }.setCondition
    "Snapshotting" .conditionTrue "SnapshotComplete" "Source VM snapshot created"

variable (migration : VMMigration) (resp : SnapshotCreateResponse)

def snapshotStarted : VMMigrationStatus :=
  { status with
    snapshotID := resp.snapshotId
    message := "Snapshot " ++ resp.snapshotId ++ " created" }

def snapshotTaskStarted : VMMigrationStatus :=
  { snapshotStarted status resp with taskRef := resp.task }

def snapshotCreated : VMMigrationStatus :=
  { snapshotStarted status resp with
    phase := .exporting, message := "Snapshot created, starting export"
    taskRef := "" }.setCondition
    "Snapshotting" .conditionTrue "SnapshotComplete" "Source VM snapshot created"

/-- What a successful ExportDisk records, before its task or the next phase. -/
def exportStarted (resp : ExportDiskResponse) (diskFormat : String) : VMMigrationStatus :=
  { status with
    exportID := resp.exportId
    message := "Exporting disk (estimated size: " ++ toString resp.estimatedSizeBytes ++ " bytes)"
    diskInfo := some { status.diskInfo.getD {} with
      sourceDiskID := "", sourceFormat := diskFormat, sourceChecksum := resp.checksum } }

def exportTaskStarted (resp : ExportDiskResponse) (diskFormat : String) : VMMigrationStatus :=
  { exportStarted status resp diskFormat with taskRef := resp.taskRef }

def exportComplete : VMMigrationStatus :=
  { status with
    phase := .importing, message := "Disk exported successfully", taskRef := "" }.setCondition
    "Exporting" .conditionTrue "ExportComplete" "Source VM disk exported"

def transferComplete : VMMigrationStatus :=
  { status with
    phase := .importing, message := "Transfer complete, starting import" }.setCondition
    "Transferring" .conditionTrue "TransferComplete" "Disk transfer completed"

def conversionComplete : VMMigrationStatus :=
  { status with phase := .importing, message := "Conversion complete, starting import" }

/-- What a successful ImportDisk records, before its task or the next phase. -/
def importStarted (resp : ImportDiskResponse) (targetFormat : String) : VMMigrationStatus :=
  { status with
    importID := resp.diskId
    message := "Importing disk (size: " ++ toString resp.actualSizeBytes ++ " bytes)"
    diskInfo := some { status.diskInfo.getD {} with
      targetDiskID := resp.diskId, targetFormat := targetFormat
      targetPath := resp.path, targetChecksum := resp.checksum } }

def importTaskStarted (resp : ImportDiskResponse) (targetFormat : String) : VMMigrationStatus :=
  { importStarted status resp targetFormat with taskRef := resp.taskRef }

def importComplete : VMMigrationStatus :=
  { status with
    phase := .creating, message := "Disk imported, creating target VM"
    taskRef := "" }.setCondition
    "Importing" .conditionTrue "ImportComplete" "Disk imported to target provider"

def targetFound (id : String) : VMMigrationStatus :=
  { status with
    targetVMID := id, phase := .validatingTarget, message := "Target VM ready, validating" }

def targetCreated (name : String) : VMMigrationStatus :=
  { status with message := "Target VM " ++ name ++ " created, waiting for provisioning" }

def targetWaits (readyStatus : String) : VMMigrationStatus :=
  { status with
    message := "Waiting for target VM to be ready (current Ready condition: " ++ readyStatus ++
      ")" }

def migrationComplete (id : String) (now : Time) : VMMigrationStatus :=
  { status with
    targetVMID := id, phase := .ready, message := "Migration completed successfully"
    completionTime := some now }.setCondition
    "Ready" .conditionTrue "MigrationComplete" "VM migration completed successfully"

def cleanupComplete : VMMigrationStatus :=
  { status with cleanedUp := true, message := "Migration completed, cleanup finished" }

def retriesExceeded : VMMigrationStatus :=
  { status with
    message := "Migration failed after " ++ toString status.retryCount ++ " retries: " ++
      status.message }

def retrying (maxRetries : Int) (now : Time) : VMMigrationStatus :=
  let message := "Retrying migration (attempt " ++ toString (status.retryCount + 1) ++ "/" ++
    toString maxRetries ++ ")"
  { status with
    retryCount := status.retryCount + 1, lastRetryTime := some now
    phase := .pending, message := message, taskRef := "" }.setCondition
    "Failed" .conditionFalse "Retrying" message

def failed (message : String) (now : Time) : VMMigrationStatus :=
  ({ status with
    phase := .failed, message := message, completionTime := some now }.setCondition
    "Failed" .conditionTrue "MigrationFailed" message).setCondition
    "Ready" .conditionFalse "MigrationFailed" message

/-- The attempts that are left of `updateStatus`. -/
def updateStatusLoop : Nat → VMMigration → M (VMMigration × Option GoError)
  | 0, migration => return (migration, some (errorf "failed to update status after 3 attempts"))
  | attempts + 1, migration => do
    match ← ask (.statusUpdate migration) with
    | .ok (objectMeta, spec) => return ({ migration with objectMeta, spec }, none)
    | .error err =>
      if err.reason = .conflict ∧ attempts ≠ 0 then
        match ← ask (.getMigration migration.objectMeta.key) with
        | .error err => return (migration, some err)
        | .ok fresh => updateStatusLoop attempts { fresh with status := migration.status }
      else return (migration, some err)

/-- Persist the in-memory status. Returns the object as it is in memory afterwards. -/
def updateStatus : M (VMMigration × Option GoError) :=
  updateStatusLoop 3 migration

/-- Persist a status and return the result, or the error of the write. -/
def persist (status : VMMigrationStatus) (result : Result) : M Return := do
  match ← updateStatus { migration with status } with
  | (_, some err) => return ({}, some err)
  | (_, none) => return (result, none)

def transitionToFailed (message : String) : M Return := do
  let now ← ask .now
  persist migration (failed migration.status message now) .again

end Virtrigaud.Migration
