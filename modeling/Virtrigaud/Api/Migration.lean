import Virtrigaud.Api.Objects

/-!
# The VMMigration object

Spec, status and phases of a VMMigration. Status is written only through the
status subresource, spec and metadata only through ordinary updates.
-/

namespace Virtrigaud

structure MigrationSource where
  vmRef : LocalObjectReference
  providerRef : Option ObjectRef := none
  snapshotRef : Option LocalObjectReference := none
  (createSnapshot powerOffBeforeMigration deleteAfterMigration : Bool := false)
  deriving DecidableEq, Repr

structure MigrationTarget where
  name : String
  ns : String := ""
  providerRef : ObjectRef
  classRef : Option LocalObjectReference := none
  networks : List VMNetworkRef := []
  placementRef : Option LocalObjectReference := none
  (labels annotations : StringMap := [])
  deriving DecidableEq, Repr

structure MigrationRetryPolicy where
  maxRetries : Option Int := none
  retryDelay : Option Duration := none
  backoffMultiplier : Option Int := none
  deriving DecidableEq, Repr

inductive CleanupPolicy
  | unset
  | always
  | onSuccess
  | never
  deriving DecidableEq, Repr

structure MigrationOptions where
  diskFormat : String := ""
  (compress verifyChecksums : Bool := false)
  retryPolicy : Option MigrationRetryPolicy := none
  cleanupPolicy : CleanupPolicy := .unset
  deriving DecidableEq, Repr

structure S3StorageConfig where
  bucket : String
  (endpoint region keyPrefix : String := "")
  credentialsSecretRef : ObjectRef := {}
  usePathStyle : Bool := false
  deriving DecidableEq, Repr

structure NFSStorageConfig where
  server : String
  «export» : String
  path : String := ""
  (uid gid : Option Int := none)
  deriving DecidableEq, Repr

structure PVCStorageConfig where
  (name storageClassName size accessMode mountPath : String := "")
  deriving DecidableEq, Repr

structure MigrationStorage where
  (type transferMode : String := "")
  pvc : Option PVCStorageConfig := none
  nfs : Option NFSStorageConfig := none
  s3 : Option S3StorageConfig := none
  deriving DecidableEq, Repr

structure VMMigrationSpec where
  source : MigrationSource
  target : MigrationTarget
  options : Option MigrationOptions := none
  storage : Option MigrationStorage := none
  deriving DecidableEq, Repr

/-- `MigrationPhase`; `unset` is the empty string of a new object. -/
inductive MigrationPhase
  | unset
  | pending
  | validating
  | snapshotting
  | exporting
  | transferring
  | converting
  | importing
  | creating
  | validatingTarget
  | ready
  | failed
  deriving DecidableEq, Repr

structure MigrationDiskInfo where
  sourceDiskID : String := ""
  (sourceFormat targetDiskID targetFormat targetPath sourceChecksum targetChecksum : String := "")
  deriving DecidableEq, Repr

structure VMMigrationStatus where
  phase : MigrationPhase := .unset
  (message snapshotID exportID importID taskRef targetVMID : String := "")
  (startTime completionTime : Option Time := none)
  diskInfo : Option MigrationDiskInfo := none
  /-- `StorageInfo.CleanedUp`; no other field of StorageInfo is used. -/
  cleanedUp : Bool := false
  storagePVCName : String := ""
  conditions : List Condition := []
  retryCount : Int := 0
  lastRetryTime : Option Time := none
  deriving DecidableEq, Repr

structure VMMigration where
  objectMeta : ObjectMeta := {}
  spec : VMMigrationSpec
  status : VMMigrationStatus := {}
  deriving DecidableEq, Repr

/-- `k8s.SetCondition(&migration.Status.Conditions, ...)`. -/
def VMMigrationStatus.setCondition (status : VMMigrationStatus) (conditionType : String)
    (value : ConditionStatus) (reason message : String) : VMMigrationStatus :=
  { status with
    conditions := Virtrigaud.setCondition status.conditions conditionType value reason message }

end Virtrigaud
