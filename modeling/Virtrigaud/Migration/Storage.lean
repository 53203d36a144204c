import Virtrigaud.Migration.Calls
import Virtrigaud.Providers.Backends

/-!
# Staging storage of a migration

The backend a migration stages its disk on: defaults, validation, the gate against
what both providers report, the staged object's URL, S3 credentials, the claim of
the pvc backend with its mount check, and the clean-up of the staged file.
-/

namespace Virtrigaud.Migration

open Effects Program

variable (provider : Provider) (r : Reconciler) (migration : VMMigration)

def migrationBackendType : String :=
  match migration.spec.storage with
  | none => backendPVC
  | some storage => if storage.type = "" then backendPVC else storage.type

def migrationTransferMode : String :=
  match migration.spec.storage with
  | none => transferModeAuto
  | some storage => if storage.transferMode = "" then transferModeAuto else storage.transferMode

def resolveTransferMode : String :=
  if migrationTransferMode migration = transferModeAuto then transferModeRelay
  else migrationTransferMode migration

def nativeDiskFormat : String :=
  if provider.type = .vsphere then "vmdk" else "qcow2"

def stagedImportFormat (sourceProvider : Provider) : String := nativeDiskFormat sourceProvider

def landedTargetFormat (targetProvider : Provider) : String := nativeDiskFormat targetProvider

/-- A reported set, or the default of a provider that reports none. -/
def reportedOr (reported : ReportedCapabilities → List String) (default : List String)
    (provider : Provider) : List String :=
  match provider.reportedCapabilities with
  | none => default
  | some caps => if reported caps = [] then default else reported caps

def reportedExportBackends : Provider → List String :=
  reportedOr ReportedCapabilities.supportedExportBackends [backendPVC]

def reportedImportBackends : Provider → List String :=
  reportedOr ReportedCapabilities.supportedImportBackends [backendPVC]

def reportedTransferModes : Provider → List String :=
  reportedOr ReportedCapabilities.supportedTransferModes [transferModeRelay]

/-- The refusal of a backend or mode that one of the providers does not report. -/
def unsupportedBy (what value side : String) (provider : Provider) (reported : List String) :
    String :=
  what ++ " " ++ Go.quoted value ++ " not supported by " ++ side ++ " provider " ++
    Go.quoted provider.objectMeta.name ++ " (supported: " ++ Go.formatList reported ++
    "); see ADR-0006"

/-- The empty string when the migration may proceed, else the failure message. -/
def gateMigrationStorageBackend (sourceProvider targetProvider : Provider) : String :=
  let backend := migrationBackendType migration
  let mode := migrationTransferMode migration
  if backend ≠ backendPVC ∧ backend ≠ backendS3 ∧ backend ≠ backendNFS then
    "storage backend " ++ Go.quoted backend ++ " is not yet implemented; supported today: " ++
      Go.quoted backendPVC ++ ", " ++ Go.quoted backendS3 ++ ", " ++ Go.quoted backendNFS ++
      " (ADR-0006)"
  else if backend ≠ backendNFS ∧ mode = transferModeDirect then
    "transfer mode " ++ Go.quoted transferModeDirect ++ " is not yet implemented; only " ++
      Go.quoted transferModeRelay ++ " (and " ++ Go.quoted transferModeAuto ++
      ") are supported today (ADR-0006 Slice 1)"
  else if ¬ (reportedExportBackends sourceProvider).contains backend then
    unsupportedBy "storage backend" backend "source" sourceProvider
      (reportedExportBackends sourceProvider)
  else if ¬ (reportedImportBackends targetProvider).contains backend then
    unsupportedBy "storage backend" backend "target" targetProvider
      (reportedImportBackends targetProvider)
  else if backend ≠ backendNFS ∧ mode ≠ transferModeAuto then
    if ¬ (reportedTransferModes sourceProvider).contains mode then
      unsupportedBy "transfer mode" mode "source" sourceProvider
        (reportedTransferModes sourceProvider)
    else if ¬ (reportedTransferModes targetProvider).contains mode then
      unsupportedBy "transfer mode" mode "target" targetProvider
        (reportedTransferModes targetProvider)
    else ""
  else ""

/-- Nothing when the storage configuration is valid, else the error. -/
def Reconciler.validateStorageConfig (storage : MigrationStorage) : Option GoError :=
  if storage.type = backendPVC ∨ storage.type = "" then
    match storage.pvc with
    | none => some (errorf "pvc configuration is required when using pvc storage type")
    | some pvc =>
      if pvc.name ≠ "" then none
      else if pvc.storageClassName = "" then
        some (errorf
          "storageClassName is required when PVC name is not specified (auto-create mode)")
      else if pvc.size = "" then
        some (errorf "size is required when PVC name is not specified (auto-create mode)")
      else if pvc.accessMode ≠ "" ∧
          ¬ ["ReadWriteOnce", "ReadWriteMany", "ReadOnlyMany"].contains pvc.accessMode then
        some (errorf ("invalid access mode: " ++ pvc.accessMode))
      else none
  else if storage.type = backendS3 then
    match storage.s3 with
    | none => some (errorf "s3 configuration is required when using s3 storage type")
    | some s3 =>
      if s3.bucket = "" then some (errorf "s3.bucket is required for s3 storage type")
      else if s3.credentialsSecretRef.name = "" then
        some (errorf "s3.credentialsSecretRef is required for s3 storage type")
      else (r.validateS3Endpoint s3.endpoint).map (·.wrap "s3 endpoint not permitted")
  else if storage.type = backendNFS then
    match storage.nfs with
    | none => some (errorf "nfs configuration is required when using nfs storage type")
    | some nfs =>
      if nfs.server = "" ∨ nfs.export = "" then
        some (errorf "nfs.server and nfs.export are required for nfs storage type")
      else (r.validateHost nfs.server).map (·.wrap "nfs server not permitted")
  else
    some (errorf ("unsupported storage type: " ++ storage.type ++
      " (supported: 'pvc', 's3', 'nfs')"))

def Reconciler.storageOptionsJSON : Except GoError String :=
  if migrationBackendType migration = backendS3 then
    match migration.spec.storage.bind MigrationStorage.s3 with
    | none => .error (errorf "s3 storage configuration is required for s3 backend")
    | some s3 => r.marshalS3Options s3
  else if migrationBackendType migration = backendNFS then
    match migration.spec.storage.bind MigrationStorage.nfs with
    | none =>
      .error (errorf "nfs storage configuration (server, export) is required for nfs backend")
    | some nfs =>
      if nfs.server = "" ∨ nfs.export = "" then
        .error (errorf "nfs storage configuration (server, export) is required for nfs backend")
      else r.marshalNFSOptions nfs
  else .ok ""

/-- The URL of the object a stage of the migration reads or writes. -/
def Reconciler.generateStorageURL (stage : String) : Except GoError String :=
  let ns := migration.objectMeta.ns
  let name := migration.objectMeta.name
  match migration.spec.storage with
  | none => .error (errorf "storage configuration is required for migration")
  | some storage =>
    if storage.type = backendPVC ∨ storage.type = "" then
      if migration.status.storagePVCName = "" then
        .error (errorf "storage PVC name not set in migration status")
      else
        .ok ("pvc://" ++ migration.status.storagePVCName ++ "/vmmigrations/" ++ ns ++ "/" ++
          name ++ "/" ++ stage ++ ".qcow2")
    else if storage.type = backendS3 then
      match storage.s3 with
      | none => .error (errorf "s3 storage configuration (bucket) is required")
      | some s3 =>
        if s3.bucket = "" then .error (errorf "s3 storage configuration (bucket) is required")
        else
          let key := "vmmigrations/" ++ ns ++ "/" ++ name ++ "/" ++ stage ++ ".vmdk"
          let keyPrefix := Go.trimSlashes s3.keyPrefix
          .ok ("s3://" ++ s3.bucket ++ "/" ++
            (if keyPrefix = "" then key else keyPrefix ++ "/" ++ key))
    else if storage.type = backendNFS then
      match storage.nfs with
      | none => .error (errorf "nfs storage configuration (server, export) is required")
      | some nfs =>
        if nfs.server = "" ∨ nfs.export = "" then
          .error (errorf "nfs storage configuration (server, export) is required")
        else r.nfsURL nfs ("vmmigrations-" ++ ns ++ "-" ++ name ++ "-" ++ stage ++ ".qcow2")
    else .error (errorf ("unsupported storage type: " ++ storage.type))

/-- The S3 credentials of the referenced Secret; none for the other backends. -/
def loadS3Credentials : M (Except GoError StringMap) := do
  if migrationBackendType migration ≠ backendS3 then
    return .ok []
  match migration.spec.storage.bind MigrationStorage.s3 with
  | none => return .error (errorf "s3 backend requires storage.s3.credentialsSecretRef")
  | some s3 =>
    if s3.credentialsSecretRef.name = "" then
      return .error (errorf "s3 backend requires storage.s3.credentialsSecretRef")
    let key : ObjectKey := ⟨migration.objectMeta.ns, s3.credentialsSecretRef.name⟩
    let secretName := key.ns ++ "/" ++ key.name
    match ← ask (.getSecret key) with
    | .error err => return .error (err.wrap ("get s3 credentials secret " ++ secretName))
    | .ok secret =>
      let accessKey := StringMap.get secret.data "accessKeyID"
      let secretKey := StringMap.get secret.data "secretAccessKey"
      let token := StringMap.get secret.data "sessionToken"
      if accessKey = "" ∨ secretKey = "" then
        return .error (errorf ("s3 credentials secret " ++ secretName ++ " must contain keys " ++
          Go.quoted "accessKeyID" ++ " and " ++ Go.quoted "secretAccessKey"))
      let creds := [("accessKeyID", accessKey), ("secretAccessKey", secretKey)]
      return .ok (if token = "" then creds else creds ++ [("sessionToken", token)])

/-- `getProvider`: the Provider a reference denotes in the migration's namespace. -/
def getProvider (providerRef : ObjectRef) (defaultNamespace : String) :
    M (Except GoError Provider) :=
  ask (.getProvider (providerRef.key defaultNamespace))

/-- The key of the source VirtualMachine. -/
def sourceKey : ObjectKey :=
  ⟨migration.objectMeta.ns, migration.spec.source.vmRef.name⟩

def getSourceVM : M (Except GoError VirtualMachine) :=
  ask (.getVirtualMachine (sourceKey migration))

/-- The explicit source provider, or the one of the source VirtualMachine. -/
def sourceProviderRef (sourceVM : VirtualMachine) : ObjectRef :=
  migration.spec.source.providerRef.getD sourceVM.spec.providerRef

def getSourceProvider : M (Except GoError Provider) := do
  match migration.spec.source.providerRef with
  | some ref => getProvider ref migration.objectMeta.ns
  | none =>
    match ← getSourceVM migration with
    | .error err => return .error (err.wrap "failed to get source VM")
    | .ok sourceVM => getProvider sourceVM.spec.providerRef migration.objectMeta.ns

def getTargetProvider : M (Except GoError Provider) :=
  getProvider migration.spec.target.providerRef migration.objectMeta.ns

/-- The Provider as `triggerProviderReconciliation` annotates it. -/
def triggerAnnotations (timestamp pvcName : String) : Provider :=
  let annotations := StringMap.set provider.objectMeta.annotations
    "virtrigaud.io/reconcile-trigger" timestamp
  { provider with objectMeta := { provider.objectMeta with
      annotations := StringMap.set annotations "virtrigaud.io/migration-pvc" pvcName } }

/-- Annotate both providers. Its error is only logged, so none is returned. -/
def triggerProviderReconciliation : M Unit := do
  let timestamp := toString ((← ask .now) / second)
  match ← getSourceProvider migration with
  | .error _ => return
  | .ok source =>
  match ← ask (.updateProvider
      (triggerAnnotations source timestamp migration.status.storagePVCName)) with
  | some _ => return
  | none =>
  match ← getTargetProvider migration with
  | .error _ => return
  | .ok target =>
  let _ ← ask (.updateProvider
    (triggerAnnotations target timestamp migration.status.storagePVCName))

/-- The claim `ensureMigrationPVC` creates, controlled by the migration. -/
def migrationPVC (pvcConfig : PVCStorageConfig) : PersistentVolumeClaim where
  objectMeta := {
    name := migration.objectMeta.name ++ "-storage"
    ns := migration.objectMeta.ns
    labels := [("app.kubernetes.io/managed-by", "virtrigaud"),
      ("virtrigaud.io/migration", migration.objectMeta.name),
      ("virtrigaud.io/component", "migration-storage")]
    annotations := [("virtrigaud.io/created-by", "vmmigration-controller")] }
  controller := migration.objectMeta.uid
  storageClassName := pvcConfig.storageClassName
  accessMode := if pvcConfig.accessMode = "" then "ReadWriteMany" else pvcConfig.accessMode
  size := pvcConfig.size

/-- The name of the migration's claim, which exists when no error is returned. -/
def Reconciler.ensureMigrationPVC : M (Except GoError String) := do
  match migration.spec.storage.bind MigrationStorage.pvc with
  | none => return .error (errorf "storage PVC configuration is missing")
  | some pvcConfig =>
  if pvcConfig.name ≠ "" then
    match ← ask (.getPVC ⟨migration.objectMeta.ns, pvcConfig.name⟩) with
    | .ok _ => return .ok pvcConfig.name
    | .error err =>
      if err.reason = .notFound then
        return .error (errorf ("specified PVC " ++ pvcConfig.name ++ " not found in namespace " ++
          migration.objectMeta.ns))
      return .error (err.wrap ("failed to get PVC " ++ pvcConfig.name))
  else
    let pvc := migrationPVC migration pvcConfig
    match ← ask (.getPVC pvc.objectMeta.key) with
    | .ok _ => return .ok pvc.objectMeta.name
    | .error err =>
    if err.reason ≠ .notFound then
      return .error (err.wrap "failed to check for existing PVC")
    match r.parseQuantity pvcConfig.size with
    | some err => return .error (err.wrap ("invalid PVC size " ++ pvcConfig.size))
    | none =>
    match ← ask (.createPVC pvc) with
    | some err => return .error (err.wrap "failed to create PVC")
    | none =>
    triggerProviderReconciliation migration
    return .ok pvc.objectMeta.name

/-- The first condition of the type decides. -/
def podConditionTrue (pod : Pod) (condType : String) : Bool :=
  (pod.conditions.lookup condType).getD false

/-- Whether the provider runs a Ready pod that mounts the claim, else what it waits for. -/
def providerMountReady (pvcName : String) : M (Except GoError (Bool × String)) := do
  let deploymentName := "virtrigaud-provider-" ++ provider.objectMeta.ns ++ "-" ++
    provider.objectMeta.name
  match ← ask (.getDeployment ⟨provider.objectMeta.ns, deploymentName⟩) with
  | .error err =>
    if err.reason = .notFound then
      return .ok (false, "provider deployment " ++ deploymentName ++ " not found yet")
    return .error (err.wrap ("get provider deployment " ++ deploymentName))
  | .ok deployment =>
  if ¬ deployment.claims.contains pvcName then
    return .ok (false, "deployment not yet updated with the migration PVC volume")
  let replicas := deployment.replicas.getD 1
  if deployment.updatedReplicas < replicas ∨ deployment.readyReplicas < replicas then
    return .ok (false, "provider rollout in progress (updated " ++
      toString deployment.updatedReplicas ++ "/" ++ toString replicas ++ ", ready " ++
      toString deployment.readyReplicas ++ "/" ++ toString replicas ++ ")")
  match ← ask (.listPods provider.objectMeta.ns provider.objectMeta.name) with
  | .error err => return .error (err.wrap ("list provider " ++ provider.objectMeta.name ++ " pods"))
  | .ok pods =>
  if pods.any fun pod => !pod.terminating && pod.claims.contains pvcName && pod.running &&
      podConditionTrue pod "Ready" then
    return .ok (true, "")
  return .ok (false, "no Ready pod with the migration PVC mounted yet")

/-- Whether both providers mount the claim, else which one is waited for. -/
def migrationProvidersMounted (source target : Provider) (pvcName : String) :
    M (Except GoError (Bool × String)) := do
  match ← providerMountReady source pvcName with
  | .error err => return .error (err.wrap ("source provider " ++ source.objectMeta.name))
  | .ok (false, reason) => return .ok (false, "source: " ++ reason)
  | .ok (true, _) =>
  match ← providerMountReady target pvcName with
  | .error err => return .error (err.wrap ("target provider " ++ target.objectMeta.name))
  | .ok (false, reason) => return .ok (false, "target: " ++ reason)
  | .ok (true, _) => return .ok (true, "")

def migrationMountTimeout : Duration := 5 * minute

/-- Whether the claim is older than the mount deadline. -/
def migrationMountDeadlineExceeded (pvcName : String) : M (Except GoError Bool) := do
  match ← ask (.getPVC ⟨migration.objectMeta.ns, pvcName⟩) with
  | .error err => return .error (err.wrap ("get migration PVC " ++ pvcName))
  | .ok pvc =>
  let now ← ask .now
  return .ok (decide (now - pvc.objectMeta.creationTimestamp > migrationMountTimeout))

/-- The staging store `cleanupIntermediateStorage` opens: always a pvc store. -/
def cleanupStorageConfig (storage : MigrationStorage) : StorageConfig :=
  let claim := (storage.pvc.map PVCStorageConfig.name).getD ""
  let pvcName := if migration.status.storagePVCName = "" then claim
    else migration.status.storagePVCName
  let mountPath := (storage.pvc.map PVCStorageConfig.mountPath).getD ""
  { pvcName := pvcName
    pvcNamespace := migration.objectMeta.ns
    mountPath := (if mountPath = "" then "/mnt/migration-storage" else mountPath) ++ "/" ++
      pvcName }

/-- Remove the staged file. Only a store that cannot be opened is an error. -/
def Reconciler.cleanupIntermediateStorage : M (Option GoError) := do
  match migration.spec.storage with
  | none => return none
  | some storage =>
  let config := cleanupStorageConfig migration storage
  match ← ask (.newStorage config) with
  | some err => return some (err.wrap "failed to create storage client")
  | none =>
  match r.generateStorageURL migration "export" with
  | .error _ => return none
  | .ok exportURL =>
  let _ ← ask (.storageDelete config exportURL)
  return none

end Virtrigaud.Migration
