import Virtrigaud.Effects.Program
import Virtrigaud.Api.Contracts
import Virtrigaud.Api.Migration

/-!
# What the migration controller calls

`Call` lists every point where `VMMigrationReconciler` leaves its own code: reads
and writes of cluster objects, provider RPCs, the in-memory `longOpInFlight` map,
the clock and the staging store. A provider client is named by the key of its
Provider object.
-/

namespace Virtrigaud.Migration

open Effects

/-- `storage.StorageConfig` as the controller fills it in. -/
structure StorageConfig where
  (pvcName pvcNamespace mountPath : String)
  deriving DecidableEq, Repr

inductive Call
  | getMigration (key : ObjectKey)
  | updateMigration (migration : VMMigration)
  | statusUpdate (migration : VMMigration)
  | getVirtualMachine (key : ObjectKey)
  | createVirtualMachine (vm : VirtualMachine)
  | updateVirtualMachine (vm : VirtualMachine)
  | patchPowerOff (vm : VirtualMachine)
  | deleteVirtualMachine (vm : VirtualMachine)
  | getProvider (key : ObjectKey)
  | updateProvider (provider : Provider)
  | getSecret (key : ObjectKey)
  | getPVC (key : ObjectKey)
  | createPVC (pvc : PersistentVolumeClaim)
  | deletePVC (pvc : PersistentVolumeClaim)
  | getDeployment (key : ObjectKey)
  | listPods (ns app : String)
  | getProviderInstance (provider : ObjectKey)
  | describe (provider : ObjectKey) (id : String)
  | power (provider : ObjectKey) (id : String) (op : PowerOp)
  | snapshotCreate (provider : ObjectKey) (req : SnapshotCreateRequest)
  | snapshotDelete (provider : ObjectKey) (vmId snapshotId : String)
  | exportDisk (provider : ObjectKey) (req : ExportDiskRequest)
  | importDisk (provider : ObjectKey) (req : ImportDiskRequest)
  | isTaskComplete (provider : ObjectKey) (taskRef : String)
  | taskStatus (provider : ObjectKey) (taskRef : String)
  | getCapabilities (provider : ObjectKey)
  | longOpLoad (key : String)
  | longOpLoadOrStore (key : String)
  | longOpDelete (key : String)
  | newStorage (config : StorageConfig)
  | storageDelete (config : StorageConfig) (url : String)
  | pollDeadline
  | now
  deriving DecidableEq

/-- The answer to each call. A successful status write answers with the stored
metadata and spec: the stored status is the one that was sent. `getCapabilities`
answers `none` when the client does not report capabilities, and the map calls
answer whether the key was present. -/
@[reducible] def Answer : Call → Type
  | .getMigration _ => Except GoError VMMigration
  | .updateMigration _ => Option GoError
  | .statusUpdate _ => Except GoError (ObjectMeta × VMMigrationSpec)
  | .getVirtualMachine _ => Except GoError VirtualMachine
  | .createVirtualMachine _ => Option GoError
  | .updateVirtualMachine _ => Option GoError
  | .patchPowerOff _ => Except GoError VirtualMachine
  | .deleteVirtualMachine _ => Option GoError
  | .getProvider _ => Except GoError Provider
  | .updateProvider _ => Option GoError
  | .getSecret _ => Except GoError Secret
  | .getPVC _ => Except GoError PersistentVolumeClaim
  | .createPVC _ => Option GoError
  | .deletePVC _ => Option GoError
  | .getDeployment _ => Except GoError Deployment
  | .listPods _ _ => Except GoError (List Pod)
  | .getProviderInstance _ => Option GoError
  | .describe _ _ => Except GoError DescribeResponse
  | .power _ _ _ => Except GoError String
  | .snapshotCreate _ _ => Except GoError SnapshotCreateResponse
  | .snapshotDelete _ _ _ => Except GoError String
  | .exportDisk _ _ => Except GoError ExportDiskResponse
  | .importDisk _ _ => Except GoError ImportDiskResponse
  | .isTaskComplete _ _ => Except GoError Bool
  | .taskStatus _ _ => Except GoError TaskStatus
  | .getCapabilities _ => Option (Except GoError Capabilities)
  | .longOpLoad _ => Bool
  | .longOpLoadOrStore _ => Bool
  | .longOpDelete _ => Unit
  | .newStorage _ => Option GoError
  | .storageDelete _ _ => Option GoError
  | .pollDeadline => Bool
  | .now => Time

/-- A computation of the migration controller. -/
abbrev M := Program Call Answer

/-- Make one call. -/
def ask (c : Call) : M (Answer c) := .perform c

/-- A call of the migration controller with its answer. -/
abbrev LogEntry := Event Call Answer

/-- The reconciler's configuration, and the parts of other packages it calls. -/
structure Reconciler where
  enforceCapabilities : Bool := false
  /-- `StorageHostPolicy.ValidateS3Endpoint`. -/
  validateS3Endpoint : String → Option GoError
  /-- `StorageHostPolicy.ValidateHost`. -/
  validateHost : String → Option GoError
  /-- `storagemigration.MarshalStorageOptions` of the s3 options. -/
  marshalS3Options : S3StorageConfig → Except GoError String
  /-- `storagemigration.MarshalStorageOptions` of the nfs options. -/
  marshalNFSOptions : NFSStorageConfig → Except GoError String
  /-- `storagemigration.NFSURL`. -/
  nfsURL : NFSStorageConfig → String → Except GoError String
  /-- `resource.ParseQuantity` rejects a size. -/
  parseQuantity : String → Option GoError

end Virtrigaud.Migration
