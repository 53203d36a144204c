import Virtrigaud.Api.Objects

/-!
# Provider contract

Requests and responses of `contracts.Provider` that cross from the controllers to
a provider. A call that fails returns a `GoError`; `(done, err)` pairs whose
callers look at `err` first are `Except` values.
-/

namespace Virtrigaud

structure TaskStatus where
  isCompleted : Bool := true
  (error message : String := "")
  deriving DecidableEq, Repr

structure SnapshotCreateRequest where
  (vmId nameHint description : String)
  (includeMemory quiesce : Bool)
  deriving DecidableEq, Repr

/-- `task` is the id of the returned task, empty when there is none. -/
structure SnapshotCreateResponse where
  snapshotId : String
  task : String := ""
  deriving DecidableEq, Repr

structure ExportDiskRequest where
  vmId : String
  (diskId snapshotId destinationURL format : String := "")
  compress : Bool := false
  credentials : StringMap := []
  (backendType transferMode storageOptionsJSON : String := "")
  deriving DecidableEq, Repr

structure ExportDiskResponse where
  exportId : String
  taskRef : String := ""
  estimatedSizeBytes : Int := 0
  checksum : String := ""
  deriving DecidableEq, Repr

structure ImportDiskRequest where
  sourceURL : String
  (storageHint format targetName : String := "")
  verifyChecksum : Bool := true
  expectedChecksum : String := ""
  credentials : StringMap := []
  (backendType transferMode storageOptionsJSON : String := "")
  deriving DecidableEq, Repr

structure ImportDiskResponse where
  diskId : String
  (path taskRef : String := "")
  actualSizeBytes : Int := 0
  checksum : String := ""
  deriving DecidableEq, Repr

structure DescribeResponse where
  doesExist : Bool := true
  powerState : ReportedPower := .unknown
  ips : List String := []
  consoleURL : String := ""
  providerRaw : StringMap := []
  deriving DecidableEq, Repr

inductive PowerOp
  | on
  | off
  | reboot
  | shutdownGraceful
  deriving DecidableEq, Repr

structure Capabilities where
  (supportsDiskExport supportsDiskImport : Bool := false)
  deriving DecidableEq, Repr

namespace Contracts

structure DiskDefaults where
  type : String := ""
  sizeGiB : Int := 0
  deriving DecidableEq, Repr

structure SecurityProfile where
  (secureBoot tpmEnabled : Bool := false)
  tpmVersion : String := ""
  (vtdEnabled encryptionEnabled : Bool := false)
  keyProvider : String := ""
  requireEncryption : Bool := false
  deriving DecidableEq, Repr

structure ResourceLimits where
  (cpuLimit cpuReservation memoryLimitMiB memoryReservationMiB cpuShares : Option Int := none)
  deriving DecidableEq, Repr

structure VMClass where
  (cpu memoryMiB : Int := 0)
  firmware : String := ""
  diskDefaults : Option DiskDefaults := none
  guestToolsPolicy : String := ""
  extraConfig : StringMap := []
  performanceProfile : Option PerformanceProfile := none
  securityProfile : Option SecurityProfile := none
  resourceLimits : Option ResourceLimits := none
  deriving DecidableEq, Repr

structure VMImage where
  (templateName path url format checksum checksumType : String := "")
  deriving DecidableEq, Repr

structure NetworkAttachment where
  (name networkName bridge : String := "")
  vlan : Int := 0
  (model staticIP : String := "")
  ipPrefix : Int := 0
  (gateway dns : String := "")
  pciSlotNumber : Option Int := none
  deriving DecidableEq, Repr

structure Placement where
  (datastore storagePod cluster folder : String := "")
  deriving DecidableEq, Repr

end Contracts

/-- `userData` and `metaData` are the cloud-init texts of the two fields. -/
structure CreateRequest where
  name : String
  vmClass : Contracts.VMClass := {}
  image : Contracts.VMImage := {}
  networks : List Contracts.NetworkAttachment := []
  disks : List DiskSpec := []
  (userData metaData : Option String := none)
  placement : Option Contracts.Placement := none
  tags : List String := []
  deriving DecidableEq, Repr

structure CreateResponse where
  id : String
  taskRef : String := ""
  deriving DecidableEq, Repr

/-- The codes of a failed RPC. -/
inductive GrpcCode
  | notFound
  | invalidArgument
  | unavailable
  | deadlineExceeded
  | alreadyExists
  | permissionDenied
  | resourceExhausted
  | unimplemented
  | internal
  | unknown
  | canceled
  | failedPrecondition
  | aborted
  | outOfRange
  | dataLoss
  | unauthenticated
  deriving DecidableEq, Repr

/-- How a status code prints. -/
def GrpcCode.text : GrpcCode → String
  | .notFound => "NotFound"
  | .invalidArgument => "InvalidArgument"
  | .unavailable => "Unavailable"
  | .deadlineExceeded => "DeadlineExceeded"
  | .alreadyExists => "AlreadyExists"
  | .permissionDenied => "PermissionDenied"
  | .resourceExhausted => "ResourceExhausted"
  | .unimplemented => "Unimplemented"
  | .internal => "Internal"
  | .unknown => "Unknown"
  | .canceled => "Canceled"
  | .failedPrecondition => "FailedPrecondition"
  | .aborted => "Aborted"
  | .outOfRange => "OutOfRange"
  | .dataLoss => "DataLoss"
  | .unauthenticated => "Unauthenticated"

/-- The status an RPC ends with. -/
structure GrpcError where
  code : GrpcCode
  message : String
  deriving DecidableEq, Repr

/-- A plain error of a server is sent with the code Unknown. -/
def GrpcError.plain (text : String) : GrpcError := ⟨.unknown, text⟩

/-- `errors.NewInternal`. -/
def GrpcError.internal (message : String) (cause : GoError) : GrpcError :=
  ⟨.internal, message ++ ": " ++ cause.text⟩

/-- `errors.NewInvalidSpec`. -/
def GrpcError.invalidSpec (message : String) : GrpcError := ⟨.invalidArgument, message⟩

/-- The text of the status as an error. -/
def GrpcError.text (err : GrpcError) : String :=
  "rpc error: code = " ++ err.code.text ++ " desc = " ++ err.message

/-- The text of `contracts.NewRetryableError`. -/
def retryable (message : String) (cause : GoError) : String :=
  "Retryable: " ++ message ++ " (caused by: " ++ cause.text ++ ")"

/-- `mapGRPCError`. The reason is what `contracts.IsNotFound` looks at. -/
def mapGRPCError (operation : String) (err : GrpcError) : GoError :=
  let caused := operation ++ ": " ++ err.message ++ " (caused by: " ++ err.text ++ ")"
  match err.code with
  | .notFound => ⟨.notFound, "NotFound: " ++ caused⟩
  | .invalidArgument => ⟨.other, "InvalidSpec: " ++ caused⟩
  | .unavailable | .deadlineExceeded => ⟨.other, "Retryable: " ++ caused⟩
  | _ => ⟨.other, operation ++ " failed: " ++ err.message⟩

end Virtrigaud
