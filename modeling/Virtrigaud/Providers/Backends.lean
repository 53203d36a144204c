import Virtrigaud.Api.Contracts
import Virtrigaud.Go.Strings

/-!
# Staging backends

The names of the backends and of the transfer modes, and what every provider does with
them in a disk transfer. The empty backend is that of a PVC.
-/

namespace Virtrigaud

def backendPVC : String := "pvc"

def backendNFS : String := "nfs"

def backendS3 : String := "s3"

def transferModeAuto : String := "auto"

def transferModeRelay : String := "relay"

def transferModeDirect : String := "direct"

/-- `EnsurePVCS3OrNFSBackend`. -/
def ensurePVCS3OrNFSBackend (backendType : String) : Option GrpcError :=
  if backendType = "" ∨ backendType = backendPVC ∨ backendType = backendS3 ∨
      backendType = backendNFS then none
  else some ⟨.unimplemented, "backend " ++ Go.quoted backendType ++
    " not yet supported on this provider/direction (ADR-0006)"⟩

/-- `EnsureRelayMode`. -/
def ensureRelayMode (transferMode : String) : Option GrpcError :=
  if transferMode = "" ∨ transferMode = transferModeAuto ∨ transferMode = transferModeRelay then
    none
  else some ⟨.invalidArgument, "transfer mode " ++ Go.quoted transferMode ++
    " not supported; only " ++ Go.quoted transferModeRelay ++
    " is implemented (ADR-0006 Slice 1)"⟩

/-- The check that a transfer starts with: only NFS needs no relay. -/
def checkTransfer (backendType transferMode : String) : Option GrpcError :=
  match ensurePVCS3OrNFSBackend backendType with
  | some err => some err
  | none => if backendType ≠ backendNFS then ensureRelayMode transferMode else none

/-- `extractPVCNameFromURL`. -/
def extractPVCNameFromURL (url : String) : Except GoError String :=
  let path := if "pvc://".toList.isPrefixOf url.toList then url.toList.drop 6 else url.toList
  let name := path.takeWhile (· ≠ '/')
  if name = [] then
    .error (errorf ("invalid PVC URL format: expected pvc://<pvc-name>/<file-path>, got: " ++
      String.ofList path))
  else .ok (String.ofList name)

/-- What the storage client reports of an upload. -/
structure UploadResponse where
  checksum : String
  bytesTransferred : Int
  deriving DecidableEq, Repr

end Virtrigaud
