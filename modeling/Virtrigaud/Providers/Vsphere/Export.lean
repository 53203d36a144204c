import Virtrigaud.Go.Ints
import Virtrigaud.Providers.Backends
import Virtrigaud.Providers.Vsphere.Datastore
import Virtrigaud.Providers.Vsphere.Lifecycle

/-!
# ExportDisk of the vSphere provider

The disk is copied on its datastore, the copy is downloaded to the pod with its extent
files, made one file, and uploaded. The provider is written over the operations of
vCenter, of the pod's file system, of qemu-img and of the storage client.
-/

namespace Virtrigaud.Vsphere.Export

/-- The backing of a virtual disk: its file, and that of its parent if it is a delta. -/
inductive DiskBacking
  | flatVer2 (fileName : List Char) (parent : Option (List Char))
  | sparseVer2 (fileName : List Char) (parent : Option (List Char))
  | other
  deriving DecidableEq, Repr

inductive DiskFormat
  | vmdk
  | qcow2
  | raw
  deriving DecidableEq, Repr

def DiskFormat.name : DiskFormat → String
  | .vmdk => "vmdk"
  | .qcow2 => "qcow2"
  | .raw => "raw"

/-- The operations. `s3Config` and `newStorage` make the storage client; `copyVirtualDisk`
waits for its task; `download` finds the datastore and copies the whole file. -/
inductive Call
  | getDisks (vmId : String)
  | now
  | s3Config (optionsJSON : String) (credentials : StringMap)
  | newStorage
  | makeDirectory (path : List Char)
  | removeDirectory (path : List Char)
  | copyVirtualDisk (source dest : List Char)
  | deleteDatastoreFile (path : List Char)
  | createFile (path : List Char)
  | download (datastore file path : List Char)
  | readFile (path : List Char)
  | qemuImgInstalled
  | convert (source dest : List Char) (format : DiskFormat)
  | openFile (path : List Char)
  | statFile (path : List Char)
  | upload (path : List Char) (url : String)
  deriving DecidableEq

@[reducible] def Answer : Call → Type
  | .getDisks _ => Except VimError (List DiskBacking)
  | .now => Int
  | .s3Config _ _ => Option GoError
  | .newStorage => Option GoError
  | .makeDirectory _ => Option GoError
  | .removeDirectory _ => Option GoError
  | .copyVirtualDisk _ _ => Option GoError
  | .deleteDatastoreFile _ => Option GoError
  | .createFile _ => Option GoError
  | .download _ _ _ => Option GoError
  | .readFile _ => Except GoError (List Char)
  | .qemuImgInstalled => Bool
  | .convert _ _ _ => Option GoError
  | .openFile _ => Option GoError
  | .statFile _ => Option GoError
  | .upload _ _ => Except GoError UploadResponse

/-- `fmt.Sscanf(diskId, "disk-%d", &idx)`: what follows the number is not looked at, and
text that is no such name means the first disk. -/
def diskIndex (diskId : List Char) : Int :=
  if "disk-".toList.isPrefixOf diskId then
    let rest := (diskId.drop 5).dropWhile fun c => Go.isSpace c && c ≠ '\n'
    let negative := rest.head? = some '-'
    let digits := (if negative ∨ rest.head? = some '+' then rest.tail else rest).takeWhile
      Char.isDigit
    match Go.atoi (String.ofList ((if negative then ['-'] else []) ++ digits)) with
    | some idx => idx
    | none => 0
  else 0

/-- The disk that GetDiskInfo picks. -/
def pickDisk {β : Type} (diskId : String) (disks : List β) : Option β :=
  let index := diskIndex diskId.toList
  if 0 ≤ index then disks[index.toNat]? else none

/-- Path and backing file of GetDiskInfo. The parent is looked at only for one type of
backing. -/
def diskPaths : DiskBacking → List Char × List Char
  | .flatVer2 fileName parent => (fileName, parent.getD [])
  | .sparseVer2 fileName _ => (fileName, [])
  | .other => ([], [])

/-- The file that ExportDisk copies. -/
def sourceDisk (disk : DiskBacking) : List Char :=
  if (diskPaths disk).2 ≠ [] then (diskPaths disk).2 else (diskPaths disk).1

/-- The requested format; other backends than PVC stage VMDK files here. -/
def exportFormat (req : ExportDiskRequest) : Except GrpcError DiskFormat :=
  let native := decide (req.backendType = backendS3 ∨ req.backendType = backendNFS)
  if req.format = "" ∨ req.format = "vmdk" then .ok .vmdk
  else if req.format = "qcow2" then .ok (if native then .vmdk else .qcow2)
  else if req.format = "raw" then .ok (if native then .vmdk else .raw)
  else .error (.invalidSpec ("unsupported export format: " ++ req.format))

def exportID (vmId : String) (time : Int) : String :=
  "export-vsphere-" ++ vmId ++ "-" ++ Go.formatInt time

def tempDirectory (exportID : String) : List Char := "/tmp/".toList ++ exportID.toList

def tempDiskName (vmId : String) (time : Int) : List Char :=
  "virtrigaud-export-".toList ++
    (vmId.toList ++ '-' :: (Go.formatInt time).toList ++ ".vmdk".toList)

/-- A file in the temporary directory. -/
def inDirectory (directory name : List Char) : List Char := directory ++ '/' :: name

section

variable {m : Type → Type} [Monad m] (vcenter : (c : Call) → m (Answer c))

variable (req : ExportDiskRequest)

/-- The part of GetDiskInfo that ExportDisk uses. -/
def getDiskInfo : m (Except GrpcError DiskBacking) := do
  match ← vcenter (.getDisks req.vmId) with
  | .error _ => return .error ⟨.notFound, "VM " ++ Go.quoted req.vmId ++ " not found"⟩
  | .ok disks =>
  match pickDisk req.diskId disks with
  | none =>
    return .error ⟨.notFound, "disk not found in VM %s " ++ Go.quoted req.vmId ++ " not found"⟩
  | some disk => return .ok disk

/-- The storage client of the backend. NFS has none; only its URL is checked. -/
def prepareStorage : m (Option GrpcError) := do
  if req.backendType = backendNFS then
    if "nfs://".toList.isPrefixOf (Go.trimSpace req.destinationURL.toList) then return none
    else
      return some (.invalidSpec ("nfs export destination must be an nfs:// URL, got " ++
        Go.quoted req.destinationURL))
  else
  let config ←
    if req.backendType = backendS3 then do
      let err ← vcenter (.s3Config req.storageOptionsJSON req.credentials)
      pure (err.map fun err =>
        GrpcError.invalidSpec ("invalid s3 export configuration: " ++ err.text))
    else
      match extractPVCNameFromURL req.destinationURL with
      | .error err => pure (some (.internal "failed to extract PVC name from URL" err))
      | .ok _ => pure none
  match config with
  | some err => return some err
  | none =>
    let err ← vcenter .newStorage
    return err.map (GrpcError.internal "failed to create storage client")

/-- `DownloadFile`. -/
def downloadFile (path dest : List Char) : m (Option GoError) := do
  match parseDatastorePath path with
  | .error err => return some (err.wrap "invalid datastore path")
  | .ok (datastore, file) => vcenter (.download datastore file dest)

/-- The loop over the extent files. A download that fails is only logged. -/
def downloadExtents (tempDir basePath : List Char) : List (List Char) → m (Option GrpcError)
  | [] => return none
  | extent :: rest => do
    match ← vcenter (.createFile (inDirectory tempDir extent)) with
    | some err => return some (.internal "failed to create extent file" err)
    | none =>
      let _ ← downloadFile vcenter (constructDatastorePath basePath extent)
        (inDirectory tempDir extent)
      downloadExtents tempDir basePath rest

/-- The extent files of the downloaded VMDK; one that cannot be read has none. -/
def readExtents (tempFile : List Char) : m (List (List Char)) := do
  match ← vcenter (.readFile tempFile) with
  | .error _ => return []
  | .ok text =>
    match parseVMDKDescriptor text with
    | .error _ => return []
    | .ok extents => return extents

/-- `flattenVMDK`. -/
def flattenVMDK (descriptor flattened : List Char) : m (Option GoError) := do
  if ← vcenter .qemuImgInstalled then
    let err ← vcenter (.convert descriptor flattened .vmdk)
    return err.map (·.wrap ("flatten multi-file VMDK " ++ Go.quoted (String.ofList descriptor)))
  else
    return some (errorf ("qemu-img is not available in the provider image; cannot flatten " ++
      "multi-file VMDK " ++ Go.quoted (String.ofList descriptor)))

/-- The one file that is uploaded. -/
def makeUploadFile (tempDir tempFile : List Char) (format : DiskFormat)
    (extents : List (List Char)) : m (Except GrpcError (List Char)) := do
  if format ≠ .vmdk then
    let converted := inDirectory tempDir ("converted.".toList ++ format.name.toList)
    match ← vcenter (.convert tempFile converted format) with
    | some err => return .error (.internal "failed to convert VMDK format" err)
    | none => return .ok converted
  else if extents ≠ [] then
    let flattened := inDirectory tempDir "flattened.vmdk".toList
    match ← flattenVMDK vcenter tempFile flattened with
    | some err => return .error (.internal "failed to flatten multi-file VMDK" err)
    | none => return .ok flattened
  else return .ok tempFile

/-- `exportLocalVMDKToNFS`. -/
def exportLocalVMDKToNFS (localVMDK : List Char) (nfsURL : List Char) : m (Option GoError) := do
  if ← vcenter .qemuImgInstalled then
    let err ← vcenter (.convert localVMDK nfsURL .qcow2)
    return err.map (·.wrap "qemu-img convert vmdk -> nfs qcow2")
  else
    return some (errorf "qemu-img is not available in the provider image; cannot write nfs export")

/-- The upload to the backend. -/
def deliver (exportID : String) (uploadPath : List Char) :
    m (Except GrpcError ExportDiskResponse) := do
  if req.backendType = backendNFS then
    match ← exportLocalVMDKToNFS vcenter uploadPath (Go.trimSpace req.destinationURL.toList) with
    | some err => return .error (.internal "failed to write disk to nfs export" err)
    | none => return .ok { exportId := exportID }
  else
  match ← vcenter (.openFile uploadPath) with
  | some err => return .error (.internal "failed to open file for upload" err)
  | none =>
  match ← vcenter (.statFile uploadPath) with
  | some err => return .error (.internal "failed to stat file" err)
  | none =>
  match ← vcenter (.upload uploadPath req.destinationURL) with
  | .error err => return .error (.internal "failed to upload disk" err)
  | .ok uploaded =>
    return .ok {
      exportId := exportID
      estimatedSizeBytes := uploaded.bytesTransferred
      checksum := uploaded.checksum }

/-- Everything after the copy on the datastore. -/
def stage (format : DiskFormat) (exportID : String) (tempDir destPath : List Char) :
    m (Except GrpcError ExportDiskResponse) := do
  let tempFile := inDirectory tempDir "disk.vmdk".toList
  match ← vcenter (.createFile tempFile) with
  | some err => return .error (.internal "failed to create temp file" err)
  | none =>
  match ← downloadFile vcenter destPath tempFile with
  | some err => return .error (.internal "failed to download streamOptimized VMDK" err)
  | none =>
  let extents ← readExtents vcenter tempFile
  match ← downloadExtents vcenter tempDir (extractDatastoreBasePath destPath) extents with
  | some err => return .error err
  | none =>
  match ← makeUploadFile vcenter tempDir tempFile format extents with
  | .error err => return .error err
  | .ok uploadPath => deliver vcenter req exportID uploadPath

/-- Where the copy is made, next to the source. -/
def copyPath (vmId : String) (time : Int) (datastore file : List Char) : List Char :=
  datastorePath datastore (Go.Path.join [Go.Path.dir file, tempDiskName vmId time])

/-- The copy on the datastore, and its removal in the end. -/
def copyAndStage (format : DiskFormat) (exportID : String) (tempDir source : List Char) :
    m (Except GrpcError ExportDiskResponse) := do
  match parseDatastorePath source with
  | .error err => return .error (.internal "failed to parse source datastore path" err)
  | .ok (datastore, file) =>
  let time ← vcenter .now
  let dest := copyPath req.vmId time datastore file
  match ← vcenter (.copyVirtualDisk source dest) with
  | some err => return .error (.internal "failed to clone disk to streamOptimized format" err)
  | none =>
    let result ← stage vcenter req format exportID tempDir dest
    let _ ← vcenter (.deleteDatastoreFile dest)
    return result

def exportDisk : m (Except GrpcError ExportDiskResponse) := do
  match checkTransfer req.backendType req.transferMode with
  | some err => return .error err
  | none =>
  match ← getDiskInfo vcenter req with
  | .error err => return .error (.internal "failed to get disk info" ⟨.other, err.message⟩)
  | .ok disk =>
  match exportFormat req with
  | .error err => return .error err
  | .ok format =>
  let time ← vcenter .now
  match ← prepareStorage vcenter req with
  | some err => return .error err
  | none =>
  let tempDir := tempDirectory (exportID req.vmId time)
  match ← vcenter (.makeDirectory tempDir) with
  | some err => return .error (.internal "failed to create temp directory" err)
  | none =>
    let result ← copyAndStage vcenter req format (exportID req.vmId time) tempDir (sourceDisk disk)
    let _ ← vcenter (.removeDirectory tempDir)
    return result

end

end Virtrigaud.Vsphere.Export
