import Virtrigaud.Providers.Backends
import Virtrigaud.Providers.Libvirt.DomainXML
import Virtrigaud.Providers.Libvirt.Volumes

/-!
# SnapshotCreate and ExportDisk of the libvirt provider

A PVC is written by the pod: it uploads the file of the disk, converted first if another
format or compression is asked for. For S3 and NFS the host makes one image of the disk and
of everything under it; NFS gets it directly, S3 through the pod. The snapshot that is
asked for is not looked at.
-/

namespace Virtrigaud.Libvirt

/-- `buildSnapshotCreateArgs`, with whether memory is part of the snapshot. -/
def buildSnapshotCreateArgs (vmID name description : String) (includeMemory running : Bool) :
    List String × Bool :=
  let args := ["snapshot-create-as", vmID, name, "--description", description, "--atomic"]
  if includeMemory && running then (args, true) else (args ++ ["--disk-only"], false)

namespace Export

/-- What `qemu-img info` reports. -/
structure ImageInfo where
  (virtualSize actualSize : Int := 0)
  format : String := ""
  deriving DecidableEq, Repr

/-- The result of `GetVolumeInfo`, which never fills in the format. -/
structure StorageVolume where
  format : String := ""
  deriving DecidableEq, Repr

/-- The part of GetDiskInfo's response that ExportDisk uses. -/
structure DiskInfo where
  path : List Char
  format : String
  actualSizeBytes : Int
  deriving DecidableEq, Repr

/-- The commands on the host, and what the pod does itself. `imageInfo` is answered by
`none` if the output is no JSON; `stream` copies a file of the host through the pod to the
S3 client, and ends with the error of either side. -/
inductive Call
  | dumpxml (id : String)
  | volInfo (volume pool : String)
  | volPath (volume pool : String)
  | imageInfo (path : List Char)
  | snapshotList (id : String)
  | now
  | hostConvert (source dest : List Char)
  | hostRemove (path : List Char)
  | podConvert (source dest : List Char) (sourceFormat destFormat : String) (compress : Bool)
  | podRemove (path : List Char)
  | s3Config (optionsJSON : String) (credentials : StringMap)
  | newS3Storage
  | newPVCStorage (mountPath : String)
  | upload (path : List Char) (url : String) (contentLength : Int)
  | stream (path : List Char) (url : String)
  deriving DecidableEq

@[reducible] def Answer : Call → Type
  | .dumpxml _ => Except GoError (List Char)
  | .volInfo _ _ => Option GoError
  | .volPath _ _ => Option GoError
  | .imageInfo _ => Except GoError (Option ImageInfo)
  | .snapshotList _ => Option GoError
  | .now => Int
  | .hostConvert _ _ => Option GoError
  | .hostRemove _ => Option GoError
  | .podConvert _ _ _ _ _ => Option GoError
  | .podRemove _ => Option GoError
  | .s3Config _ _ => Option GoError
  | .newS3Storage => Option GoError
  | .newPVCStorage _ => Option GoError
  | .upload _ _ _ => Except GoError UploadResponse
  | .stream _ _ => Option GoError × Except GoError UploadResponse

/-- The disk that GetDiskInfo takes: the first file of the domain, unless the request
names a path. -/
def pickedDisk (diskId : String) (first : List Char) : List Char :=
  if Go.contains diskId.toList ['/'] then diskId.toList else first

/-- The format that is exported to a PVC. -/
def targetFormat (req : ExportDiskRequest) (info : DiskInfo) : String :=
  if req.format = "" then info.format else req.format

/-- Whether the pod converts the disk before it uploads it. -/
def needsConversion (req : ExportDiskRequest) (info : DiskInfo) : Bool :=
  targetFormat req info ≠ info.format || (req.compress && targetFormat req info = "qcow2")

def exportID (vmId : String) (time : Int) : String :=
  "export-" ++ vmId ++ "-" ++ Go.formatInt time

section

variable {m : Type → Type} [Monad m] (run : (c : Call) → m (Answer c))

def getVolumeInfo (pool volume : String) : m (Except GoError StorageVolume) := do
  match ← run (.volInfo volume pool) with
  | some err => return .error (err.wrap "failed to get volume info")
  | none =>
    let _ ← run (.volPath volume pool)
    return .ok {}

def resolvePrimaryDisk (vmId : String) : m (Except GoError (List Char × String)) := do
  match ← run (.dumpxml vmId) with
  | .error err =>
    return .error (errorf (retryable ("failed to read disks for source VM " ++ Go.quoted vmId)
      (err.wrap "failed to dump domain XML")))
  | .ok xml =>
  match domainDiskPaths xml with
  | [] =>
    return .error (errorf
      ("InvalidSpec: source VM " ++ Go.quoted vmId ++ " has no usable disk to clone"))
  | path :: _ =>
    match ← getVolumeInfo run "default" (vmId ++ "-disk") with
    | .ok volume => return .ok (path, if volume.format ≠ "" then volume.format else "qcow2")
    | .error _ => return .ok (path, "qcow2")

variable (uri : String) (req : ExportDiskRequest)

/-- `GetDiskInfo`. That the image cannot be read is only logged, and so is a failure to
list the snapshots. -/
def getDiskInfo : m (Except GoError DiskInfo) := do
  match ← resolvePrimaryDisk run req.vmId with
  | .error err => return .error (err.wrap "failed to resolve primary disk")
  | .ok (first, format) =>
    let path := pickedDisk req.diskId first
    let info := match ← run (.imageInfo path) with
      | .ok (some image) =>
        (⟨path, if image.format ≠ "" then image.format else format, image.actualSize⟩ : DiskInfo)
      | .ok none => ⟨path, format, 0⟩
      | .error _ => ⟨path, format, 0⟩
    let _ ← run (.snapshotList req.vmId)
    return .ok info

/-- The upload of a file of the pod to the PVC. -/
def uploadToPVC (exportID : String) (info : DiskInfo) (uploadPath : List Char) :
    m (Except GoError ExportDiskResponse) := do
  match extractPVCNameFromURL req.destinationURL with
  | .error err => return .error (err.wrap "failed to extract PVC name from URL")
  | .ok pvcName =>
  match ← run (.newPVCStorage ("/mnt/migration-storage/" ++ pvcName)) with
  | some err => return .error (err.wrap "failed to create storage client")
  | none =>
  match ← run (.upload uploadPath req.destinationURL info.actualSizeBytes) with
  | .error err => return .error (err.wrap "failed to upload disk")
  | .ok uploaded =>
    return .ok {
      exportId := exportID
      estimatedSizeBytes := info.actualSizeBytes
      checksum := uploaded.checksum }

/-- `Provider.ExportDisk`, which serves the PVC. -/
def exportDiskToPVC : m (Except GoError ExportDiskResponse) := do
  match ← getDiskInfo run req with
  | .error err => return .error (err.wrap "failed to get disk info")
  | .ok info =>
  let format := targetFormat req info
  if format ≠ "qcow2" ∧ format ≠ "raw" then
    return .error (errorf ("unsupported export format: " ++ format ++
      " (libvirt supports qcow2, raw)"))
  else
  let exportID := exportID req.vmId (← run .now)
  if needsConversion req info then
    let tempPath := "/tmp/".toList ++ exportID.toList ++ '.' :: format.toList
    match ← run (.podConvert info.path tempPath info.format format req.compress) with
    | some err => return .error (err.wrap "failed to convert disk format")
    | none =>
      let result ← uploadToPVC run req exportID info tempPath
      let _ ← run (.podRemove tempPath)
      return result
  else uploadToPVC run req exportID info info.path

/-- How the two sides of the stream are reported. -/
def streamResult (hostTmp : List Char) :
    Option GoError × Except GoError UploadResponse → Except GrpcError UploadResponse
  | (some err, .error uploadErr) =>
    .error (.plain ("disk export stream failed: s3 upload: " ++ uploadErr.text ++
      " (host-side stream cat " ++ String.ofList hostTmp ++ " also failed: " ++ err.text ++ ")"))
  | (some err, .ok _) =>
    .error (.plain ("host-side stream (cat " ++ String.ofList hostTmp ++ ") failed: " ++ err.text))
  | (none, .error err) => .error (.plain ("s3 upload failed during stream: " ++ err.text))
  | (none, .ok uploaded) => .ok uploaded

/-- The steps on the host: one image of the disk, its stream to S3, and its removal. -/
def flattenAndStream (exportID : String) (srcPath hostTmp : List Char) :
    m (Except GrpcError ExportDiskResponse) := do
  match ← run (.hostConvert srcPath hostTmp) with
  | some err =>
    return .error (.plain
      ("host-side qemu-img flatten (qcow2→standalone qcow2) failed: " ++ err.text))
  | none =>
    let ended ← run (.stream hostTmp req.destinationURL)
    let _ ← run (.hostRemove hostTmp)
    match streamResult hostTmp ended with
    | .error err => return .error err
    | .ok uploaded =>
      return .ok {
        exportId := exportID
        estimatedSizeBytes := uploaded.bytesTransferred
        checksum := uploaded.checksum }

def exportDiskToS3 : m (Except GrpcError ExportDiskResponse) := do
  if Go.contains uri.toList "ssh://".toList = false then
    return .error (.plain ("s3 export requires an ssh:// libvirt transport " ++
      "(host-side qemu-img flatten + stream); got " ++ Go.quoted uri))
  else
  match ← getDiskInfo run req with
  | .error err => return .error (.plain ("failed to resolve source disk info: " ++ err.text))
  | .ok info =>
  if info.path = [] then
    return .error (.plain
      ("source disk " ++ Go.quoted req.diskId ++ " has no resolvable host path"))
  else
  match ← run (.s3Config req.storageOptionsJSON req.credentials) with
  | some err => return .error (.plain ("invalid s3 export configuration: " ++ err.text))
  | none =>
  match ← run .newS3Storage with
  | some err => return .error (.plain ("failed to create s3 client: " ++ err.text))
  | none =>
  let time ← run .now
  let nameTime ← run .now
  let stageTime ← run .now
  flattenAndStream run req ("export-libvirt-" ++ req.vmId ++ "-" ++ Go.formatInt time) info.path
    (hostExportStagePath info.path (sanitizeVolumeName req.vmId nameTime) stageTime)

def exportDiskToNFS : m (Except GrpcError ExportDiskResponse) := do
  if Go.contains uri.toList "ssh://".toList = false then
    return .error (.plain ("nfs export requires an ssh:// libvirt transport " ++
      "(host-side qemu-img → nfs://); got " ++ Go.quoted uri))
  else
  let nfsURL := Go.trimSpace req.destinationURL.toList
  if "nfs://".toList.isPrefixOf nfsURL = false then
    return .error (.plain ("nfs export destination must be an nfs:// URL, got " ++
      Go.quoted (String.ofList nfsURL)))
  else
  match ← getDiskInfo run req with
  | .error err => return .error (.plain ("failed to resolve source disk info: " ++ err.text))
  | .ok info =>
  if info.path = [] then
    return .error (.plain
      ("source disk " ++ Go.quoted req.diskId ++ " has no resolvable host path"))
  else
  match ← run (.hostConvert info.path nfsURL) with
  | some err => return .error (.plain ("host-side qemu-img convert to nfs failed: " ++ err.text))
  | none =>
    let time ← run .now
    return .ok { exportId := "export-libvirt-nfs-" ++ req.vmId ++ "-" ++ Go.formatInt time }

/-- `ExportDisk`, for the URI of the connection to libvirt. -/
def exportDisk : m (Except GrpcError ExportDiskResponse) := do
  match checkTransfer req.backendType req.transferMode with
  | some err => return .error err
  | none =>
  if req.backendType = backendNFS then exportDiskToNFS run uri req
  else if req.backendType = backendS3 then exportDiskToS3 run uri req
  else
  match ← exportDiskToPVC run req with
  | .error err => return .error (.plain ("failed to export disk: " ++ err.text))
  | .ok response => return .ok response

end

end Export

end Virtrigaud.Libvirt
