import Virtrigaud.Effects.Ensures
import Virtrigaud.Providers.Libvirt.Export
import Virtrigaud.Storage.Image

/-!
# What ExportDisk of the libvirt provider stages

The disk of a domain is a file that may have others under it, one more with every snapshot
of the disk alone. What is staged is the disk as it is, whatever snapshot was asked for.
For S3 and NFS it is one image that needs no other file; a PVC gets the disk's own file
unless it is converted, and then what is under it is missing.
-/

namespace Virtrigaud.Libvirt.Export

open Effects Program Storage

variable {n : Nat} {α : Type}

/-- What happens to the disk of a domain: the guest writes, and SnapshotCreate runs. -/
inductive DiskEvent (n : Nat) (α : Type)
  | write (i : Fin n) (a : α)
  | snapshotCreate (vmID name description : String) (includeMemory running : Bool)
      (overlay : List Char)

/-- libvirt gives a snapshot of the disk alone a file of its own; a snapshot with memory
is kept inside the disk's file. -/
def DiskEvent.change : DiskEvent n α → Disk.Change n α
  | .write i a => .write i a
  | .snapshotCreate vmID name description includeMemory running overlay =>
    if (buildSnapshotCreateArgs vmID name description includeMemory running).1.getLast? =
        some "--disk-only" then .overlay name overlay
    else .checkpoint name

/-- A disk after what has happened to it. -/
def evolve (disk : Storage.Disk n α) (events : List (DiskEvent n α)) : Storage.Disk n α :=
  events.foldl (fun disk event => disk.after event.change) disk

theorem evolve_shows {zero : α} {disk : Storage.Disk n α} (h : disk.Shows zero)
    (events : List (DiskEvent n α)) : (evolve disk events).Shows zero := by
  induction events generalizing disk with
  | nil => exact h
  | cons event events ih => exact ih (h.after event.change)

/-- What ExportDisk is asked for: the disk at a snapshot, or as it is. -/
def wanted (disk : Storage.Disk n α) (snapshotId : String) : Option (Fin n → α) :=
  if snapshotId = "" then some disk.contents.now
  else disk.contents.snapshots.lookup snapshotId

/-- The image files of the host and of the pod, and the staged object. -/
structure Site (n : Nat) (α : Type) where
  (host pod : Files n α)
  staged : Option (Image n α) := none

/-- How an operation ends: a conversion follows the chain so deep, and leaves this image
where qemu-img makes no promise. -/
structure Ending (n : Nat) (α : Type) where
  (error uploadError : Option GoError := none)
  depth : Nat := 0
  left : Image n α
  time : Int := 0
  uploaded : UploadResponse := ⟨"", 0⟩

/-- What `qemu-img info` says of the disk. -/
abbrev Report : Type := Except GoError (Option ImageInfo)

/-- What GetDiskInfo makes of it. -/
def Report.info (report : Report) (path : List Char) : DiskInfo :=
  match report with
  | .ok (some image) =>
    ⟨path, if image.format ≠ "" then image.format else "qcow2", image.actualSize⟩
  | .ok none => ⟨path, "qcow2", 0⟩
  | .error _ => ⟨path, "qcow2", 0⟩

theorem Report.info_path (report : Report) (path : List Char) : (report.info path).path = path := by
  rcases report with err | (_ | image) <;> rfl

/-- An image that needs no other file. -/
def flat (format : String) (shown : Fin n → α) : Image n α :=
  ⟨format, fun i => some (shown i), none⟩

/-- The image that a conversion makes. A source of another format is refused, except that
any file can be taken for a raw image; a destination that is part of the source is written
while it is read. -/
def convert (zero : α) (files : Files n α) (source dest : List Char)
    (sourceFormat destFormat : String) (ending : Ending n α) : Option (Image n α) :=
  match files source with
  | none => none
  | some image =>
    if image.format = sourceFormat then
      match files.follow ending.depth source with
      | none => none
      | some (paths, layers) =>
        if paths.contains dest then some ending.left else some (flat destFormat (read zero layers))
    else if sourceFormat = "raw" then some ending.left
    else none

namespace Site

variable (zero : α) (xml : List Char) (report : Report)

variable (site : Site n α) (path : List Char)

def writeHost (image : Image n α) : Site n α :=
  { site with
    host := Function.update site.host path (some image)
    staged := if "nfs://".toList.isPrefixOf path then some image else site.staged }

def writePod (image : Image n α) : Site n α :=
  { site with pod := Function.update site.pod path (some image) }

@[simp] theorem writeHost_host (image : Image n α) :
    (site.writeHost path image).host path = some image := Function.update_self ..

@[simp] theorem writePod_pod (image : Image n α) :
    (site.writePod path image).pod path = some image := Function.update_self ..

def answer : (c : Call) → Ending n α → Option (Answer c × Site n α)
  | .dumpxml _, ending =>
    match ending.error with
    | some err => some (.error err, site)
    | none => some (.ok xml, site)
  | .volInfo _ _, ending => some (ending.error, site)
  | .volPath _ _, ending => some (ending.error, site)
  | .imageInfo _, _ => some (report, site)
  | .snapshotList _, ending => some (ending.error, site)
  | .now, ending => some (ending.time, site)
  | .hostConvert source dest, ending =>
    match ending.error with
    | some err => some (some err, site)
    | none =>
      (convert zero site.host source dest "qcow2" "qcow2" ending).map fun image =>
        (none, site.writeHost dest image)
  | .hostRemove path, ending =>
    some (ending.error, { site with host := Function.update site.host path none })
  | .podConvert source dest sourceFormat destFormat _, ending =>
    match ending.error with
    | some err => some (some err, site)
    | none =>
      (convert zero site.pod source dest sourceFormat destFormat ending).map fun image =>
        (none, site.writePod dest image)
  | .podRemove path, ending =>
    some (ending.error, { site with pod := Function.update site.pod path none })
  | .s3Config _ _, ending => some (ending.error, site)
  | .newS3Storage, ending => some (ending.error, site)
  | .newPVCStorage _, ending => some (ending.error, site)
  | .upload path _ _, ending =>
    match ending.error with
    | some err => some (.error err, site)
    | none =>
      (site.pod path).map fun image => (.ok ending.uploaded, { site with staged := some image })
  | .stream path _, ending =>
    match ending.uploadError with
    | some uploadErr => some ((ending.error, .error uploadErr), site)
    | none =>
      match ending.error with
      | some err => some ((some err, .ok ending.uploaded), site)
      | none =>
        (site.host path).map fun image =>
          ((none, .ok ending.uploaded), { site with staged := some image })

end Site

def host (zero : α) (xml : List Char) (report : Report) :
    Host Call Answer (Site n α) (Ending n α) :=
  ⟨fun site => site.answer zero xml report⟩

abbrev LogEntry : Type := Event Call Answer

/-- Where an export of the disk may put its image. -/
inductive Place (req : ExportDiskRequest) (path : List Char) : List Char → Prop
  | nfs : Place req path (Go.trimSpace req.destinationURL.toList)
  | host (nameTime stageTime : Int) :
      Place req path (hostExportStagePath path (sanitizeVolumeName req.vmId nameTime) stageTime)
  | pod (time : Int) (format : String) :
      Place req path ("/tmp/".toList ++ (exportID req.vmId time).toList ++ '.' :: format.toList)

/-- No file of the disk stands where an export puts its image. -/
def Apart (files : Files n α) (req : ExportDiskRequest) (path : List Char) : Prop :=
  ∀ dest paths layers, Place req path dest → files.Heads path paths layers → dest ∉ paths

/-- The requests that ExportDisk serves. From the host the disk is staged as it is now: nothing may
have changed since the snapshot. To a PVC goes what the pod has for the disk: all of the chain if it
is converted, and else its first file, which must need no other one. -/
def Serves (zero : α) (disk : Storage.Disk n α) (pod : Files n α) (report : Report)
    (req : ExportDiskRequest) : Prop :=
  if req.backendType = backendNFS ∨ req.backendType = backendS3 then
    wanted disk req.snapshotId = some disk.contents.now
  else if needsConversion req (report.info disk.path) then
    ∃ paths layers, pod.Heads disk.path paths layers ∧
      wanted disk req.snapshotId = some (read zero layers)
  else
    ∃ image, pod disk.path = some image ∧ image.backing = none ∧
      wanted disk req.snapshotId = some (read zero [image.blocks])

/-- The staged object is one image that shows these contents and needs no other file. -/
def Site.Staged (zero : α) (site : Site n α) (shown : Fin n → α) : Prop :=
  ∃ image, site.staged = some image ∧ image.backing = none ∧
    read zero [image.blocks] = shown

/-- The image that a successful export stages. -/
inductive Exports (zero : α) (disk : Storage.Disk n α) (pod : Files n α) (report : Report)
    (req : ExportDiskRequest) : Image n α → Prop
  | host (hbackend : req.backendType = backendNFS ∨ req.backendType = backendS3) :
      Exports zero disk pod report req (flat "qcow2" disk.contents.now)
  | converted {paths : List (List Char)} {layers : List (Storage.Layer n α)}
      (hpvc : ¬ (req.backendType = backendNFS ∨ req.backendType = backendS3))
      (hneeded : needsConversion req (report.info disk.path) = true)
      (hheads : pod.Heads disk.path paths layers) :
      Exports zero disk pod report req
        (flat (targetFormat req (report.info disk.path)) (read zero layers))
  | plain {image : Image n α}
      (hpvc : ¬ (req.backendType = backendNFS ∨ req.backendType = backendS3))
      (hneeded : ¬ needsConversion req (report.info disk.path) = true)
      (hfile : pod disk.path = some image) : Exports zero disk pod report req image

section

variable {zero : α} {xml : List Char} {report : Report} {disk : Storage.Disk n α} {pod : Files n α}
  {site next : Site n α} {log : List LogEntry} {ending : Ending n α} {req : ExportDiskRequest}

variable {image : Image n α} {dest : List Char}

/-- The image is what was asked for exactly if the request is served. -/
theorem Exports.serves_iff (h : Exports zero disk pod report req image) :
    (∃ shown, wanted disk req.snapshotId = some shown ∧ image.backing = none ∧
      read zero [image.blocks] = shown) ↔ Serves zero disk pod report req := by
  unfold Serves
  cases h with
  | host hbackend =>
    rw [if_pos hbackend]
    constructor
    · rintro ⟨_, hwanted, -, rfl⟩
      exact hwanted
    · exact fun hwanted => ⟨_, hwanted, rfl, rfl⟩
  | converted hpvc hneeded hheads =>
    rw [if_neg hpvc, if_pos hneeded]
    constructor
    · rintro ⟨_, hwanted, -, rfl⟩
      exact ⟨_, _, hheads, hwanted⟩
    · rintro ⟨paths', layers', hheads', hwanted⟩
      obtain ⟨rfl, rfl⟩ := hheads.unique hheads'
      exact ⟨_, hwanted, rfl, rfl⟩
  | plain hpvc hneeded hfile =>
    rw [if_neg hpvc, if_neg hneeded]
    constructor
    · rintro ⟨_, hwanted, hnone, rfl⟩
      exact ⟨image, hfile, hnone, hwanted⟩
    · rintro ⟨image', hfile', hnone, hwanted⟩
      obtain rfl := Option.some.inj (hfile.symm.trans hfile')
      exact ⟨_, hwanted, hnone, rfl⟩

/-- A conversion makes one image of the chain, if it is told the format of a raw file. -/
theorem convert_eq {files : Storage.Files n α} {source : List Char} {from' to' : String}
    {made : Storage.Image n α}
    (hraw : ∀ image, files source = some image → from' = "raw" → image.format = "raw")
    (hapart : ∀ paths layers, files.Heads source paths layers → dest ∉ paths)
    (h : convert zero files source dest from' to' ending = some made) :
    ∃ paths layers, files.Heads source paths layers ∧ made = flat to' (read zero layers) := by
  unfold convert at h
  split at h
  · cases h
  · rename_i image hfile
    split at h
    · split at h
      · cases h
      · rename_i paths layers hfollow
        have hheads := Storage.Files.heads_of_follow hfollow
        rw [if_neg (mt List.contains_iff_mem.mp (hapart _ _ hheads))] at h
        exact ⟨paths, layers, hheads, (Option.some.inj h).symm⟩
    · rename_i hformat
      split at h
      · rename_i hisRaw
        exact absurd ((hraw image hfile hisRaw).trans hisRaw.symm) hformat
      · cases h

theorem stored_of_map {β : Type} {a b : β} {found : Option (Image n α)}
    {store : Image n α → Site n α}
    (h : (found.map fun image => (a, store image)) = some (b, next)) :
    ∃ image, found = some image ∧ next = store image := by
  obtain ⟨image, himage, heq⟩ := Option.map_eq_some_iff.mp h
  cases heq
  exact ⟨image, himage, rfl⟩

theorem answer_hostConvert {source : List Char}
    (h : (host zero xml report).answer site (.hostConvert source dest) ending = some (none, next)) :
    ∃ image, convert zero site.host source dest "qcow2" "qcow2" ending = some image ∧
      next = site.writeHost dest image := by
  simp only [host, Site.answer] at h
  split at h
  · cases h
  · exact stored_of_map h

theorem answer_podConvert {source : List Char} {from' to' : String} {compress : Bool}
    (h : (host zero xml report).answer site (.podConvert source dest from' to' compress) ending =
      some (none, next)) :
    ∃ image, convert zero site.pod source dest from' to' ending = some image ∧
      next = site.writePod dest image := by
  simp only [host, Site.answer] at h
  split at h
  · cases h
  · exact stored_of_map h

variable {path : List Char} {uploaded : UploadResponse}

theorem answer_upload {url : String} {length : Int}
    (h : (host zero xml report).answer site (.upload path url length) ending =
      some (.ok uploaded, next)) :
    ∃ image, site.pod path = some image ∧ next = { site with staged := some image } := by
  simp only [host, Site.answer] at h
  split at h
  · cases h
  · exact stored_of_map h

theorem answer_stream {url : String}
    (h : (host zero xml report).answer site (.stream path url) ending =
      some ((none, .ok uploaded), next)) :
    ∃ image, site.host path = some image ∧ next = { site with staged := some image } := by
  simp only [host, Site.answer] at h
  split at h
  · simp at h
  · split at h
    · cases h
    · exact stored_of_map h

theorem getVolumeInfo_ensures (pool volume : String) :
    (getVolumeInfo perform pool volume).Ensures (host zero xml report)
      (fun result next _ => next = site ∧ OnOk (fun volume => volume.format = "") result)
      site log := by
  unfold getVolumeInfo
  simp only [perform_bind]
  intro ending answer next hanswer
  cases hanswer
  cases ending.error with
  | some err => exact ⟨rfl, trivial⟩
  | none =>
    intro ending answer next hanswer
    cases hanswer
    exact ⟨rfl, rfl⟩

theorem resolvePrimaryDisk_ensures (vmId : String) :
    (resolvePrimaryDisk perform vmId).Ensures (host zero xml report)
      (fun result next _ => next = site ∧
        OnOk (fun found => (domainDiskPaths xml).head? = some found.1 ∧ found.2 = "qcow2") result)
      site log := by
  unfold resolvePrimaryDisk
  rw [perform_bind]
  intro ending answer next hanswer
  simp only [host, Site.answer] at hanswer
  split at hanswer
  · cases hanswer
    exact ⟨rfl, trivial⟩
  · cases hanswer
    dsimp only
    split
    · exact ⟨rfl, trivial⟩
    · rename_i path rest hpaths
      refine (getVolumeInfo_ensures _ _).bind fun volume site₁ log₁ _ hvolume => ?_
      obtain ⟨rfl, hformat⟩ := hvolume
      cases volume with
      | error err => exact ⟨rfl, by rw [hpaths]; rfl, rfl⟩
      | ok volume =>
        have hempty : volume.format = "" := hformat
        refine ⟨rfl, by rw [hpaths]; rfl, ?_⟩
        simp [hempty]

theorem getDiskInfo_ensures
    (hnamed : (domainDiskPaths xml).head?.map (pickedDisk req.diskId) = some disk.path) :
    (getDiskInfo perform req).Ensures (host zero xml report)
      (fun result next _ => next = site ∧ OnOk (· = report.info disk.path) result) site log := by
  refine (resolvePrimaryDisk_ensures _).bind fun found site₁ log₁ _ hfound => ?_
  obtain ⟨rfl, hfound⟩ := hfound
  cases found with
  | error err => exact ⟨rfl, trivial⟩
  | ok found =>
    obtain ⟨first, format⟩ := found
    obtain ⟨hfirst, rfl⟩ := hfound
    rw [hfirst] at hnamed
    have hpath : pickedDisk req.diskId first = disk.path := Option.some.inj hnamed
    simp only [perform_bind, hpath]
    intro ending answer next hanswer
    cases hanswer
    intro ending answer next hanswer
    cases hanswer
    refine ⟨rfl, ?_⟩
    rcases report with err | (_ | image) <;> rfl

variable {info : DiskInfo}

theorem uploadToPVC_ensures {exportID : String} :
    (uploadToPVC perform req exportID info path).Ensures (host zero xml report)
      (fun result next _ => OnOk (fun _ => ∃ image, site.pod path = some image ∧
        next.staged = some image) result) site log := by
  unfold uploadToPVC
  split
  · trivial
  · simp only [perform_bind]
    intro ending made next hmade
    cases hmade
    cases ending.error with
    | some err => trivial
    | none =>
      intro ending uploaded next huploaded
      cases uploaded with
      | error err => trivial
      | ok uploaded =>
        obtain ⟨image, hfile, rfl⟩ := answer_upload huploaded
        exact ⟨image, hfile, rfl⟩

/-- A successful export has staged such an image. -/
def Post (zero : α) (disk : Storage.Disk n α) (pod : Files n α) (report : Report)
    (req : ExportDiskRequest) {ε : Type} (result : Except ε ExportDiskResponse)
    (next : Site n α) (_ : List LogEntry) : Prop :=
  OnOk (fun _ => ∃ image, next.staged = some image ∧ Exports zero disk pod report req image) result

section

variable (hnamed : (domainDiskPaths xml).head?.map (pickedDisk req.diskId) = some disk.path)
include hnamed

/-- What an export does with the disk that it found. -/
theorem getDiskInfo_bind {β : Type} {f : Except GoError DiskInfo → Program Call Answer β}
    {post : β → Site n α → List LogEntry → Prop}
    (herror : ∀ err log, (f (.error err)).Ensures (host zero xml report) post site log)
    (hok : ∀ log, (f (.ok (report.info disk.path))).Ensures (host zero xml report) post site log) :
    (getDiskInfo perform req >>= f).Ensures (host zero xml report) post site log := by
  refine (getDiskInfo_ensures hnamed).bind fun info site₁ log₁ _ hinfo => ?_
  obtain ⟨rfl, hinfo⟩ := hinfo
  cases info with
  | error err => exact herror err log₁
  | ok info =>
    obtain rfl : info = report.info disk.path := hinfo
    exact hok log₁

theorem exportDiskToPVC_ensures (hapart : Apart pod req disk.path)
    (hraw : ∀ image, pod disk.path = some image →
      (report.info disk.path).format = "raw" → image.format = "raw")
    (hpvc : ¬ (req.backendType = backendNFS ∨ req.backendType = backendS3))
    (hpod : site.pod = pod) :
    (exportDiskToPVC perform req).Ensures (host zero xml report) (Post zero disk pod report req)
      site log := by
  refine getDiskInfo_bind hnamed (fun _ _ => trivial) fun log₁ => ?_
  dsimp only
  split
  · trivial
  · rw [perform_bind]
    intro ending time site₂ htime
    cases htime
    dsimp only
    split
    · rename_i hneeded
      rw [Report.info_path, perform_bind]
      intro ending' converted site₃ hconverted
      cases converted with
      | some err => trivial
      | none =>
        obtain ⟨made, hmade, rfl⟩ := answer_podConvert hconverted
        obtain ⟨paths, layers, hheads, rfl⟩ := convert_eq (hpod ▸ hraw)
          (hpod ▸ fun paths layers => hapart _ paths layers (.pod ending.time _)) hmade
        refine uploadToPVC_ensures.bind fun result site₄ log₄ _ hstaged => ?_
        rw [perform_bind]
        intro ending removed site₅ hremoved
        cases hremoved
        refine hstaged.imp fun _ ⟨image, hfile, hstaged⟩ => ⟨image, hstaged, ?_⟩
        rw [Site.writePod_pod, Option.some.injEq] at hfile
        exact hfile ▸ .converted hpvc hneeded (hpod ▸ hheads)
    · rename_i hneeded
      rw [Report.info_path]
      refine uploadToPVC_ensures.mono fun result next _ _ hstaged => ?_
      exact hstaged.imp fun _ ⟨image, hfile, hstaged⟩ =>
        ⟨image, hstaged, .plain hpvc hneeded (hpod ▸ hfile)⟩

omit hnamed

variable (hshows : disk.Shows zero) (hapart : Apart disk.files req disk.path)
  (hhost : site.host = disk.files)
include hshows hapart hhost

/-- The conversion on the host makes one image of the disk as it is. -/
theorem hostConvert_eq (hplace : Place req disk.path dest)
    (h : (host zero xml report).answer site (.hostConvert disk.path dest) ending =
      some (none, next)) :
    next = site.writeHost dest (flat "qcow2" disk.contents.now) := by
  obtain ⟨made, hmade, rfl⟩ := answer_hostConvert h
  obtain ⟨paths, layers, hheads, rfl⟩ := convert_eq (fun _ _ hraw => absurd hraw (by decide))
    (hhost ▸ fun paths layers => hapart dest paths layers hplace) hmade
  obtain ⟨paths', layers', hheads', hread⟩ := hshows
  obtain ⟨rfl, rfl⟩ := hheads'.unique (hhost ▸ hheads)
  rw [hread]

theorem flattenAndStream_ensures {exportID : String} {hostTmp : List Char}
    (hplace : Place req disk.path hostTmp) (hbackend : req.backendType = backendS3) :
    (flattenAndStream perform req exportID disk.path hostTmp).Ensures (host zero xml report)
      (Post zero disk pod report req) site log := by
  unfold flattenAndStream
  rw [perform_bind]
  intro ending converted site₁ hconverted
  cases converted with
  | some err => trivial
  | none =>
    obtain rfl := hostConvert_eq hshows hapart hhost hplace hconverted
    simp only [perform_bind]
    intro ending ended site₂ hended ending' removed site₃ hremoved
    cases hremoved
    obtain ⟨streamErr, uploaded⟩ := ended
    cases streamErr with
    | some err => cases uploaded <;> trivial
    | none =>
      cases uploaded with
      | error err => trivial
      | ok uploaded =>
        obtain ⟨image, hfile, rfl⟩ := answer_stream hended
        rw [Site.writeHost_host, Option.some.injEq] at hfile
        exact ⟨image, rfl, hfile ▸ .host (.inr hbackend)⟩

include hnamed

theorem exportDiskToS3_ensures {uri : String} (hbackend : req.backendType = backendS3) :
    (exportDiskToS3 perform uri req).Ensures (host zero xml report)
      (Post zero disk pod report req) site log := by
  unfold exportDiskToS3
  split
  · trivial
  · refine getDiskInfo_bind hnamed (fun _ _ => trivial) fun log₁ => ?_
    dsimp only
    split
    · trivial
    · simp only [perform_bind, Report.info_path]
      intro ending configured site₂ hconfigured
      cases hconfigured
      cases ending.error with
      | some err => trivial
      | none =>
        intro ending made site₂ hmade
        cases hmade
        cases ending.error with
        | some err => trivial
        | none =>
          intro ending₁ time₁ site₂ htime₁ ending₂ time₂ site₃ htime₂ ending₃ time₃ site₄ htime₃
          cases htime₁
          cases htime₂
          cases htime₃
          exact flattenAndStream_ensures hshows hapart hhost (.host _ _) hbackend

theorem exportDiskToNFS_ensures {uri : String} (hbackend : req.backendType = backendNFS) :
    (exportDiskToNFS perform uri req).Ensures (host zero xml report)
      (Post zero disk pod report req) site log := by
  unfold exportDiskToNFS
  split
  · trivial
  · dsimp only
    split
    · trivial
    · rename_i hurl
      refine getDiskInfo_bind hnamed (fun _ _ => trivial) fun log₁ => ?_
      dsimp only
      split
      · trivial
      · rw [Report.info_path, perform_bind]
        intro ending converted site₂ hconverted
        cases converted with
        | some err => trivial
        | none =>
          obtain rfl := hostConvert_eq hshows hapart hhost .nfs hconverted
          rw [perform_bind]
          intro ending time site₃ htime
          cases htime
          exact ⟨_, if_pos (Bool.not_eq_false _ ▸ hurl), .host (.inl hbackend)⟩

end

end

namespace Sample

/-! A disk of two blocks in one file, and the same disk after a snapshot. -/

def imagePath : List Char := "/var/lib/libvirt/images/web.qcow2".toList

def overlayPath : List Char := "/var/lib/libvirt/images/web.s1".toList

def start : Storage.Disk 2 Char where
  files := fun path =>
    if path = imagePath then some { format := "qcow2", blocks := fun _ => some 'a' } else none
  path := imagePath
  contents := ⟨fun _ => 'a', []⟩

theorem start_shows : start.Shows '0' := by
  have hfile : start.files start.path =
      some { format := "qcow2", blocks := fun _ => some 'a' } := rfl
  exact ⟨_, _, .alone hfile rfl, rfl⟩

/-- SnapshotCreate without memory. -/
def snapshot : DiskEvent 2 Char :=
  .snapshotCreate "web" "s1" "before migration" false true overlayPath

/-- What virsh prints for the domain. -/
def xml : List Char := "<source file='/var/lib/libvirt/images/web.s1' index='2'/>".toList

def request (backendType destinationURL snapshotId : String) : ExportDiskRequest :=
  { vmId := "web", backendType, destinationURL, snapshotId }

def pvcRequest : ExportDiskRequest := request "pvc" "pvc://staging/web.qcow2" ""

def s3Request : ExportDiskRequest := request "s3" "s3://staging/web.qcow2" "s1"

/-- An export in which every operation succeeds; the pod has the files of the host. -/
def exported (events : List (DiskEvent 2 Char)) (req : ExportDiskRequest) (calls : Nat) :
    Option (Outcome Call Answer (Site 2 Char) (Except GrpcError ExportDiskResponse)) :=
  (exportDisk perform "qemu+ssh://root@kvm/system" req).run (host '0' xml (.ok none))
    { host := (evolve start events).files, pod := (evolve start events).files } []
    (List.replicate calls { depth := 4, left := { format := "", blocks := fun _ => none } })

end Sample

open Export.Sample

namespace Sample

/-- The chain of the disk after its snapshot. -/
theorem snapshot_heads : ∃ layers, (evolve start [snapshot]).files.Heads
    (evolve start [snapshot]).path [overlayPath, imagePath] layers := by
  have hover : (evolve start [snapshot]).files overlayPath =
      some { format := "qcow2", blocks := fun _ => none, backing := some imagePath } := rfl
  have hbase : (evolve start [snapshot]).files imagePath =
      some { format := "qcow2", blocks := fun _ => some 'a' } := rfl
  exact ⟨_, .above hover rfl (.alone hbase rfl)⟩

/-- The staging files differ from the files of the disk in one of their first characters. -/
theorem snapshot_apart : Apart (evolve start [snapshot]).files s3Request
    (evolve start [snapshot]).path := by
  intro dest paths layers hplace hheads
  obtain ⟨layers', hheads'⟩ := snapshot_heads
  obtain ⟨rfl, -⟩ := hheads'.unique hheads
  have hdiffer : ∀ (i : Nat) (c : Char), dest[i]? = some c →
      (∀ path ∈ [overlayPath, imagePath], path[i]? ≠ some c) → dest ∉ [overlayPath, imagePath] :=
    fun i c hdest hpaths hmem => hpaths dest hmem hdest
  cases hplace with
  | nfs => exact hdiffer 0 's' rfl (by decide)
  | host nameTime stageTime => exact hdiffer 24 '.' rfl (by decide)
  | pod time format => exact hdiffer 1 't' rfl (by decide)

end Sample

end Virtrigaud.Libvirt.Export
