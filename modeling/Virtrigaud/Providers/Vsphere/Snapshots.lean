import Mathlib.Data.Fintype.Basic
import Virtrigaud.Providers.Vsphere.Extents
import Virtrigaud.Storage.Image

/-!
# What ExportDisk stages of a disk with snapshots

The virtual disks of a VM are chains of files on datastores, one more with every
snapshot. ExportDisk copies the file below the newest one whenever there is one, and does
not look at the snapshot it was asked for. So it stages the disk as it was at the newest
snapshot, which is right only when that was asked for; without snapshots it stages the
disk as it is.
-/

namespace Virtrigaud.Vsphere.Export

open Effects Program Storage List

abbrev Bytes : Type := List Char

/-- How disk images are read: what the guest sees in a file of a format, given the files
next to it. -/
structure Formats (n : Nat) (α : Type) where
  decode : DiskFormat → Bytes → (List Char → Option Bytes) → Option (Fin n → α)
  /-- An image that needs no other files. -/
  selfContained : DiskFormat → Bytes → Bool
  /-- Of the files next to a VMDK only the extents that it lists are read. -/
  listed : ∀ text f g, (∀ name ∈ listedExtents text, f name = g name) →
    decode .vmdk text f = decode .vmdk text g
  alone : ∀ format bytes f g, selfContained format bytes = true →
    decode format bytes f = decode format bytes g

/-- A virtual disk: its first layer, what has happened to it, and the datastore paths of
the files of its layers, newest first. -/
structure VMDisk (n : Nat) (α : Type) where
  base : Layer n α
  events : List (Event n α)
  files : List (List Char)
  sparse : Bool := false
  named : files.length = (Chain.grow base events).layers.length
  paths : [] ∉ files

namespace VMDisk

variable {n : Nat} {α : Type} (disk : VMDisk n α)

def chain : Chain n α := Chain.grow disk.base disk.events

def contents (zero : α) : Contents n α :=
  Contents.grow zero disk.base disk.events

/-- As vCenter reports it. -/
def backing : DiskBacking :=
  if disk.sparse then .sparseVer2 (disk.files.headD []) (disk.files.tail.head?)
  else .flatVer2 (disk.files.headD []) (disk.files.tail.head?)

/-- Each file with the chain of layers that it heads. -/
def entries : List (List Char × List (Layer n α)) :=
  disk.files.zip disk.chain.layers.tails

/-- What the file shows that ExportDisk copies: the disk at its newest snapshot, and the disk as
it is if it has no snapshots or is reported without its parent. -/
def copied (zero : α) : Fin n → α :=
  match (disk.contents zero).snapshots with
  | [] => (disk.contents zero).now
  | newest :: _ => if disk.sparse then (disk.contents zero).now else newest.2

/-- What ExportDisk is asked for: the disk at a snapshot, or as it is. -/
def wanted (zero : α) (snapshotId : String) : Option (Fin n → α) :=
  if snapshotId = "" then some (disk.contents zero).now
  else (disk.contents zero).snapshots.lookup snapshotId

end VMDisk

/-- The datastores, the files of the pod, and the staged object. -/
structure Site where
  datastore : List Char → List Char → Option Bytes
  pod : List Char → Option Bytes := fun _ => none
  staged : Option Bytes := none

/-- How an operation ends. A copy writes files to its datastore; a conversion or a failed
download leaves bytes. -/
structure Ending where
  error : Option GoError := none
  files : List (List Char × Bytes) := []
  bytes : Bytes := []
  time : Int := 0
  installed : Bool := true
  uploaded : UploadResponse := ⟨"", 0⟩

namespace Site

def write (site : Site) (path : List Char) (bytes : Bytes) : Site :=
  { site with pod := Function.update site.pod path (some bytes) }

/-- The files next to a file of the pod. -/
def siblings (site : Site) (path name : List Char) : Option Bytes :=
  site.pod (besides path name)

/-- A datastore after files were written to it. -/
def store (site : Site) (datastore : List Char) (files : List (List Char × Bytes)) : Site :=
  { site with
    datastore := Function.update site.datastore datastore fun file =>
      (files.lookup file).or (site.datastore datastore file) }

variable {n : Nat} {α : Type} [DecidableEq α] (formats : Formats n α) (zero : α)
  (disks : List (VMDisk n α))

/-- What the guest would see on the disk of a file of a datastore. -/
def contentOf (site : Site) (datastore file : List Char) : Option (Fin n → α) :=
  (site.datastore datastore file).bind fun text =>
    formats.decode .vmdk text fun name => site.datastore datastore (besides file name)

/-- A copy that is made shows what the source shows. -/
def copy (site : Site) (source dest : List Char) (files : List (List Char × Bytes)) :
    Option Site :=
  match (disks.flatMap VMDisk.entries).lookup source, parseDatastorePath dest with
  | some layers, .ok (datastore, file) =>
    let next := site.store datastore files
    if next.contentOf formats datastore file = some (read zero layers) then some next
    else none
  | _, _ => none

/-- A conversion that is made reads the source with the files next to it, and writes an
image that shows the same and needs no other files. -/
def convert (site : Site) (source dest : List Char) (format : DiskFormat) (bytes : Bytes) :
    Option Site :=
  match site.pod source with
  | none => none
  | some main =>
    let shown := formats.decode .vmdk main (site.siblings source)
    if shown.isSome = true ∧ formats.selfContained format bytes = true ∧
        formats.decode format bytes (fun _ => none) = shown then
      if "nfs://".toList.isPrefixOf dest then some { site with staged := some bytes }
      else some (site.write dest bytes)
    else none

def answer (site : Site) : (c : Call) → Ending → Option (Answer c × Site)
  | .getDisks _, ending =>
    match ending.error with
    | some err => some (.error ⟨none, err.text⟩, site)
    | none => some (.ok (disks.map VMDisk.backing), site)
  | .now, ending => some (ending.time, site)
  | .s3Config _ _, ending => some (ending.error, site)
  | .newStorage, ending => some (ending.error, site)
  | .makeDirectory _, ending => some (ending.error, site)
  | .removeDirectory _, ending => some (ending.error, site)
  | .copyVirtualDisk source dest, ending =>
    match ending.error with
    | some err => some (some err, site)
    | none => (site.copy formats zero disks source dest ending.files).map (none, ·)
  | .deleteDatastoreFile _, ending => some (ending.error, site)
  | .createFile path, ending =>
    some (ending.error, if ending.error.isSome then site else site.write path [])
  | .download datastore file path, ending =>
    match ending.error with
    | some err => some (some err, site.write path ending.bytes)
    | none => (site.datastore datastore file).map fun bytes => (none, site.write path bytes)
  | .readFile path, ending =>
    match ending.error with
    | some err => some (.error err, site)
    | none => (site.pod path).map fun bytes => (.ok bytes, site)
  | .qemuImgInstalled, ending => some (ending.installed, site)
  | .convert source dest format, ending =>
    match ending.error with
    | some err => some (some err, site)
    | none => (site.convert formats source dest format ending.bytes).map (none, ·)
  | .openFile _, ending => some (ending.error, site)
  | .statFile _, ending => some (ending.error, site)
  | .upload path _, ending =>
    match ending.error with
    | some err => some (.error err, site)
    | none =>
      (site.pod path).map fun bytes => (.ok ending.uploaded, { site with staged := some bytes })

end Site

variable {file : List Char}

section Layers

variable {n : Nat} {α : Type} {zero : α}

theorem lookup_of_mem {β γ : Type} [BEq β] [LawfulBEq β] {l : List (β × γ)} {a : β} {b : γ}
    (hnodup : (l.map Prod.fst).Nodup) (hmem : (a, b) ∈ l) : l.lookup a = some b := by
  obtain ⟨before, after, rfl⟩ := append_of_mem hmem
  refine lookup_eq_some_iff.mpr ⟨before, after, rfl, ?_⟩
  intro other hother
  rw [map_append, map_cons, nodup_append] at hnodup
  exact bne_iff_ne.mpr
    (hnodup.2.2 other.1 (mem_map_of_mem hother) a (.head _)).symm

/-- Reported without a parent, the newest file is copied. -/
theorem sourceDisk_top {disk : VMDisk n α} {rest : List (List Char)}
    (hfiles : disk.files = file :: rest) (h : disk.sparse = true ∨ rest = []) :
    sourceDisk disk.backing = file := by
  unfold VMDisk.backing
  rw [hfiles]
  rcases h with hsparse | rfl
  · rw [if_pos hsparse]
    rfl
  · split <;> rfl

/-- Reported with its parent, the parent is copied. -/
theorem sourceDisk_parent {disk : VMDisk n α} {parent : List Char} {rest : List (List Char)}
    (hfiles : disk.files = file :: parent :: rest) (h : disk.sparse = false) :
    sourceDisk disk.backing = parent := by
  have hparent : parent ≠ [] := by
    intro hnil
    apply disk.paths
    rw [hfiles, hnil]
    exact .tail _ (.head _)
  unfold VMDisk.backing
  rw [hfiles, if_neg (by rw [h]; decide)]
  exact if_pos hparent

/-- The layers that the copied file heads. -/
theorem VMDisk.copied_entry (disk : VMDisk n α) (zero : α) :
    ∃ layers, (sourceDisk disk.backing, layers) ∈ disk.entries ∧
      read zero layers = disk.copied zero := by
  obtain ⟨hshows, hlinked⟩ := Chain.grow_shows zero disk.base disk.events
  have hnow : read zero disk.chain.layers = (disk.contents zero).now := hshows.now
  have hsnapshots : disk.chain.snapshots.map (fun s => (s.1, read zero s.2)) =
    (disk.contents zero).snapshots := hshows.snapshots
  have hnamed : disk.files.length = disk.chain.below.length + 1 := disk.named
  change disk.chain.Linked at hlinked
  unfold Chain.Linked at hlinked
  unfold VMDisk.copied VMDisk.entries
  rw [← hsnapshots]
  cases hfiles : disk.files with
  | nil =>
    rw [hfiles] at hnamed
    cases hnamed
  | cons file rest =>
    rw [hfiles, length_cons, Nat.add_right_cancel_iff] at hnamed
    have htop : (file, disk.chain.layers) ∈ (file :: rest).zip disk.chain.layers.tails := .head _
    cases hchain : disk.chain.snapshots with
    | nil =>
      rw [hchain] at hlinked
      rw [hlinked] at hnamed
      rw [sourceDisk_top hfiles (.inr (eq_nil_of_length_eq_zero hnamed))]
      exact ⟨_, htop, hnow⟩
    | cons newest older =>
      rw [hchain] at hlinked
      obtain ⟨hbelow, hne⟩ := hlinked
      rw [map_cons]
      by_cases hsparse : disk.sparse = true
      · rw [sourceDisk_top hfiles (.inl hsparse)]
        exact ⟨_, htop, hnow.trans (if_pos hsparse).symm⟩
      · cases rest with
        | nil => exact absurd (eq_nil_of_length_eq_zero hnamed.symm) hne
        | cons parent rest =>
          rw [sourceDisk_parent hfiles (Bool.eq_false_iff.mpr hsparse)]
          refine ⟨newest.2, ?_, (if_neg hsparse).symm⟩
          rw [hbelow, Chain.layers, tails]
          refine .tail _ ?_
          cases disk.chain.below with
          | nil | cons layer layers => exact .head _

end Layers

variable {text : List Char}

section Staging

variable {n : Nat} {α : Type} [DecidableEq α] {formats : Formats n α} {zero : α}
  {disks : List (VMDisk n α)} {site next : Site} {log : List LogEntry} {ending : Ending}

/-- vCenter, the pod and the backend together. -/
def Formats.host (formats : Formats n α) (zero : α) (disks : List (VMDisk n α)) :
    Host Call Answer Site Ending :=
  ⟨fun site => site.answer formats zero disks⟩

variable {path : List Char}

theorem answer_createFile
    (h : (formats.host zero disks).answer site (.createFile path) ending = some (none, next)) :
    next = site.write path [] := by
  simp only [Formats.host, Site.answer, Option.some.injEq, Prod.mk.injEq] at h
  rw [← h.2, h.1]
  rfl

variable {datastore : List Char}

theorem answer_download
    (h : (formats.host zero disks).answer site (.download datastore file path) ending =
      some (none, next)) :
    ∃ bytes, site.datastore datastore file = some bytes ∧ next = site.write path bytes := by
  simp only [Formats.host, Site.answer] at h
  split at h
  · cases h
  · obtain ⟨bytes, hbytes, heq⟩ := Option.map_eq_some_iff.mp h
    cases heq
    exact ⟨bytes, hbytes, rfl⟩

variable {dest : List Char} {format : DiskFormat} {source main : List Char} {shown : Fin n → α}

/-- What is written shows what the source shows, whatever lies next to it. -/
theorem answer_convert (hpod : site.pod source = some main)
    (hshown : formats.decode .vmdk main (site.siblings source) = some shown)
    (h : (formats.host zero disks).answer site (.convert source dest format) ending =
      some (none, next)) :
    ∃ bytes, (∀ f, formats.decode format bytes f = some shown) ∧
      next = if "nfs://".toList.isPrefixOf dest then { site with staged := some bytes }
        else site.write dest bytes := by
  simp only [Formats.host, Site.answer] at h
  split at h
  · cases h
  obtain ⟨result, hresult, heq⟩ := Option.map_eq_some_iff.mp h
  cases heq
  simp only [Site.convert, hpod, hshown] at hresult
  split at hresult
  · rename_i hcond
    rw [← apply_ite some] at hresult
    refine ⟨ending.bytes, fun f => ?_, (Option.some.inj hresult).symm⟩
    rw [formats.alone format ending.bytes f (fun _ => none) hcond.2.1, hcond.2.2]
  · cases hresult

theorem downloadFile_eq (h : parseDatastorePath path = .ok (datastore, file)) :
    downloadFile perform path dest = perform (Call.download datastore file dest) := by
  unfold downloadFile
  rw [h]

/-- The extent files have been downloaded, and nothing else has changed. -/
structure Fetched (tempDir datastore file : List Char) (extents : List (List Char))
    (site next : Site) : Prop where
  stores : next.datastore = site.datastore
  downloaded : ∀ extent ∈ extents,
    next.pod (inDirectory tempDir extent) = site.datastore datastore (besides file extent)
  kept : ∀ path, (∀ extent ∈ extents, path ≠ inDirectory tempDir extent) →
    next.pod path = site.pod path

variable {tempDir : List Char} {extents : List (List Char)}

theorem downloadExtents_ensures {basePath : List Char}
    (hpaths : ∀ extent ∈ extents, parseDatastorePath (constructDatastorePath basePath extent) =
      .ok (datastore, besides file extent)) :
    (downloadExtents perform tempDir basePath extents).Ensures (formats.host zero disks)
      (fun err next log' => err = none → (∀ entry ∈ log', Fair entry) →
        Fetched tempDir datastore file extents site next) site log := by
  induction extents generalizing site log with
  | nil =>
    intro _ _
    exact ⟨rfl, (fun _ hmem => by cases hmem), fun _ _ => rfl⟩
  | cons extent rest ih =>
    obtain ⟨hpath, hrest⟩ := forall_mem_cons.mp hpaths
    rw [downloadExtents, perform_bind]
    intro ending created site₁ hcreated
    cases created with
    | some err => exact fun hnone => by cases hnone
    | none =>
      obtain rfl := answer_createFile hcreated
      simp only [downloadFile_eq hpath, perform_bind]
      intro ending answer site₂ hanswer
      cases answer with
      | some err =>
        -- The failed download stays in the log, which is not fair then.
        refine (ensures_suffix _).mono fun _ _ log' _ hlog _ hfair => ?_
        have hmem := hlog.subset (.head _)
        cases (hfair _ hmem : some err = none)
      | none =>
        obtain ⟨bytes, hbytes, rfl⟩ := answer_download hanswer
        refine (ih hrest).mono fun err next log' _ hfetched hnone hfair => ?_
        have hrest' := hfetched hnone hfair
        constructor
        · exact hrest'.stores
        · intro other hother
          by_cases hlater : other ∈ rest
          · exact hrest'.downloaded other hlater
          · obtain rfl := (mem_cons.mp hother).resolve_right hlater
            have hkept : ∀ later ∈ rest, inDirectory tempDir other ≠ inDirectory tempDir later := by
              intro later hmem heq
              have hname : '/' :: other = '/' :: later := append_cancel_left heq
              cases hname
              exact hlater hmem
            rw [hrest'.kept _ hkept]
            exact (Function.update_self _ _ _).trans hbytes.symm
        · intro path hpath
          obtain ⟨hne, hlater⟩ := forall_mem_cons.mp hpath
          rw [hrest'.kept path hlater]
          exact (Function.update_of_ne hne _ _).trans (Function.update_of_ne hne _ _)

theorem readExtents_ensures {tempFile : List Char} (hpod : site.pod tempFile = some text) :
    (readExtents perform tempFile).Ensures (formats.host zero disks)
      (fun extents next log' => next = site ∧ ((∀ entry ∈ log', Fair entry) →
        extents = listedExtents text ∧ ⟨.readFile tempFile, .ok text⟩ ∈ log')) site log := by
  unfold readExtents
  rw [perform_bind]
  intro ending answer next hanswer
  have hinv : next = site ∧ ∀ read, answer = .ok read → read = text := by
    simp only [Formats.host, Site.answer] at hanswer
    split at hanswer
    · cases hanswer
      exact ⟨rfl, fun read heq => by cases heq⟩
    · rw [hpod] at hanswer
      cases hanswer
      exact ⟨rfl, fun read heq => (Except.ok.inj heq).symm⟩
  obtain ⟨rfl, hread⟩ := hinv
  cases answer with
  | error err =>
    refine ⟨rfl, fun hfair => ?_⟩
    exact absurd (hfair _ (.head _)) id
  | ok read =>
    obtain rfl := hread read rfl
    have hok (hfair : Fair ⟨.readFile tempFile, .ok read⟩) :
        parseVMDKDescriptor read = .ok (listedExtents read) := hfair.1
    simp only []
    split
    · rename_i hparse
      exact ⟨rfl, fun hfair => by cases hparse.symm.trans (hok (hfair _ (.head _)))⟩
    · rename_i hparse
      refine ⟨rfl, fun hfair => ⟨?_, .head _⟩⟩
      exact Except.ok.inj (hparse.symm.trans (hok (hfair _ (.head _))))

/-- What holds of the file that a step answers. -/
def OnFile (P : List Char → Prop) : Except GrpcError (List Char) → Prop
  | .ok path => P path
  | .error _ => True

/-- A file of the pod shows this, and needs no other files. -/
def Site.Shows (site : Site) (formats : Formats n α) (format : DiskFormat) (shown : Fin n → α)
    (path : List Char) : Prop :=
  ∃ bytes, site.pod path = some bytes ∧ ∀ f, formats.decode format bytes f = some shown

theorem shows_of_convert (hpod : site.pod source = some main)
    (hshown : formats.decode .vmdk main (site.siblings source) = some shown)
    (hdest : "nfs://".toList.isPrefixOf dest = false)
    (h : (formats.host zero disks).answer site (.convert source dest format) ending =
      some (none, next)) : next.Shows formats format shown dest := by
  obtain ⟨bytes, hall, rfl⟩ := answer_convert hpod hshown h
  rw [if_neg (by rw [hdest]; decide)]
  exact ⟨bytes, Function.update_self _ _ _, hall⟩

/-- `flattenVMDK` and `exportLocalVMDKToNFS` convert if qemu-img is there. -/
theorem flattenVMDK_ensures {descriptor flattened : List Char}
    (hpod : site.pod descriptor = some text)
    (hshown : formats.decode .vmdk text (site.siblings descriptor) = some shown)
    (hdest : "nfs://".toList.isPrefixOf flattened = false) :
    (flattenVMDK perform descriptor flattened).Ensures (formats.host zero disks)
      (fun err next _ => err = none → next.Shows formats .vmdk shown flattened) site log := by
  unfold flattenVMDK
  rw [perform_bind]
  intro ending installed site₁ hinstalled
  cases hinstalled
  dsimp only
  split
  · rw [perform_bind]
    intro ending converted next hanswer hnone
    obtain rfl : converted = none := Option.map_eq_none_iff.mp hnone
    exact shows_of_convert hpod hshown hdest hanswer
  · exact nofun

variable (hlocal : ∀ name, "nfs://".toList.isPrefixOf (inDirectory tempDir name) = false)

include hlocal in
theorem makeUploadFile_ensures {tempFile : List Char} (hpod : site.pod tempFile = some text)
    (hshown : formats.decode .vmdk text (site.siblings tempFile) = some shown)
    (hextents : extents = [] → listedExtents text = []) :
    (makeUploadFile perform tempDir tempFile format extents).Ensures (formats.host zero disks)
      (fun result next _ => OnFile (next.Shows formats format shown) result) site log := by
  unfold makeUploadFile
  split
  · simp only [perform_bind]
    intro ending converted next hanswer
    cases converted with
    | some err => trivial
    | none => exact shows_of_convert hpod hshown (hlocal _) hanswer
  · rename_i hformat
    obtain rfl : format = .vmdk := not_not.mp hformat
    split
    · refine (flattenVMDK_ensures hpod hshown (hlocal _)).bind fun err next _ _ hflat => ?_
      cases err with
      | some err => trivial
      | none => exact hflat rfl
    · rename_i hnone
      have hlisted := hextents (not_not.mp hnone)
      refine ⟨text, hpod, fun f => ?_⟩
      rw [← hshown]
      refine formats.listed text _ _ fun name hname => ?_
      rw [hlisted] at hname
      cases hname

/-- The format of the staged object. -/
def stagedFormat (req : ExportDiskRequest) (format : DiskFormat) : DiskFormat :=
  if req.backendType = backendNFS then .qcow2 else format

/-- The staged object shows this. -/
def Site.Staged (site : Site) (formats : Formats n α) (format : DiskFormat)
    (shown : Fin n → α) : Prop :=
  ∃ bytes, site.staged = some bytes ∧ formats.decode format bytes (fun _ => none) = some shown

variable {req : ExportDiskRequest} {exportID : String}

variable (hnative : req.backendType = backendNFS → format = .vmdk ∧
  "nfs://".toList.isPrefixOf (Go.trimSpace req.destinationURL.toList) = true)

include hnative in
theorem deliver_ensures (hshows : site.Shows formats format shown path) :
    (deliver perform req exportID path).Ensures (formats.host zero disks)
      (fun result next _ => OnSuccess (next.Staged formats (stagedFormat req format) shown) result)
      site log := by
  obtain ⟨bytes, hpod, hdecode⟩ := hshows
  unfold deliver
  split
  · rename_i hnfs
    obtain ⟨rfl, hurl⟩ := hnative hnfs
    unfold exportLocalVMDKToNFS
    rw [ensures_bind, perform_bind]
    intro ending installed site₁ hinstalled
    cases hinstalled
    dsimp only
    split
    · rw [perform_bind]
      intro ending converted next hanswer
      cases converted with
      | some err => trivial
      | none =>
        obtain ⟨out, hall, rfl⟩ := answer_convert hpod (hdecode _) hanswer
        rw [if_pos hurl]
        refine ⟨out, rfl, ?_⟩
        unfold stagedFormat
        rw [if_pos hnfs]
        exact hall _
    · trivial
  · rename_i hnfs
    simp only [perform_bind]
    intro ending opened site₁ hopened
    cases hopened
    cases hopen : ending.error with
    | some err => trivial
    | none =>
      intro ending stated site₂ hstated
      cases hstated
      cases hstat : ending.error with
      | some err => trivial
      | none =>
        intro ending uploaded next hanswer
        cases uploaded with
        | error err => trivial
        | ok uploaded =>
          simp only [Formats.host, Site.answer] at hanswer
          split at hanswer
          · cases hanswer
          · rw [hpod] at hanswer
            cases hanswer
            refine ⟨bytes, rfl, ?_⟩
            unfold stagedFormat
            rw [if_neg hnfs]
            exact hdecode _

/-- Nothing that is downloaded takes the place of the descriptor. -/
def Unmixed : LogEntry → Prop
  | ⟨.readFile _, .ok text⟩ => "disk.vmdk".toList ∉ listedExtents text
  | _ => True

theorem siblings_eq (name : List Char) :
    site.siblings (inDirectory tempDir "disk.vmdk".toList) name =
      site.pod (inDirectory tempDir name) := by
  have hdirectory : Go.Path.directory (inDirectory tempDir "disk.vmdk".toList) =
      tempDir ++ ['/'] := by
    have hname : ∀ c ∈ "disk.vmdk".toList.reverse, decide (c ≠ '/') = true :=
      all_eq_true.mp rfl
    unfold Go.Path.directory inDirectory
    rw [rdropWhile, reverse_append, reverse_cons, append_assoc,
      dropWhile_append_of_pos hname]
    simp
  unfold Site.siblings besides
  rw [hdirectory, append_assoc]
  rfl

include hlocal hnative in
/-- If the copy shows something and the answers are fair, so does the staged object. -/
theorem stage_ensures (hparse : parseDatastorePath dest = .ok (datastore, file))
    (hextents : ∀ extent, Go.Trimmed extent → extent ≠ [] →
      parseDatastorePath (constructDatastorePath (extractDatastoreBasePath dest) extent) =
        .ok (datastore, besides file extent))
    (hcopy : site.contentOf formats datastore file = some shown) :
    (stage perform req format exportID tempDir dest).Ensures (formats.host zero disks)
      (fun result next log' => (∀ entry ∈ log', Fair entry ∧ Unmixed entry) →
        OnSuccess (next.Staged formats (stagedFormat req format) shown) result) site log := by
  obtain ⟨text, htext, hdecode⟩ := Option.bind_eq_some_iff.mp hcopy
  unfold stage
  simp only [perform_bind, downloadFile_eq hparse]
  intro ending created site₁ hcreated
  cases created with
  | some err => exact fun _ => trivial
  | none =>
    obtain rfl := answer_createFile hcreated
    intro ending downloaded site₂ hdownloaded
    cases downloaded with
    | some err => exact fun _ => trivial
    | none =>
      obtain ⟨bytes, hbytes, rfl⟩ := answer_download hdownloaded
      obtain rfl : bytes = text := Option.some.inj (hbytes.symm.trans htext)
      have hpod : ((site.write (inDirectory tempDir "disk.vmdk".toList) []).write
          (inDirectory tempDir "disk.vmdk".toList) bytes).pod
          (inDirectory tempDir "disk.vmdk".toList) = some bytes := Function.update_self _ _ _
      refine (readExtents_ensures hpod).bind fun extents site₃ log₃ hlog₃ hread => ?_
      obtain ⟨rfl, hread⟩ := hread
      refine ensures_of_all fun hfair => ?_
      obtain ⟨rfl, hmem⟩ := hread fun entry hentry => (hfair entry hentry).1
      obtain ⟨hreadable, hunmixed⟩ : Readable bytes ∧ "disk.vmdk".toList ∉ listedExtents bytes :=
        hfair _ hmem
      have hpaths : ∀ extent ∈ listedExtents bytes, parseDatastorePath
          (constructDatastorePath (extractDatastoreBasePath dest) extent) =
            .ok (datastore, besides file extent) := fun extent hextent =>
        hextents extent (hreadable.2 extent hextent) (extentFiles_ne_nil hextent)
      refine (downloadExtents_ensures hpaths).bind fun err site₄ log₄ _ hfetched => ?_
      cases err with
      | some err => exact fun _ => trivial
      | none =>
        refine ensures_of_all fun hfair₄ => ?_
        have hfetched' := hfetched rfl fun entry hentry => (hfair₄ entry hentry).1
        have hpod₄ : site₄.pod (inDirectory tempDir "disk.vmdk".toList) = some bytes := by
          rw [hfetched'.kept]
          · exact hpod
          · intro extent hextent heq
            have hname : '/' :: "disk.vmdk".toList = '/' :: extent := append_cancel_left heq
            rw [cons.inj hname |>.2] at hunmixed
            exact hunmixed hextent
        have hdecode₄ : formats.decode .vmdk bytes
            (site₄.siblings (inDirectory tempDir "disk.vmdk".toList)) = some shown := by
          rw [← hdecode]
          refine formats.listed bytes _ _ fun name hname => ?_
          rw [siblings_eq]
          exact hfetched'.downloaded name hname
        refine (makeUploadFile_ensures hlocal hpod₄ hdecode₄ id).bind
          fun made site₅ log₅ _ hmade => ?_
        cases made with
        | error err => exact fun _ => trivial
        | ok path => exact (deliver_ensures hnative hmade).mono fun _ _ _ _ hdone _ => hdone

theorem answer_copyVirtualDisk
    (h : (formats.host zero disks).answer site (.copyVirtualDisk source dest) ending =
      some (none, next)) :
    ∃ layers datastore file, (disks.flatMap VMDisk.entries).lookup source = some layers ∧
      parseDatastorePath dest = .ok (datastore, file) ∧
      next.contentOf formats datastore file = some (read zero layers) := by
  simp only [Formats.host, Site.answer] at h
  split at h
  · cases h
  · obtain ⟨result, hresult, heq⟩ := Option.map_eq_some_iff.mp h
    cases heq
    unfold Site.copy at hresult
    split at hresult
    · rename_i layers datastore file hlookup hparse
      simp only [] at hresult
      split at hresult
      · rename_i hshown
        cases hresult
        exact ⟨layers, datastore, file, hlookup, hparse, hshown⟩
      · cases hresult
    · cases hresult

include hlocal hnative in
theorem copyAndStage_ensures {layers : List (Layer n α)} (hvm : '/' ∉ req.vmId.toList)
    (hfolder : InFolder source)
    (hlookup : (disks.flatMap VMDisk.entries).lookup source = some layers) :
    (copyAndStage perform req format exportID tempDir source).Ensures (formats.host zero disks)
      (fun result next log' => (∀ entry ∈ log', Fair entry ∧ Unmixed entry) →
        OnSuccess (next.Staged formats (stagedFormat req format) (read zero layers)) result)
      site log := by
  obtain ⟨datastore, file, hparse, hcopies⟩ := hfolder.copy hvm
  unfold copyAndStage
  rw [hparse]
  simp only [perform_bind]
  intro ending time site₁ htime
  cases htime
  obtain ⟨dest, -, hparseDest, hextents⟩ := hcopies ending.time
  intro ending copied site₂ hcopied
  cases copied with
  | some err => exact fun _ => trivial
  | none =>
    obtain ⟨layers', datastore', file', hlookup', hparse', hcontent⟩ :=
      answer_copyVirtualDisk hcopied
    rw [hlookup] at hlookup'
    cases hlookup'
    rw [hparseDest] at hparse'
    cases hparse'
    refine (stage_ensures hlocal hnative hparseDest hextents hcontent).bind
      fun result site₃ log₃ _ hstaged => ?_
    intro ending deleted site₄ hdeleted hfair
    cases hdeleted
    exact hstaged fun entry hentry => hfair entry (.tail _ hentry)

theorem prepareStorage_ensures (req : ExportDiskRequest) :
    (prepareStorage perform req).Ensures (formats.host zero disks)
      (fun err _ _ => err = none → req.backendType = backendNFS →
        "nfs://".toList.isPrefixOf (Go.trimSpace req.destinationURL.toList) = true) site log := by
  unfold prepareStorage
  split
  · split
    · rename_i hurl
      exact fun _ _ => hurl
    · exact nofun
  · rename_i hnfs
    refine (ensures_suffix _).mono fun _ _ _ _ _ _ hbackend => ?_
    exact absurd hbackend hnfs

theorem exportFormat_native
    (h : exportFormat req = .ok format) (hnfs : req.backendType = backendNFS) : format = .vmdk := by
  unfold exportFormat at h
  simp only [hnfs, or_true, decide_true, if_true] at h
  repeat' split at h
  all_goals cases h
  all_goals rfl

theorem tempDirectory_local (exportID : String) (name : List Char) :
    "nfs://".toList.isPrefixOf (inDirectory (tempDirectory exportID) name) = false := rfl

theorem pickDisk_map {β γ : Type} (f : β → γ) (diskId : String) (disks : List β) :
    pickDisk diskId (disks.map f) = (pickDisk diskId disks).map f := by
  unfold pickDisk
  simp only []
  split
  · exact getElem?_map ..
  · rfl

/-- GetDiskInfo reports the disk that was picked. -/
theorem getDiskInfo_ensures {disk : VMDisk n α} (hdisk : pickDisk req.diskId disks = some disk) :
    (getDiskInfo perform req).Ensures (formats.host zero disks)
      (fun info _ log' => ∀ backing, info = .ok backing → backing = disk.backing ∧
        ⟨.getDisks req.vmId, .ok (disks.map VMDisk.backing)⟩ ∈ log') site log := by
  unfold getDiskInfo
  rw [perform_bind]
  intro ending answer next hanswer
  simp only [Formats.host, Site.answer] at hanswer
  split at hanswer
  · cases hanswer
    exact nofun
  · cases hanswer
    simp only [pickDisk_map, hdisk, Option.map_some]
    intro backing heq
    cases heq
    exact ⟨rfl, .head _⟩

/-- If the answers are fair, the staged object shows what the copied file shows. -/
theorem exporting_ensures {disk : VMDisk n α} (hvm : '/' ∉ req.vmId.toList)
    (hdistinct : ((disks.flatMap VMDisk.entries).map Prod.fst).Nodup)
    (hdisk : pickDisk req.diskId disks = some disk) :
    (exporting req).Ensures (formats.host zero disks)
      (fun result next log' => (∀ entry ∈ log', Fair entry ∧ Unmixed entry) →
        OnSuccess (∃ format, exportFormat req = .ok format ∧
          next.Staged formats (stagedFormat req format) (disk.copied zero)) result) site [] := by
  obtain ⟨layers, hentry, hcopied⟩ := disk.copied_entry zero
  have hmem : disk ∈ disks := pickDisk_mem hdisk
  have hlookup : (disks.flatMap VMDisk.entries).lookup (sourceDisk disk.backing) = some layers :=
    lookup_of_mem hdistinct (mem_flatMap.mpr ⟨disk, hmem, hentry⟩)
  unfold exporting exportDisk
  split
  · exact fun _ => trivial
  · refine (getDiskInfo_ensures hdisk).bind fun info site₁ log₁ _ hinfo => ?_
    cases info with
    | error err => exact fun _ => trivial
    | ok backing =>
      obtain ⟨rfl, hgot⟩ := hinfo backing rfl
      simp only []
      split
      · exact fun _ => trivial
      · rename_i format hformat
        rw [perform_bind]
        intro ending time site₂ htime
        cases htime
        refine (prepareStorage_ensures req).bind fun prepared site₃ log₃ hlog₃ hprepared => ?_
        cases prepared with
        | some err => exact fun _ => trivial
        | none =>
          have hnative := fun hnfs =>
            And.intro (exportFormat_native hformat hnfs) (hprepared rfl hnfs)
          simp only [perform_bind]
          intro ending made site₄ hmade
          cases hmade
          cases ending.error with
          | some err => exact fun _ => trivial
          | none =>
            refine ensures_of_all fun hfair => ?_
            have hfolders : ∀ backing ∈ disks.map VMDisk.backing, InFolder (sourceDisk backing) :=
              (hfair _ (.tail _ (hlog₃.subset (.tail _ hgot)))).1
            have hfolder := hfolders _ (mem_map_of_mem hmem)
            refine (copyAndStage_ensures (tempDirectory_local _) hnative hvm hfolder hlookup).bind
              fun result site₅ log₅ _ hstaged => ?_
            intro ending removed site₆ hremoved hfair
            cases hremoved
            have hdone := hstaged fun entry hentry => hfair entry (.tail _ hentry)
            exact hdone.imp fun hstaged => ⟨format, hformat, hcopied ▸ hstaged⟩

omit [DecidableEq α] in
/-- There is one staged object, and it shows one thing. -/
theorem Site.Staged.unique {format : DiskFormat} {shown shown' : Fin n → α}
    (h : site.Staged formats format shown) (h' : site.Staged formats format shown') :
    shown' = shown := by
  obtain ⟨bytes, hstaged, hshown⟩ := h
  obtain ⟨bytes', hstaged', hshown'⟩ := h'
  rw [hstaged] at hstaged'
  cases hstaged'
  rw [hshown] at hshown'
  exact (Option.some.inj hshown').symm

end Staging

namespace Sample

/-! Disks of two blocks. A file of two characters is an image, and a descriptor shows what
its first extent shows. -/

def image : Bytes → Option (Fin 2 → Char)
  | [a, b] => some fun i => if i = 0 then a else b
  | _ => none

def formats : Formats 2 Char where
  decode _ text files :=
    match listedExtents text with
    | [] => image text
    | extent :: _ => (files extent).bind image
  selfContained _ bytes := (listedExtents bytes).isEmpty
  listed := by
    intro text f g h
    cases hlisted : listedExtents text with
    | nil => rfl
    | cons extent rest =>
      rw [hlisted] at h
      simp only [h extent List.mem_cons_self]
  alone := by
    intro format bytes f g h
    rw [List.isEmpty_iff] at h
    simp only [h]

/-- A disk with one snapshot, and a block that was written since. -/
def written : VMDisk 2 Char where
  base := fun _ => some 'a'
  events := [.snapshot "s1", .write 0 'b']
  files := ["[nvme] web/web-000001.vmdk".toList, "[nvme] web/web.vmdk".toList]
  named := rfl
  paths := by decide

/-- A disk with two snapshots, and a block that was written between them. -/
def twice : VMDisk 2 Char where
  base := fun _ => some 'a'
  events := [.snapshot "s1", .write 0 'b', .snapshot "s2"]
  files := ["[nvme] web/web-000002.vmdk".toList, "[nvme] web/web-000001.vmdk".toList,
    "[nvme] web/web.vmdk".toList]
  named := rfl
  paths := by decide

def copyText : Bytes := "RW 8 VMFS \"copy-flat.vmdk\"".toList

/-- What the copy writes to the datastore. -/
def copyFiles (blocks : String) : List (List Char × Bytes) :=
  [("web/virtrigaud-export-vm-7-0.vmdk".toList, copyText),
    ("web/copy-flat.vmdk".toList, blocks.toList)]

/-- Every operation succeeds; the copy and the flattened file hold these blocks. -/
def endings (blocks : String) : List Ending :=
  replicate 18 { files := copyFiles blocks, bytes := blocks.toList }

def stagingRequest (snapshotId : String) : ExportDiskRequest := { request with snapshotId }

/-- The export of a VM with one disk. -/
def staged (disk : VMDisk 2 Char) (snapshotId blocks : String) :
    Option (Outcome Call Answer Site (Except GrpcError ExportDiskResponse)) :=
  (exporting (stagingRequest snapshotId)).run (formats.host '0' [disk])
    { datastore := fun _ _ => none } [] (endings blocks)

end Sample

open Export.Sample

namespace Sample

theorem unmixed_of_fairEntry {backing : DiskBacking} {entry : LogEntry}
    (htext : "disk.vmdk".toList ∉ listedExtents text) (h : fairEntry backing text entry = true) :
    Unmixed entry := by
  unfold Unmixed
  split
  · rw [of_decide_eq_true h]
    exact htext
  · trivial

theorem written_inFolder : InFolder (sourceDisk written.backing) :=
  ⟨"nvme".toList, ["web".toList], "web.vmdk".toList, by decide, by decide, by decide, by decide,
    by decide⟩

theorem copyText_readable : Readable copyText := ⟨by rfl, by decide +kernel⟩

end Sample

end Virtrigaud.Vsphere.Export
