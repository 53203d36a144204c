import Virtrigaud.Effects.Ensures
import Virtrigaud.Providers.Vsphere.Export

/-!
# Which files ExportDisk downloads

A successful ExportDisk should have read the descriptor of the copy and downloaded every
extent file it lists from the directory of the descriptor. It does when the source is in
a folder, the descriptor can be read and lists writable extents only, and no download
fails. A read-only extent, a descriptor that the scanner gives up on, a failed download
and a copy at the root of a datastore all go unnoticed.
-/

namespace Virtrigaud.Vsphere.Export

open Effects Program List Go.Path

abbrev LogEntry : Type := Event Call Answer

def exporting (req : ExportDiskRequest) :
    Program Call Answer (Except GrpcError ExportDiskResponse) :=
  exportDisk perform req

/-- A file was downloaded in full. -/
def Downloaded (log : List LogEntry) (datastore file : List Char) : Prop :=
  ∃ path, ⟨.download datastore file path, none⟩ ∈ log

/-- The extent file in the directory of the descriptor. -/
def besides (descriptor extent : List Char) : List Char := directory descriptor ++ extent

/-- The copy was downloaded, its descriptor was read, and every extent file it lists was
downloaded from its own directory. -/
def Complete (log : List LogEntry) : Prop :=
  ∃ source datastore file path text,
    ⟨.copyVirtualDisk source (datastorePath datastore file), none⟩ ∈ log ∧
    ⟨.download datastore file path, none⟩ ∈ log ∧ ⟨.readFile path, .ok text⟩ ∈ log ∧
    ∀ extent ∈ listedExtents text, Downloaded log datastore (besides file extent)

/-- A file in a folder of a datastore, without unusual names on its way. -/
def InFolder (path : List Char) : Prop :=
  ∃ datastore parts name, path = datastorePath datastore (render (parts ++ [name])) ∧
    ']' ∉ datastore ∧ '/' ∉ datastore ∧ parts ≠ [] ∧
    (∀ part ∈ parts ++ [name], Ordinary part ∧ Go.Trimmed part)

/-- A descriptor that the parser reads as the format means it. -/
def Readable (text : List Char) : Prop :=
  parseVMDKDescriptor text = .ok (listedExtents text) ∧
    ∀ extent ∈ listedExtents text, Go.Trimmed extent

/-- The answers under which nothing goes unnoticed. -/
def Fair : LogEntry → Prop
  | ⟨.getDisks _, .ok disks⟩ => ∀ disk ∈ disks, InFolder (sourceDisk disk)
  | ⟨.download _ _ _, answer⟩ => answer = none
  | ⟨.readFile _, .ok text⟩ => Readable text
  | ⟨.readFile _, .error _⟩ => False
  | _ => True

theorem tempDiskName_ordinary {vmId : String} (h : '/' ∉ vmId.toList) (time : Int) :
    Ordinary (tempDiskName vmId time) ∧ Go.Trimmed (tempDiskName vmId time) := by
  have htime : '/' ∉ (Go.formatInt time).toList := Go.not_mem_formatInt (by decide) rfl
  have hhead : (tempDiskName vmId time).head? = some 'v' :=
    head?_append_of_ne_nil _ (by decide)
  have hne : ∀ other : List Char, other.head? ≠ some 'v' → tempDiskName vmId time ≠ other :=
    fun other hother heq => hother (heq ▸ hhead)
  refine ⟨⟨hne [] (by decide), hne ['.'] (by decide), hne ['.', '.'] (by decide), ?_⟩, ?_⟩
  · refine not_mem_append (by decide) (not_mem_append ?_ (by decide))
    exact not_mem_append h (not_mem_cons_of_ne_of_not_mem (by decide) htime)
  · have hfront : Go.Trimmed "virtrigaud-export-".toList := by decide
    have hback : Go.Trimmed ".vmdk".toList := by decide
    exact hfront.append (by decide) hback (by decide) _

section Folder

variable {datastore name : List Char} {parts : List (List Char)} {vmId : String}

/-- The copy of a disk in a folder is made in the folder. -/
theorem copyPath_eq (hne : parts ≠ []) (hparts : ∀ part ∈ parts, Ordinary part)
    (hname : '/' ∉ name) (hvm : '/' ∉ vmId.toList) (time : Int) :
    copyPath vmId time datastore (render (parts ++ [name])) =
      datastorePath datastore (render (parts ++ [tempDiskName vmId time])) := by
  unfold copyPath
  rw [dir_render hne hparts hname,
    join_render hne hparts (tempDiskName_ordinary hvm time).1]

theorem head?_render_append (hne : parts ≠ []) (hparts : ∀ part ∈ parts, Ordinary part)
    (rest : List Char) : (render parts ++ rest).head? ≠ some '/' := by
  rw [head?_append_of_ne_nil _ (render_ne_nil hne hparts)]
  exact head?_render hparts

/-- The path of an extent file is in the folder of the descriptor. -/
theorem parse_extentPath (hbracket : ']' ∉ datastore) (hslash : '/' ∉ datastore) (hne : parts ≠ [])
    (hparts : ∀ part ∈ parts, Ordinary part ∧ Go.Trimmed part) (hname : '/' ∉ name)
    {extent : List Char} (htrim : Go.Trimmed extent) (hextent : extent ≠ []) :
    parseDatastorePath (constructDatastorePath
      (extractDatastoreBasePath (datastorePath datastore (render (parts ++ [name]))))
      extent) = .ok (datastore, besides (render (parts ++ [name])) extent) := by
  have hordinary : ∀ part ∈ parts, Ordinary part := fun part hpart => (hparts part hpart).1
  have hrender : Go.Trimmed (render parts) :=
    trimmed_render hne hordinary fun part hpart => (hparts part hpart).2
  have hfile : Go.Trimmed (render parts ++ (['/'] ++ extent)) :=
    hrender.append (render_ne_nil hne hordinary) htrim hextent ['/']
  have hbesides : besides (render (parts ++ [name])) extent =
      render parts ++ (['/'] ++ extent) := by
    unfold besides
    rw [directory_render hne hname, append_assoc]
  rw [extractDatastoreBasePath_eq hslash hne hordinary hname,
    construct_datastorePath hbracket hrender (render_ne_nil hne hordinary), hbesides]
  exact parse_datastorePath hbracket hfile (head?_render_append hne hordinary _)

/-- A path of ordinary components is read back. -/
theorem parse_render (hbracket : ']' ∉ datastore)
    (hparts : ∀ part ∈ parts ++ [name], Ordinary part ∧ Go.Trimmed part) :
    parseDatastorePath (datastorePath datastore (render (parts ++ [name]))) =
      .ok (datastore, render (parts ++ [name])) := by
  refine parse_datastorePath hbracket ?_ ?_
  · exact trimmed_render (by simp) (fun part hpart => (hparts part hpart).1)
      fun part hpart => (hparts part hpart).2
  · exact head?_render fun part hpart => (hparts part hpart).1

/-- The copy of a disk in a folder, and the extent files next to it. -/
theorem InFolder.copy {source : List Char} (h : InFolder source) (hvm : '/' ∉ vmId.toList) :
    ∃ datastore file, parseDatastorePath source = .ok (datastore, file) ∧
      ∀ time, ∃ dest, copyPath vmId time datastore file = datastorePath datastore dest ∧
        parseDatastorePath (copyPath vmId time datastore file) = .ok (datastore, dest) ∧
        ∀ extent, Go.Trimmed extent → extent ≠ [] →
          parseDatastorePath (constructDatastorePath
            (extractDatastoreBasePath (copyPath vmId time datastore file)) extent) =
              .ok (datastore, besides dest extent) := by
  obtain ⟨datastore, parts, name, rfl, hbracket, hslash, hne, hparts⟩ := h
  have hordinary : ∀ part ∈ parts, Ordinary part ∧ Go.Trimmed part :=
    fun part hpart => hparts part (mem_append_left _ hpart)
  have hname : '/' ∉ name := (hparts name (mem_append_right _ (.head _))).1.2.2.2
  refine ⟨datastore, _, parse_render hbracket hparts, fun time => ?_⟩
  have htemp := tempDiskName_ordinary hvm time
  rw [copyPath_eq hne (fun part hpart => (hordinary part hpart).1) hname hvm time]
  refine ⟨render (parts ++ [tempDiskName vmId time]), rfl, ?_, ?_⟩
  · apply parse_render hbracket
    exact forall_mem_append.mpr ⟨hordinary, forall_mem_singleton.mpr htemp⟩
  · intro extent htrim hextent
    exact parse_extentPath hbracket hslash hne hordinary htemp.1.2.2.2 htrim hextent

end Folder

/-- Calls are unrestricted: only the log matters here. -/
def Free (_ : List LogEntry) (_ : Call) : Prop := True

/-- What holds if the export succeeds. -/
def OnSuccess (P : Prop) : Except GrpcError ExportDiskResponse → Prop
  | .ok _ => P
  | .error _ => True

theorem OnSuccess.imp {P Q : Prop} {result : Except GrpcError ExportDiskResponse}
    (h : OnSuccess P result) (himp : P → Q) : OnSuccess Q result := by
  cases result with
  | ok resp => exact himp h
  | error err => trivial

/-- A download of the file at a datastore path was tried, if the path is one. -/
def Tried (log : List LogEntry) (path : List Char) : Prop :=
  ∀ datastore file, parseDatastorePath path = .ok (datastore, file) →
    ∃ dest answer, ⟨.download datastore file dest, answer⟩ ∈ log

variable {log log' : List LogEntry}

theorem Tried.mono {path : List Char} (h : Tried log path) (hsub : log ⊆ log') :
    Tried log' path := by
  intro datastore file hparse
  obtain ⟨dest, answer, hmem⟩ := h datastore file hparse
  exact ⟨dest, answer, hsub hmem⟩

theorem downloadFile_obeys (path dest : List Char) :
    (downloadFile perform path dest).Obeys Free
      (fun answer log' => Tried log' path ∧ (answer = none → ∃ datastore file,
        parseDatastorePath path = .ok (datastore, file) ∧
          ⟨.download datastore file dest, none⟩ ∈ log')) log := by
  unfold downloadFile
  split
  · rename_i err hparse
    refine ⟨?_, nofun⟩
    intro datastore file hok
    rw [hparse] at hok
    cases hok
  · rename_i datastore file hparse
    refine ⟨trivial, fun answer => ⟨?_, ?_⟩⟩
    · intro datastore' file' hok
      rw [hparse] at hok
      cases hok
      exact ⟨dest, answer, .head _⟩
    · intro hnone
      subst hnone
      exact ⟨datastore, file, hparse, .head _⟩

theorem downloadExtents_obeys (tempDir basePath : List Char) (extents : List (List Char)) :
    (downloadExtents perform tempDir basePath extents).Obeys Free (fun err log' => err = none →
        ∀ extent ∈ extents, Tried log' (constructDatastorePath basePath extent)) log := by
  induction extents generalizing log with
  | nil => exact nofun
  | cons extent rest ih =>
    rw [downloadExtents, perform_bind]
    refine ⟨trivial, fun created => ?_⟩
    cases created with
    | some err => exact nofun
    | none =>
      refine (downloadFile_obeys _ _).bind fun _ log₁ _ htried => ?_
      refine ih.mono fun err log₂ hlog hrest hnone => ?_
      exact forall_mem_cons.mpr ⟨htried.1.mono hlog.subset, hrest hnone⟩

/-- The extents are those that the parser found in what was read. -/
def Parsed (log : List LogEntry) (tempFile : List Char) (extents : List (List Char)) : Prop :=
  (∃ err, ⟨.readFile tempFile, .error err⟩ ∈ log) ∨
    ∃ text, ⟨.readFile tempFile, .ok text⟩ ∈ log ∧
      ∀ found, parseVMDKDescriptor text = .ok found → extents = found

theorem Parsed.mono {tempFile : List Char}
    {extents : List (List Char)} (h : Parsed log tempFile extents) (hsub : log ⊆ log') :
    Parsed log' tempFile extents := by
  rcases h with ⟨err, hmem⟩ | ⟨text, hmem, hfound⟩
  · exact .inl ⟨err, hsub hmem⟩
  · exact .inr ⟨text, hsub hmem, hfound⟩

theorem readExtents_obeys (tempFile : List Char) :
    (readExtents perform tempFile).Obeys Free
      (fun extents log' => Parsed log' tempFile extents) log := by
  unfold readExtents
  rw [perform_bind]
  refine ⟨trivial, fun answer => ?_⟩
  cases answer with
  | error err => exact .inl ⟨err, .head _⟩
  | ok text =>
    simp only []
    split
    · rename_i err hparse
      refine .inr ⟨text, .head _, fun found hfound => ?_⟩
      rw [hparse] at hfound
      cases hfound
    · rename_i extents hparse
      refine .inr ⟨text, .head _, fun found hfound => ?_⟩
      rw [hparse] at hfound
      exact Except.ok.inj hfound

/-- The copy at `dest` was downloaded and read, and its extents were tried. -/
def Staged (log : List LogEntry) (dest : List Char) : Prop :=
  ∃ datastore file tempFile extents, parseDatastorePath dest = .ok (datastore, file) ∧
    ⟨.download datastore file tempFile, none⟩ ∈ log ∧ Parsed log tempFile extents ∧
    ∀ extent ∈ extents, Tried log (constructDatastorePath (extractDatastoreBasePath dest) extent)

theorem Staged.mono {dest : List Char} (h : Staged log dest)
    (hsub : log ⊆ log') : Staged log' dest := by
  obtain ⟨datastore, file, tempFile, extents, hparse, hmem, hparsed, htried⟩ := h
  exact ⟨datastore, file, tempFile, extents, hparse, hsub hmem, hparsed.mono hsub,
    fun extent hextent => (htried extent hextent).mono hsub⟩

/-- Whatever a program does, it keeps what the log shows. -/
theorem obeys_of_log {α : Type} {P : List LogEntry → Prop} (p : Program Call Answer α)
     (h : P log) (hmono : ∀ log', log ⊆ log' → P log') :
    p.Obeys Free (fun _ log' => P log') log := by
  induction p generalizing log with
  | done a => exact h
  | call c next ih =>
    refine ⟨trivial, fun r => ih r (hmono _ (subset_cons_self _ _)) ?_⟩
    exact fun log' hsub => hmono log' (Subset.trans (subset_cons_self _ _) hsub)

theorem stage_obeys (req : ExportDiskRequest) (format : DiskFormat) (exportID : String)
    (tempDir dest : List Char) :
    (stage perform req format exportID tempDir dest).Obeys Free
      (fun result log' => OnSuccess (Staged log' dest) result) log := by
  unfold stage
  simp only [perform_bind]
  refine ⟨trivial, fun created => ?_⟩
  cases created with
  | some err => trivial
  | none =>
    refine (downloadFile_obeys _ _).bind fun answer log₁ _ hdownload => ?_
    cases answer with
    | some err => trivial
    | none =>
      obtain ⟨datastore, file, hparse, hmem⟩ := hdownload.2 rfl
      refine (readExtents_obeys _).bind fun extents log₂ hlog₂ hparsed => ?_
      refine (downloadExtents_obeys _ _ extents).bind fun err log₃ hlog₃ htried => ?_
      cases err with
      | some err => trivial
      | none =>
        have hstaged : Staged log₃ dest :=
          ⟨datastore, file, _, extents, hparse, hlog₃.subset (hlog₂.subset hmem),
            hparsed.mono hlog₃.subset, htried rfl⟩
        refine (obeys_of_log (P := fun log => Staged log dest) _ hstaged
          fun _ hsub => hstaged.mono hsub).mono ?_
        intro result log' _ hstaged'
        cases result with
        | ok resp => exact hstaged'
        | error err => trivial

/-- The source was copied and the copy staged. -/
def Copied (log : List LogEntry) (vmId : String) (source : List Char) : Prop :=
  ∃ datastore file time, parseDatastorePath source = .ok (datastore, file) ∧
    ⟨.copyVirtualDisk source (copyPath vmId time datastore file), none⟩ ∈ log ∧
    Staged log (copyPath vmId time datastore file)

theorem Copied.mono {vmId : String} {source : List Char}
    (h : Copied log vmId source) (hsub : log ⊆ log') : Copied log' vmId source := by
  obtain ⟨datastore, file, time, hparse, hmem, hstaged⟩ := h
  exact ⟨datastore, file, time, hparse, hsub hmem, hstaged.mono hsub⟩

theorem copyAndStage_obeys (req : ExportDiskRequest) (format : DiskFormat) (exportID : String)
    (tempDir source : List Char) :
    (copyAndStage perform req format exportID tempDir source).Obeys Free
      (fun result log' => OnSuccess (Copied log' req.vmId source) result) log := by
  unfold copyAndStage
  split
  · trivial
  · rename_i datastore file hparse
    rw [perform_bind]
    refine ⟨trivial, fun time => ?_⟩
    simp only [perform_bind]
    refine ⟨trivial, fun copied => ?_⟩
    cases copied with
    | some err => trivial
    | none =>
      refine (stage_obeys req format exportID tempDir _).bind fun result log' hlog hstaged => ?_
      refine ⟨trivial, fun _ => hstaged.imp fun hstaged => ?_⟩
      exact ⟨datastore, file, time, hparse, .tail _ (hlog.subset (.head _)),
        hstaged.mono (subset_cons_self _ _)⟩

/-- What the log of a successful export shows. -/
def Exported (log : List LogEntry) (req : ExportDiskRequest) : Prop :=
  ∃ disks disk, ⟨.getDisks req.vmId, .ok disks⟩ ∈ log ∧ disk ∈ disks ∧
    Copied log req.vmId (sourceDisk disk)

theorem pickDisk_mem {β : Type} {diskId : String} {disks : List β} {disk : β}
    (h : pickDisk diskId disks = some disk) : disk ∈ disks := by
  unfold pickDisk at h
  simp only [] at h
  split at h
  · exact mem_of_getElem? h
  · cases h

/-- The disk that GetDiskInfo answers is one of the VM. -/
def Picked (log : List LogEntry) (vmId : String) (disk : DiskBacking) : Prop :=
  ∃ disks, ⟨.getDisks vmId, .ok disks⟩ ∈ log ∧ disk ∈ disks

theorem getDiskInfo_obeys (req : ExportDiskRequest) :
    (getDiskInfo perform req).Obeys Free (fun answer log' =>
      ∀ disk, answer = .ok disk → Picked log' req.vmId disk) log := by
  unfold getDiskInfo
  rw [perform_bind]
  refine ⟨trivial, fun answer => ?_⟩
  cases answer with
  | error err => exact fun disk heq => by cases heq
  | ok disks =>
    simp only []
    split
    · exact fun disk heq => by cases heq
    · rename_i disk hpick
      intro disk' heq
      cases heq
      exact ⟨disks, .head _, pickDisk_mem hpick⟩

theorem exporting_obeys (req : ExportDiskRequest) :
    (exporting req).Obeys Free (fun result log => OnSuccess (Exported log req) result) [] := by
  unfold exporting exportDisk
  split
  · trivial
  · refine (getDiskInfo_obeys req).bind fun info log₁ _ hinfo => ?_
    cases info with
    | error err => trivial
    | ok disk =>
      obtain ⟨disks, hgot, hdisk⟩ := hinfo disk rfl
      simp only []
      split
      · trivial
      · rename_i format _
        rw [perform_bind]
        refine ⟨trivial, fun time => ?_⟩
        refine (obeys_of_log (P := fun _ => True) _ trivial fun _ _ => trivial).bind
          fun prepared log₂ hlog₂ _ => ?_
        cases prepared with
        | some err => trivial
        | none =>
          simp only [perform_bind]
          refine ⟨trivial, fun made => ?_⟩
          cases made with
          | some err => trivial
          | none =>
            refine (copyAndStage_obeys req format _ _ _).bind fun result log₃ hlog₃ hcopied => ?_
            refine ⟨trivial, fun _ => hcopied.imp fun hcopied => ?_⟩
            have hgot' : ⟨.getDisks req.vmId, .ok disks⟩ ∈ log₃ :=
              hlog₃.subset (.tail _
                (hlog₂.subset (.tail _ hgot)))
            exact ⟨disks, disk, .tail _ hgot', hdisk,
              hcopied.mono (subset_cons_self _ _)⟩

/-- From a folder and with fair answers, what was tried was downloaded. -/
theorem complete_of_exported {req : ExportDiskRequest}
    (h : Exported log req) (hvm : '/' ∉ req.vmId.toList) (hfair : ∀ entry ∈ log, Fair entry) :
    Complete log := by
  obtain ⟨disks, disk, hgot, hdisk, datastore, file, time, hparse, hcopy, hstaged⟩ := h
  have hfolders : ∀ disk ∈ disks, InFolder (sourceDisk disk) := hfair _ hgot
  obtain ⟨datastore', file', hparse', hcopies⟩ := (hfolders disk hdisk).copy hvm
  rw [hparse] at hparse'
  cases hparse'
  obtain ⟨dest, hdest, hparseDest, hextents⟩ := hcopies time
  rw [hdest] at hcopy
  obtain ⟨ds, descriptor, tempFile, extents, hds, hdownload, hparsed, htried⟩ := hstaged
  rw [hparseDest] at hds
  cases hds
  rcases hparsed with ⟨err, hread⟩ | ⟨text, hread, hfound⟩
  · exact absurd (hfair _ hread) id
  · have hreadable : Readable text := hfair _ hread
    refine ⟨_, _, _, tempFile, text, hcopy, hdownload, hread, ?_⟩
    intro extent hextent
    rw [hfound _ hreadable.1] at htried
    obtain ⟨path, answer, hmem⟩ := htried extent hextent _ _
      (hextents extent (hreadable.2 extent hextent) (extentFiles_ne_nil hextent))
    have hnone : answer = none := hfair _ hmem
    subst hnone
    exact ⟨path, hmem⟩

namespace Sample

/-! A VM whose disk is in a folder, and vCenter, pod and S3 answering as scripted. -/

/-- Every call is answered by the script. -/
def host : Host Call Answer Unit ((c : Call) → Option (Answer c)) :=
  ⟨fun _ c script => (script c).map (·, ())⟩

def request : ExportDiskRequest := { vmId := "vm-7", destinationURL := "pvc://staging/web.vmdk" }

def disk : DiskBacking := .flatVer2 "[nvme] web/web.vmdk".toList none

/-- The descriptor of the copy: two extents with these access modes. -/
def descriptor (first second : String) : List Char :=
  ("# Disk DescriptorFile\n" ++ first ++ " 8 VMFS \"copy-flat.vmdk\"\n" ++
    second ++ " 8 VMFS \"copy-data.vmdk\"\n").toList

/-- Everything succeeds, but the download of the files for which `fails` holds. -/
def script (text : List Char) (fails : List Char → Bool) : (c : Call) → Option (Answer c)
  | .getDisks _ => some (.ok [disk])
  | .now => some (100 : Int)
  | .s3Config _ _ => some none
  | .newStorage => some none
  | .makeDirectory _ => some none
  | .removeDirectory _ => some none
  | .copyVirtualDisk _ _ => some none
  | .deleteDatastoreFile _ => some none
  | .createFile _ => some none
  | .download _ file _ =>
    some (if fails file then some (errorf "503 Service Unavailable") else none)
  | .readFile _ => some (.ok text)
  | .qemuImgInstalled => some true
  | .convert _ _ _ => some none
  | .openFile _ => some none
  | .statFile _ => some none
  | .upload _ _ => some (.ok ⟨"c0ffee", 4096⟩)

/-- The run with this script, one call after the other. -/
def exported (text : List Char) (fails : List Char → Bool) (calls : Nat) :
    Option (Outcome Call Answer Unit (Except GrpcError ExportDiskResponse)) :=
  (exporting request).run host () [] (replicate calls (script text fails))

/-- Nothing whose name ends like this was downloaded, and nothing but `text` was read. -/
def withoutFile (name text : List Char) (log : List LogEntry) : Bool :=
  log.all fun
    | ⟨.download _ file _, none⟩ => !name.isSuffixOf file
    | ⟨.readFile _, .ok read⟩ => read = text
    | _ => true

theorem not_complete {log : List LogEntry} {name text : List Char}
    (h : withoutFile name text log = true) (hlisted : name ∈ listedExtents text) :
    ¬ Complete log := by
  intro hcomplete
  obtain ⟨source, datastore, file, path, read, -, -, hread, hall⟩ := hcomplete
  have hentries := all_eq_true.mp h
  have htext : read = text := of_decide_eq_true (hentries _ hread)
  obtain ⟨dest, hmem⟩ := hall name (htext ▸ hlisted)
  have hsuffix : (!name.isSuffixOf (besides file name)) = true := hentries _ hmem
  have hends : name.isSuffixOf (besides file name) = true :=
    isSuffixOf_iff_suffix.mpr (suffix_append _ name)
  rw [hends] at hsuffix
  cases hsuffix

end Sample

open Export.Sample

namespace Sample

/-- The answers of a run in which no download fails, for this disk and descriptor. -/
def fairEntry (disk : DiskBacking) (text : List Char) : LogEntry → Bool
  | ⟨.getDisks _, .ok disks⟩ => disks = [disk]
  | ⟨.download _ _ _, answer⟩ => answer = none
  | ⟨.readFile _, .ok read⟩ => read = text
  | ⟨.readFile _, .error _⟩ => false
  | _ => true

theorem fair_of_fairEntry {disk : DiskBacking} {text : List Char} {entry : LogEntry}
    (hfolder : InFolder (sourceDisk disk)) (hreadable : Readable text)
    (h : fairEntry disk text entry = true) : Fair entry := by
  unfold fairEntry at h
  unfold Fair
  split at h
  · intro found hfound
    rw [of_decide_eq_true h, mem_singleton] at hfound
    rw [hfound]
    exact hfolder
  · exact of_decide_eq_true h
  · rw [of_decide_eq_true h]
    exact hreadable
  · cases h
  · trivial

theorem disk_inFolder : InFolder (sourceDisk disk) :=
  ⟨"nvme".toList, ["web".toList], "web.vmdk".toList, by decide, by decide, by decide, by decide,
    by decide⟩

theorem descriptor_readable : Readable (descriptor "RW" "RW") :=
  ⟨by rfl, by decide +kernel⟩

end Sample

end Virtrigaud.Vsphere.Export
