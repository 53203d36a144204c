import Virtrigaud.Go.Strings

/-!
# What the libvirt provider reads out of a domain's XML

`virsh dumpxml` is scanned line by line for `<source file=…>`; the surrounding
elements are not looked at. Below the scan is the text that is printed for a domain, and what
the scan finds in it: the files of all sources in their order, nested ones included, as they are
written in XML.
-/

namespace Virtrigaud.Libvirt

open List

/-- The file named on a line: what follows `file='`, or else `file="`, up to a quote. -/
def sourceFile (line : List Char) : Option (List Char) :=
  match Go.afterFirst "file='".toList line with
  | some rest => Go.beforeAny (fun c => c = '"' || c = '\'') rest
  | none =>
    match Go.afterFirst "file=\"".toList line with
    | some rest => Go.beforeAny (fun c => c = '"' || c = '\'') rest
    | none => none

def hasSource (line : List Char) : Bool := Go.contains line "<source file=".toList

/-- A name that passes for that of a cloud-init ISO in the scan for disks. -/
def seedFile (path : List Char) : Bool :=
  "-cidata.iso".toList.isSuffixOf path || "cloud-init.iso".toList.isSuffixOf path

/-- A line that `getDomainDiskPaths` takes for a disk, with its file. -/
def diskPath (line : List Char) : Option (List Char) :=
  if hasSource line && !Go.contains line "device='disk'".toList then
    (sourceFile line).filter fun path => !seedFile path
  else none

/-- The scan of `getDomainDiskPaths`. -/
def domainDiskPaths (xml : List Char) : List (List Char) :=
  (Go.lines xml).filterMap fun line => diskPath (Go.trimSpace line)

/-- A file that `getCloudInitISOPath` takes for a cloud-init ISO. -/
def isCloudInitISO (path : List Char) : Bool :=
  "cloud-init.iso".toList.isSuffixOf path || Go.contains path "virtrigaud-cloudinit".toList

/-- A line that `getCloudInitISOPath` takes for the cloud-init ISO, with its file. -/
def cloudInitPath (line : List Char) : Option (List Char) :=
  if hasSource line then (sourceFile line).filter isCloudInitISO else none

/-- The scan of `getCloudInitISOPath`; the empty path if there is none. -/
def cloudInitISOPath (xml : List Char) : List Char :=
  ((Go.lines xml).findSome? fun line => cloudInitPath (Go.trimSpace line)).getD []

/-- Text on one line. -/
abbrev Line : Type := { text : List Char // '\n' ∉ text }

def Line.empty : Line := ⟨[], not_mem_nil⟩

/-- How a character of an attribute is written. -/
def escapeChar : Char → List Char
  | '<' => "&lt;".toList
  | '>' => "&gt;".toList
  | '&' => "&amp;".toList
  | '\'' => "&apos;".toList
  | '"' => "&quot;".toList
  | c => [c]

def escape (s : List Char) : List Char := s.flatMap escapeChar

/-- The quotes around an attribute. -/
inductive Quote
  | single
  | double
  deriving DecidableEq, Repr

def Quote.char : Quote → Char
  | .single => '\''
  | .double => '"'

/-- `<source file='…'/>` with its further attributes. -/
structure Source where
  path : List Char
  quote : Quote := .single
  indent : Nat := 6
  attributes : Line := .empty
  deriving DecidableEq

inductive Device
  | disk
  | cdrom
  | floppy
  | lun
  deriving DecidableEq, Repr

def Device.name : Device → String
  | .disk => "disk"
  | .cdrom => "cdrom"
  | .floppy => "floppy"
  | .lun => "lun"

/-- One image under another: the lines that open its `backingStore`, and its file. -/
structure Layer where
  opening : List Line := []
  source : Source
  deriving DecidableEq

/-- A disk that is a file, with the images under it, nearest first. -/
structure Disk where
  device : Device := .disk
  quote : Quote := .single
  driver : List Line := []
  source : Source
  backing : List Layer := []
  rest : List Line := []
  readonly : Bool := false
  deriving DecidableEq

/-- The parts of a definition: disks that are files, other elements with a file for their source
(file systems), and all other lines. -/
inductive Element
  | disk (d : Disk)
  | other (s : Source)
  | line (text : Line)
  deriving DecidableEq

structure Domain where
  elements : List Element
  deriving DecidableEq

def Source.element (s : Source) : List Char :=
  "<source file=".toList ++ (s.quote.char :: (escape s.path ++ s.quote.char ::
    (s.attributes.val ++ ['/']))) ++ ['>']

def Source.line (s : Source) : List Char := replicate s.indent ' ' ++ s.element

def Disk.opening (d : Disk) : List Char :=
  let value (text : String) := d.quote.char :: (text.toList ++ [d.quote.char])
  "<disk type=".toList ++ value "file" ++ " device=".toList ++ value d.device.name ++ ['>']

def Disk.closing (d : Disk) : List (List Char) :=
  (if d.readonly then ["<readonly/>".toList] else []) ++ ["</disk>".toList]

def Layer.lines (l : Layer) : List (List Char) := l.opening.map Subtype.val ++ [l.source.line]

def Disk.lines (d : Disk) : List (List Char) :=
  d.opening :: (d.driver.map Subtype.val ++ (d.source.line :: (d.backing.flatMap Layer.lines ++
    (d.rest.map Subtype.val ++ d.closing))))

def Element.lines : Element → List (List Char)
  | .disk d => d.lines
  | .other s => [s.line]
  | .line text => [text.val]

def Domain.lines (dom : Domain) : List (List Char) := dom.elements.flatMap Element.lines

/-- The output of `virsh dumpxml`. -/
def Domain.dumpxml (dom : Domain) : List Char := ['\n'].intercalate (dom.lines ++ [[]])

def Domain.disks (dom : Domain) : List Disk :=
  dom.elements.filterMap fun
    | .disk d => some d
    | _ => none

/-- All sources of a disk, those of the images under it included. -/
def Disk.sources (d : Disk) : List Source := d.source :: d.backing.map Layer.source

def Element.sources : Element → List Source
  | .disk d => d.sources
  | .other s => [s]
  | .line _ => []

def Domain.sources (dom : Domain) : List Source := dom.elements.flatMap Element.sources

/-- The files that a definition names, in its order. -/
def Domain.files (dom : Domain) : List (List Char) := dom.sources.map Source.path

def Disk.texts (d : Disk) : List Line := d.driver ++ d.backing.flatMap Layer.opening ++ d.rest

def Element.texts : Element → List Line
  | .disk d => d.texts
  | .other _ => []
  | .line text => [text]

/-- The scan is not led astray by the other attributes of a source. -/
def Source.Legible (s : Source) : Prop :=
  '\n' ∉ s.path ∧ Go.contains s.element "device='disk'".toList = false ∧
    (s.quote = .double → Go.afterFirst "file='".toList s.element = none)

instance (s : Source) : Decidable s.Legible := inferInstanceAs (Decidable (_ ∧ _))

/-- Every source is on a line of its own, and no other line looks like one. -/
def Domain.Legible (dom : Domain) : Prop :=
  (∀ s ∈ dom.sources, s.Legible) ∧
    ∀ element ∈ dom.elements, ∀ text ∈ element.texts, hasSource (Go.trimSpace text.val) = false

instance (dom : Domain) : Decidable dom.Legible := inferInstanceAs (Decidable (_ ∧ _))

theorem quote_free {text : List Char} (h : text.all (fun c => !(c = '"' || c = '\'')) = true)
    {c : Char} (hc : c ∈ text) : (c = '"' || c = '\'') = false :=
  (Bool.not_eq_true' _).mp (all_eq_true.mp h c hc)

/-- No quotes are left in an attribute. -/
theorem escape_quotes {s : List Char} : ∀ c ∈ escape s, (c = '"' || c = '\'') = false := by
  intro c hc
  obtain ⟨d, -, hd⟩ := mem_flatMap.mp hc
  unfold escapeChar at hd
  split at hd
  case h_6 hapos hquot =>
    rw [mem_singleton.mp hd, Bool.or_eq_false_iff]
    exact ⟨decide_eq_false hquot, decide_eq_false hapos⟩
  all_goals exact quote_free (by decide) hd

theorem newline_not_mem_escape {s : List Char} (h : '\n' ∉ s) : '\n' ∉ escape s := by
  intro hmem
  obtain ⟨d, hd, hin⟩ := mem_flatMap.mp hmem
  unfold escapeChar at hin
  split at hin
  case h_6 =>
    rw [mem_singleton.mp hin] at h
    exact h hd
  all_goals exact absurd hin (by decide)

section Source

variable {s : Source}

/-- The scan cuts the path out of a source. -/
theorem sourceFile_element (h : s.Legible) : sourceFile s.element = some (escape s.path) := by
  obtain ⟨path, quote, indent, attributes⟩ := s
  have hcut : ∀ rest, Go.beforeAny (fun c => c = '"' || c = '\'')
      (escape path ++ quote.char :: rest) = some (escape path) := fun rest =>
    Go.beforeAny_append escape_quotes (by cases quote <;> rfl)
  unfold sourceFile
  cases quote with
  | single =>
    have hrest : Go.afterFirst "file='".toList
          (Source.element ⟨path, .single, indent, attributes⟩) =
        some (escape path ++ '\'' :: (attributes.val ++ ['/']) ++ ['>']) := rfl
    rw [hrest, append_assoc]
    exact hcut _
  | double =>
    have hrest : Go.afterFirst "file=\"".toList
          (Source.element ⟨path, .double, indent, attributes⟩) =
        some (escape path ++ '"' :: (attributes.val ++ ['/']) ++ ['>']) := rfl
    rw [h.2.2 rfl, hrest, append_assoc]
    exact hcut _

theorem trimSpace_line (s : Source) : Go.trimSpace s.line = s.element := by
  have hblank : ∀ c ∈ replicate s.indent ' ', Go.isSpace c = true := fun c hc =>
    (eq_of_mem_replicate hc) ▸ rfl
  have hfront : s.line.dropWhile Go.isSpace = s.element := by
    rw [Source.line, dropWhile_append_of_pos hblank]
    rfl
  unfold Go.trimSpace Go.trim
  rw [hfront]
  exact rdropWhile_concat_neg Go.isSpace _ '>' (by decide)

theorem hasSource_element (s : Source) : hasSource s.element = true := by
  obtain ⟨path, quote, indent, attributes⟩ := s
  cases quote with
  | single => exact (rfl : hasSource (Source.element ⟨path, .single, indent, attributes⟩) = true)
  | double => exact (rfl : hasSource (Source.element ⟨path, .double, indent, attributes⟩) = true)

theorem newline_not_mem_line (h : s.Legible) : '\n' ∉ s.line := by
  have hquote : '\n' ≠ s.quote.char := by cases s.quote <;> decide
  have hblank : '\n' ∉ replicate s.indent ' ' := fun hmem =>
    absurd (eq_of_mem_replicate hmem) (by decide)
  refine not_mem_append hblank (not_mem_append (not_mem_append (by decide) ?_) (by decide))
  refine not_mem_cons_of_ne_of_not_mem hquote (not_mem_append (newline_not_mem_escape h.1) ?_)
  exact not_mem_cons_of_ne_of_not_mem hquote (not_mem_append s.attributes.property (by decide))

end Source

/-- What any scan for sources finds on a line. -/
def scanned (line : List Char) : Option (List Char) :=
  if hasSource (Go.trimSpace line) then sourceFile (Go.trimSpace line) else none

theorem scanned_line {s : Source} (h : s.Legible) : scanned s.line = some (escape s.path) := by
  rw [scanned, trimSpace_line, if_pos (hasSource_element s), sourceFile_element h]

theorem scanned_quiet {lines : List (List Char)}
    (h : ∀ line ∈ lines, hasSource (Go.trimSpace line) = false) : lines.filterMap scanned = [] := by
  refine filterMap_eq_nil_iff.mpr fun line hline => ?_
  simp [scanned, h line hline]

theorem scanned_texts {texts : List Line}
    (h : ∀ text ∈ texts, hasSource (Go.trimSpace text.val) = false) :
    (texts.map Subtype.val).filterMap scanned = [] := by
  refine scanned_quiet fun line hline => ?_
  obtain ⟨text, htext, rfl⟩ := mem_map.mp hline
  exact h text htext

theorem not_hasSource_opening (d : Disk) : hasSource (Go.trimSpace d.opening) = false := by
  unfold Disk.opening
  cases d.device <;> cases d.quote <;> decide

theorem not_hasSource_closing (d : Disk) :
    ∀ line ∈ d.closing, hasSource (Go.trimSpace line) = false := by
  unfold Disk.closing
  cases d.readonly <;> decide

theorem scanned_backing {layers : List Layer} (hs : ∀ l ∈ layers, l.source.Legible)
    (htexts : ∀ text ∈ layers.flatMap Layer.opening, hasSource (Go.trimSpace text.val) = false) :
    (layers.flatMap Layer.lines).filterMap scanned = layers.map fun l => escape l.source.path := by
  induction layers with
  | nil => rfl
  | cons layer layers ih =>
    obtain ⟨hsource, hsources⟩ := forall_mem_cons.mp hs
    rw [flatMap_cons, forall_mem_append] at htexts
    rw [flatMap_cons, filterMap_append, ih hsources htexts.2, Layer.lines, filterMap_append,
      scanned_texts htexts.1, nil_append, filterMap_cons_some (scanned_line hsource)]
    rfl

/-- The scan finds the sources of an element, in their order. -/
theorem scanned_element {element : Element} (hs : ∀ s ∈ element.sources, s.Legible)
    (htexts : ∀ text ∈ element.texts, hasSource (Go.trimSpace text.val) = false) :
    element.lines.filterMap scanned = element.sources.map fun s => escape s.path := by
  cases element with
  | line text => exact scanned_texts htexts
  | other s => exact filterMap_cons_some (scanned_line (hs s (.head _)))
  | disk d =>
    obtain ⟨hsource, hlayers⟩ := forall_mem_cons.mp hs
    simp only [Element.texts, Disk.texts, forall_mem_append] at htexts
    have hopening : scanned d.opening = none := if_neg (by rw [not_hasSource_opening]; decide)
    simp only [Element.lines, Disk.lines, filterMap_cons_none hopening, filterMap_append,
      filterMap_cons_some (scanned_line hsource), scanned_texts htexts.1.1, scanned_texts htexts.2,
      scanned_quiet (not_hasSource_closing d), append_nil, nil_append,
      scanned_backing (fun l hl => hlayers _ (mem_map_of_mem hl)) htexts.1.2]
    simp [Element.sources, Disk.sources, Function.comp_def]

variable {dom : Domain}

theorem newline_not_mem (h : dom.Legible) {line : List Char} (hline : line ∈ dom.lines) :
    '\n' ∉ line := by
  obtain ⟨element, helement, hline⟩ := mem_flatMap.mp hline
  have hs : ∀ s ∈ element.sources, '\n' ∉ s.line := fun s hmem =>
    newline_not_mem_line (h.1 s (mem_flatMap.mpr ⟨element, helement, hmem⟩))
  cases element with
  | line text => exact mem_singleton.mp hline ▸ text.property
  | other s => exact mem_singleton.mp hline ▸ hs s (.head _)
  | disk d =>
    have hclosing : ∀ line ∈ d.closing, '\n' ∉ line := by
      unfold Disk.closing
      cases d.readonly <;> decide
    simp only [Element.lines, Disk.lines, mem_cons, mem_append, mem_map, mem_flatMap] at hline
    rcases hline with rfl | ⟨text, -, rfl⟩ | rfl | ⟨layer, hlayer, hin⟩ | ⟨text, -, rfl⟩ | hin
    · unfold Disk.opening
      cases d.device <;> cases d.quote <;> decide
    · exact text.property
    · exact hs _ (.head _)
    · rcases mem_append.mp hin with hin | hin
      · obtain ⟨text, -, rfl⟩ := mem_map.mp hin
        exact text.property
      · exact mem_singleton.mp hin ▸ hs _ (.tail _ (mem_map_of_mem hlayer))
    · exact text.property
    · exact hclosing line hin

/-- Reading the text line by line gives back the lines that were printed. -/
theorem lines_dumpxml (h : dom.Legible) : Go.lines dom.dumpxml = dom.lines ++ [[]] := by
  refine splitOn_intercalate '\n' (forall_mem_append.mpr ⟨fun _ => newline_not_mem h, ?_⟩) (by simp)
  exact forall_mem_singleton.mpr not_mem_nil

/-- The scan of a definition finds all files that it names. -/
theorem scanned_dumpxml (h : dom.Legible) :
    (Go.lines dom.dumpxml).filterMap scanned = dom.files.map escape := by
  have hlast : [[]].filterMap scanned = [] := rfl
  rw [lines_dumpxml h, filterMap_append, hlast, append_nil, Domain.files, map_map, Domain.lines,
    Domain.sources]
  obtain ⟨hs, htexts⟩ := h
  rw [Domain.sources] at hs
  generalize dom.elements = elements at hs htexts ⊢
  induction elements with
  | nil => rfl
  | cons element rest ih =>
    rw [flatMap_cons, forall_mem_append] at hs
    obtain ⟨htext, htexts⟩ := forall_mem_cons.mp htexts
    rw [flatMap_cons, filterMap_append, scanned_element hs.1 htext, ih hs.2 htexts, flatMap_cons,
      map_append]
    rfl

/-- A line that looks like a source says nothing of the device. -/
theorem device_of_hasSource (h : dom.Legible) {line : List Char} (hline : line ∈ dom.lines)
    (hhas : hasSource (Go.trimSpace line) = true) :
    Go.contains (Go.trimSpace line) "device='disk'".toList = false := by
  obtain ⟨element, helement, hline⟩ := mem_flatMap.mp hline
  have hs : ∀ s ∈ element.sources,
      Go.contains (Go.trimSpace s.line) "device='disk'".toList = false := by
    intro s hmem
    rw [trimSpace_line]
    exact (h.1 s (mem_flatMap.mpr ⟨element, helement, hmem⟩)).2.1
  have hquiet : hasSource (Go.trimSpace line) ≠ false := by rw [hhas]; decide
  have htexts := h.2 element helement
  cases element with
  | line text => exact absurd (mem_singleton.mp hline ▸ htexts text (.head _)) hquiet
  | other s => exact mem_singleton.mp hline ▸ hs s (.head _)
  | disk d =>
    simp only [Element.texts, Disk.texts, forall_mem_append] at htexts
    simp only [Element.lines, Disk.lines, mem_cons, mem_append, mem_map, mem_flatMap] at hline
    rcases hline with
      rfl | ⟨text, htext, rfl⟩ | rfl | ⟨layer, hlayer, hin⟩ | ⟨text, htext, rfl⟩ | hin
    · exact absurd (not_hasSource_opening d) hquiet
    · exact absurd (htexts.1.1 text htext) hquiet
    · exact hs _ (.head _)
    · rcases mem_append.mp hin with hin | hin
      · obtain ⟨text, htext, rfl⟩ := mem_map.mp hin
        exact absurd (htexts.1.2 text (mem_flatMap.mpr ⟨layer, hlayer, htext⟩)) hquiet
      · exact mem_singleton.mp hin ▸ hs _ (.tail _ (mem_map_of_mem hlayer))
    · exact absurd (htexts.2 text htext) hquiet
    · exact absurd (not_hasSource_closing d line hin) hquiet

/-- Every file of a disk or of an image under one is taken for a disk, unless its name is
that of a cloud-init ISO. -/
theorem domainDiskPaths_dumpxml (h : dom.Legible) :
    domainDiskPaths dom.dumpxml = (dom.files.map escape).filter (!seedFile ·) := by
  rw [← scanned_dumpxml h, filter_filterMap, domainDiskPaths]
  refine filterMap_congr fun line hline => ?_
  rw [lines_dumpxml h, mem_append, mem_singleton] at hline
  unfold diskPath scanned
  cases hhas : hasSource (Go.trimSpace line) with
  | false => rfl
  | true =>
    rcases hline with hline | rfl
    · rw [device_of_hasSource h hline hhas]
      rfl
    · cases hhas

/-- The first file that passes for a cloud-init ISO is taken for that of the domain. -/
theorem cloudInitISOPath_dumpxml (h : dom.Legible) :
    cloudInitISOPath dom.dumpxml = ((dom.files.map escape).find? isCloudInitISO).getD [] := by
  rw [← scanned_dumpxml h, ← head?_filter, filter_filterMap, head?_filterMap, cloudInitISOPath]
  congr 2
  funext line
  unfold cloudInitPath scanned
  split <;> rfl

end Virtrigaud.Libvirt
