import Mathlib.Data.List.Nodup
import Virtrigaud.Providers.Libvirt.DomainXML

/-!
# The primary disk of a domain

Clone takes the first file that the scan of `dumpxml` finds, and the growth of a disk the first row
of `domblklist` that is no cloud-init ISO. Neither looks at the device: the scan finds the data
disks exactly if all other files of the domain have the name of a cloud-init ISO.
-/

namespace Virtrigaud.Libvirt

open List

def isDisk (d : Disk) : Bool := d.device = .disk

/-- What is behind a target of a domain: a file, or the name of a block device or of a volume, or
`-`. -/
inductive Medium
  | file (d : Disk)
  | other (name : List Char)

/-- A row of `virsh domblklist`. -/
structure Row where
  target : List Char
  medium : Medium

def Row.disk? (row : Row) : Option Disk :=
  match row.medium with
  | .file d => some d
  | .other _ => none

def Row.source (row : Row) : List Char :=
  match row.medium with
  | .file d => d.source.path
  | .other name => name

/-- The row of a data disk that is a file. -/
def Row.isData (row : Row) : Bool := row.disk?.any isDisk

def Row.line (row : Row) : List Char := ' ' :: (row.target ++ ([' ', ' ', ' '] ++ row.source))

def header : List (List Char) := ["Target   Source".toList, "----------------".toList]

/-- The output of `virsh domblklist`. -/
def domblklist (rows : List Row) : List Char :=
  [' '] ++ ['\n'].intercalate (header ++ rows.map Row.line) ++ ['\n', '\n']

/-- A row that `parseDomblklistPrimaryTarget` takes, by its target. -/
def primaryTarget (line : List Char) : Option (List Char) :=
  let trimmed := Go.trimSpace line
  if trimmed = [] ∨ "-".toList.isPrefixOf trimmed then none
  else
    match Go.fields trimmed with
    | target :: source :: _ => if source = ['-'] ∨ seedFile source then none else some target
    | _ => none

/-- The header row is skipped. -/
def parseDomblklistPrimaryTarget (stdout : List Char) : Option (List Char) :=
  (Go.lines (Go.trimSpace stdout)).tail.findSome? primaryTarget

/-- The path of `resolvePrimaryDisk`. -/
def resolvePrimaryDisk (xml : List Char) : Option (List Char) := (domainDiskPaths xml).head?

/-- The sources of an element, with a mark on that of a data disk. -/
def Element.marked : Element → List (Source × Bool)
  | .disk d => (d.source, isDisk d) :: d.backing.map fun layer => (layer.source, false)
  | .other s => [(s, false)]
  | .line _ => []

def Domain.marked (dom : Domain) : List (Source × Bool) := dom.elements.flatMap Element.marked

section Scan

theorem marked_sources (dom : Domain) : dom.marked.map Prod.fst = dom.sources := by
  have helement : ∀ element : Element, element.marked.map Prod.fst = element.sources
    | .disk d => by simp [Element.marked, Element.sources, Disk.sources]
    | .other _ => rfl
    | .line _ => rfl
  rw [Domain.marked, Domain.sources, map_flatMap]
  exact flatMap_congr fun element _ => helement element

theorem marked_data (dom : Domain) :
    (dom.marked.filter Prod.snd).map (·.1.path) =
      (dom.disks.filter isDisk).map (·.source.path) := by
  obtain ⟨elements⟩ := dom
  induction elements with
  | nil => rfl
  | cons element rest ih =>
    have hlayers : ∀ layers : List Layer,
        (layers.map fun layer => (layer.source, false)).filter Prod.snd = [] := by simp
    cases element with
    | line text => exact ih
    | other s => exact ih
    | disk d =>
      have hmarked : Domain.marked ⟨.disk d :: rest⟩ = (d.source, isDisk d) ::
        ((d.backing.map fun layer => (layer.source, false)) ++ Domain.marked ⟨rest⟩) := rfl
      have hdisks : Domain.disks ⟨.disk d :: rest⟩ = d :: Domain.disks ⟨rest⟩ := rfl
      rw [hmarked, hdisks, filter_cons, filter_cons, filter_append, hlayers, nil_append]
      split
      · exact congrArg (d.source.path :: ·) ih
      · exact ih

/-- Characters that are written as they are, read from the end. -/
theorem isPrefixOf_escape {front text : List Char}
    (h : front.all (fun c => escapeChar c = [c] && c ≠ ';') = true) :
    front.isPrefixOf (text.flatMap fun c => (escapeChar c).reverse) = front.isPrefixOf text := by
  induction text generalizing front with
  | nil => rfl
  | cons c text ih =>
    cases front with
    | nil => rfl
    | cons x front =>
      rw [all_cons, Bool.and_eq_true] at h
      obtain ⟨hx, hfront⟩ := h
      obtain ⟨hplain, hsemicolon⟩ : escapeChar x = [x] ∧ x ≠ ';' := by simpa using hx
      by_cases hc : escapeChar c = [c]
      · rw [flatMap_cons, hc, reverse_singleton, singleton_append, isPrefixOf_cons_cons,
          isPrefixOf_cons_cons, ih hfront]
      · -- An escape ends in a semicolon.
        have hend : ∃ rest, (escapeChar c).reverse = ';' :: rest := by
          unfold escapeChar at hc ⊢
          split at hc <;> first | exact ⟨_, rfl⟩ | exact absurd rfl hc
        obtain ⟨rest, hrest⟩ := hend
        have hne : (x == c) = false := beq_eq_false_iff_ne.mpr fun heq => hc (heq ▸ hplain)
        rw [flatMap_cons, hrest, cons_append, isPrefixOf_cons_cons, isPrefixOf_cons_cons, hne,
          beq_eq_false_iff_ne.mpr hsemicolon]
        rfl

/-- A name is that of a cloud-init ISO also as it is written in XML. -/
theorem seedFile_escape (path : List Char) : seedFile (escape path) = seedFile path := by
  have hreverse : (escape path).reverse =
      path.reverse.flatMap fun c => (escapeChar c).reverse := reverse_flatMap ..
  unfold seedFile isSuffixOf
  rw [hreverse, isPrefixOf_escape (by decide), isPrefixOf_escape (by decide)]

/-- What a source has to be like for the scan: that of a data disk is found under its own name,
any other is passed over. -/
def Telling (entry : Source × Bool) : Prop :=
  if entry.2 then escape entry.1.path = entry.1.path ∧ seedFile entry.1.path = false
  else seedFile entry.1.path = true

instance (entry : Source × Bool) : Decidable (Telling entry) := inferInstanceAs (Decidable (ite ..))

/-- Where as many are kept as are wanted, and these among them, no other is kept. -/
theorem filter_eq_of_length {α : Type} {l : List α} {wanted kept : α → Bool}
    (h : ∀ a ∈ l, wanted a = true → kept a = true)
    (hlength : (l.filter wanted).length = (l.filter kept).length) :
    l.filter wanted = l.filter kept := by
  have hagain : (l.filter kept).filter wanted = l.filter wanted := by
    rw [filter_filter]
    refine filter_congr fun a ha => ?_
    cases hwanted : wanted a with
    | false => rfl
    | true => exact h a ha hwanted
  exact Sublist.eq_of_length (hagain ▸ filter_sublist) hlength

/-- The scan keeps as many files as there are data disks, and these are among them. -/
theorem telling_iff {entries : List (Source × Bool)} :
    (entries.map fun e => escape e.1.path).filter (!seedFile ·) =
        (entries.filter Prod.snd).map (·.1.path) ↔ ∀ e ∈ entries, Telling e := by
  have hkept : (entries.map fun e => escape e.1.path).filter (!seedFile ·) =
      (entries.filter fun e => !seedFile e.1.path).map fun e => escape e.1.path := by
    rw [filter_map]
    exact congrArg _ (filter_congr fun e _ => congrArg not (seedFile_escape e.1.path))
  rw [hkept]
  constructor
  · intro heq
    have hdata : ∀ e ∈ entries, e.2 = true → seedFile e.1.path = false := by
      intro e he hdisk
      have hmem : e.1.path ∈ (entries.filter Prod.snd).map (·.1.path) :=
        mem_map_of_mem (mem_filter.mpr ⟨he, hdisk⟩)
      rw [← heq, ← hkept] at hmem
      exact Bool.not_eq_true' _ ▸ (mem_filter.mp hmem).2
    have hsame : entries.filter Prod.snd = entries.filter fun e => !seedFile e.1.path :=
      filter_eq_of_length (fun e he hdisk => by rw [hdata e he hdisk]; rfl)
        (by simpa using (congrArg length heq).symm)
    rw [hsame] at heq
    intro e he
    unfold Telling
    cases hdisk : e.2 with
    | true =>
      have hseed := hdata e he hdisk
      exact ⟨map_inj_left.mp heq e (mem_filter.mpr ⟨he, by rw [hseed]; rfl⟩), hseed⟩
    | false =>
      refine Bool.of_not_eq_false fun hseed => ?_
      have hmem : e ∈ entries.filter Prod.snd := hsame ▸ mem_filter.mpr ⟨he, by rw [hseed]; rfl⟩
      rw [(mem_filter.mp hmem).2] at hdisk
      cases hdisk
  · intro h
    have hdata : ∀ e ∈ entries, e.2 = true → escape e.1.path = e.1.path ∧
        seedFile e.1.path = false := fun e he hdisk => by simpa [Telling, hdisk] using h e he
    have hsame : (entries.filter fun e => !seedFile e.1.path) = entries.filter Prod.snd := by
      refine filter_congr fun e he => ?_
      cases hdisk : e.2 with
      | true => rw [(hdata e he hdisk).2]; rfl
      | false =>
        have hseed : seedFile e.1.path = true := by simpa [Telling, hdisk] using h e he
        rw [hseed]
        rfl
    rw [hsame]
    refine map_congr_left fun e he => ?_
    obtain ⟨he, hdisk⟩ := mem_filter.mp he
    exact (hdata e he hdisk).1

/-- The scan of a definition finds the data disks, in their order. -/
theorem domainDiskPaths_iff {dom : Domain} (hlegible : dom.Legible) :
    domainDiskPaths dom.dumpxml = (dom.disks.filter isDisk).map (·.source.path) ↔
      ∀ entry ∈ dom.marked, Telling entry := by
  rw [domainDiskPaths_dumpxml hlegible, ← marked_data, ← telling_iff, Domain.files,
    ← marked_sources, map_map, map_map]
  rfl

end Scan

/-- The first word of what is behind a target leads to no disk. -/
def Row.skipped (row : Row) : Bool :=
  match Go.fields row.source with
  | source :: _ => source = ['-'] || seedFile source
  | [] => true

/-- What libvirt prints in a row: the target is a word, and no dashes; and neither it nor the source
has blanks at its ends. -/
structure Row.Printed (row : Row) : Prop where
  target : row.target ≠ [] ∧ ∀ c ∈ row.target, Go.isSpace c = false
  dash : row.target.head? ≠ some '-'
  source : row.source ≠ [] ∧ Go.Trimmed row.source
  newline : '\n' ∉ row.source

instance (row : Row) : Decidable row.Printed :=
  decidable_of_iff ((row.target ≠ [] ∧ row.target.all (!Go.isSpace ·) = true) ∧
      row.target.head? ≠ some '-' ∧ (row.source ≠ [] ∧ Go.Trimmed row.source) ∧
      '\n' ∉ row.source)
    ⟨fun h => ⟨⟨h.1.1, by simpa using h.1.2⟩, h.2.1, h.2.2.1, h.2.2.2⟩,
      fun h => ⟨⟨h.target.1, by simpa using h.target.2⟩, h.dash, h.source, h.newline⟩⟩

section Table

theorem Row.Printed.trimmed {row : Row} (h : row.Printed) :
    Go.Trimmed (row.target ++ ([' ', ' ', ' '] ++ row.source)) := by
  have htarget : Go.Trimmed row.target :=
    ⟨fun c hc => h.target.2 c (mem_of_mem_head? hc),
      fun c hc => h.target.2 c (mem_of_mem_getLast? hc)⟩
  exact htarget.append h.target.1 h.source.2 h.source.1 _

theorem primaryTarget_line {row : Row} (h : row.Printed) :
    primaryTarget row.line = if row.skipped then none else some row.target := by
  have htrim : Go.trimSpace row.line = row.target ++ ([' ', ' ', ' '] ++ row.source) := by
    have hblank : ∀ c ∈ [' '], Go.isSpace c = true := forall_mem_singleton.mpr rfl
    have htrim := Go.trimSpace_surround h.trimmed (by simp) hblank (forall_mem_nil _)
    rwa [append_nil] at htrim
  have hfields : Go.fields (row.target ++ ([' ', ' ', ' '] ++ row.source)) =
      row.target :: Go.fields row.source := by
    have hspace : Go.isSpace ' ' = true := rfl
    have hsplit : (row.target ++ ([' ', ' ', ' '] ++ row.source)).splitOnP Go.isSpace =
        row.target :: [] :: [] :: row.source.splitOnP Go.isSpace := by
      refine (splitOnP_append_cons_of_forall_mem h.target.2 ' ' rfl _).trans ?_
      simp [splitOnP_cons_eq_if_modifyHead, hspace]
    rw [Go.fields, hsplit]
    simp [Go.fields, h.target.1]
  have hdash : ¬ (row.target ++ ([' ', ' ', ' '] ++ row.source) = [] ∨
      "-".toList.isPrefixOf (row.target ++ ([' ', ' ', ' '] ++ row.source))) := by
    have hdash := h.dash
    cases htext : row.target with
    | nil => exact absurd htext h.target.1
    | cons c rest =>
      rw [htext, head?_cons, ne_eq, Option.some.injEq] at hdash
      simp [Ne.symm hdash]
  unfold primaryTarget Row.skipped
  simp only [htrim, if_neg hdash, hfields]
  cases Go.fields row.source with
  | nil => rfl
  | cons source rest => simp

theorem lines_domblklist {rows : List Row} (h : ∀ row ∈ rows, row.Printed) :
    Go.lines (Go.trimSpace (domblklist rows)) = header ++ rows.map Row.line := by
  have htrimmed : Go.Trimmed (['\n'].intercalate (header ++ rows.map Row.line)) := by
    rcases eq_nil_or_concat' rows with rfl | ⟨front, last, rfl⟩
    · decide
    · have hlast := h last mem_concat_self
      have hfirst : Go.Trimmed "Target   Source".toList := by decide
      rw [map_append, map_singleton, ← append_assoc, Go.intercalate_concat (by simp [header])]
      have hmid : ['\n'].intercalate (header ++ front.map Row.line) ++ '\n' :: last.line =
          "Target   Source".toList ++ (['\n'] ++ ['\n'].intercalate
            (header.tail ++ front.map Row.line) ++ ['\n', ' '] ++ last.target ++ [' ', ' ', ' '] ++
              last.source) := by
        simp [header, Row.line, intercalate_cons_cons]
      rw [hmid]
      exact hfirst.append (by decide) hlast.source.2 hlast.source.1 _
  rw [domblklist, Go.trimSpace_surround htrimmed (by simp [header]) (forall_mem_singleton.mpr rfl)
    (forall_mem_cons.mpr ⟨rfl, forall_mem_singleton.mpr rfl⟩)]
  refine splitOn_intercalate '\n' (forall_mem_append.mpr ⟨by decide, ?_⟩) (by simp [header])
  refine forall_mem_map.mpr fun row hrow => ?_
  have htarget : '\n' ∉ row.target := fun hmem => by cases (h row hrow).target.2 _ hmem
  exact not_mem_cons_of_ne_of_not_mem (by decide)
    (not_mem_append htarget (not_mem_append (by decide) (h row hrow).newline))

/-- The table leads to the target of the first row that is not skipped. -/
theorem parse_domblklist {rows : List Row} (h : ∀ row ∈ rows, row.Printed) :
    parseDomblklistPrimaryTarget (domblklist rows) =
      (rows.find? (!·.skipped)).map Row.target := by
  have hdashes : primaryTarget "----------------".toList = none := rfl
  unfold parseDomblklistPrimaryTarget
  rw [lines_domblklist h, header, cons_append, tail_cons, cons_append, findSome?_cons, hdashes,
    nil_append]
  induction rows with
  | nil => rfl
  | cons row rest ih =>
    obtain ⟨hrow, hrest⟩ := forall_mem_cons.mp h
    rw [map_cons, findSome?_cons, primaryTarget_line hrow, find?_cons]
    cases row.skipped with
    | false => rfl
    | true => exact ih hrest

end Table

/-- The table of a domain. -/
structure Table (dom : Domain) where
  rows : List Row
  complete : rows.filterMap Row.disk? = dom.disks
  printed : ∀ row ∈ rows, row.Printed
  distinct : (rows.map Row.target).Nodup

variable {dom : Domain}

/-- The scan finds the data disks, Clone takes the first of them, and the target that is grown is
that of the same disk. -/
structure Agree (table : Table dom) : Prop where
  scan : domainDiskPaths dom.dumpxml = (dom.disks.filter isDisk).map (·.source.path)
  primary : resolvePrimaryDisk dom.dumpxml = ((dom.disks.filter isDisk).map (·.source.path)).head?
  target : ∀ row ∈ table.rows.find? Row.isData,
    parseDomblklistPrimaryTarget (domblklist table.rows) = some row.target

/-- Every source tells whether it is that of a data disk, and the rows before the first data disk
are those that are skipped. -/
structure Standard (table : Table dom) : Prop where
  telling : ∀ entry ∈ dom.marked, Telling entry
  first : ∀ row ∈ table.rows.find? Row.isData, row.skipped = false ∧
    ∀ earlier ∈ table.rows.takeWhile (!·.isData), earlier.skipped = true

/-- The first data disk is the first row that is not skipped. -/
theorem first_iff {rows : List Row} {row : Row} (hrow : rows.find? Row.isData = some row) :
    rows.find? (!·.skipped) = some row ↔
      row.skipped = false ∧ ∀ earlier ∈ rows.takeWhile (!·.isData), earlier.skipped = true := by
  obtain ⟨hdata, front, back, rfl, hfront⟩ := find?_eq_some_iff_append.mp hrow
  have hearlier : (front ++ row :: back).takeWhile (!·.isData) = front := by
    rw [takeWhile_append_of_pos hfront, takeWhile_cons_of_neg (by simp [hdata]), append_nil]
  rw [hearlier, find?_append]
  constructor
  · intro hfound
    cases hsome : front.find? (!·.skipped) with
    | some other =>
      rw [hsome, Option.some_or] at hfound
      have hmem := mem_of_find?_eq_some (hsome.trans hfound)
      simpa [hdata] using hfront row hmem
    | none =>
      rw [hsome, Option.none_or] at hfound
      exact ⟨by simpa using find?_some hfound, by simpa using hsome⟩
  · rintro ⟨hrow, hskipped⟩
    have hnone : front.find? (!·.skipped) = none := by simpa using hskipped
    rw [hnone, Option.none_or]
    exact find?_cons_of_pos (by simp [hrow])

namespace Sample

def file (path : String) (device : Device) : Disk := { device, source := { path := path.toList } }

/-- A domain of files. -/
def plainDomain (disks : List Disk) : Domain := ⟨disks.map .disk⟩

def row (target : String) (d : Disk) : Row := ⟨target.toList, .file d⟩

/-- The source of the disk is in double quotes, and a block device stands behind it. -/
def seeded : List Row :=
  [row "vda" { file "/images/web.qcow2" .disk with
      source := { path := "/images/web.qcow2".toList, quote := .double } },
    ⟨"vdb".toList, .other "/dev/sdb".toList⟩,
    row "hda" (file "/images/web-cidata.iso" .cdrom)]

/-- The disk stands after an installer, and on an image of its own. -/
def installed : List Row :=
  [row "sda" (file "/iso/debian.iso" .cdrom),
    row "vda" { file "/images/web.qcow2" .disk with
      backing := [{ source := (file "/images/base.qcow2" .disk).source }] }]

def seededTable : Table (plainDomain (seeded.filterMap Row.disk?)) where
  rows := seeded
  complete := rfl
  printed := by decide +kernel
  distinct := by decide

end Sample

open Sample

end Virtrigaud.Libvirt
