import Virtrigaud.Effects.System
import Virtrigaud.Providers.Libvirt.Lifecycle

/-!
# What Delete removes from a libvirt host

The host keeps files, directories and domains; a command does its work, fails, or fails
half way. Delete finds the files to remove by scanning the text of `dumpxml`, or, when
the domain is gone, by guessing names. It does no harm exactly if all that it goes for belongs
to the domain: its writable disks and its cloud-init directory. For a linked clone it goes for
the image under the disk and the cloud-init ISO of the VM that the clone was made from.
-/

namespace Virtrigaud.Libvirt

open Effects Program List

/-- A host. Definitions that were undefined earlier are on record. -/
structure Layout where
  files : List (List Char)
  directories : List (List Char) := []
  domains : List (String × Domain)
  former : List (String × Domain) := []

/-- How a command ends. What it has not removed when it fails is spared. -/
structure Ending where
  error : Option GoError := none
  spares : List Char → Bool := fun _ => false

/-- The directory itself, or something in it. Nothing is inside the empty name, and the root is
not removed. -/
def inside (directory path : List Char) : Bool :=
  let directory := directory.rdropWhile (· = '/')
  decide (directory ≠ []) &&
    (decide (path = directory) || (directory ++ ['/']).isPrefixOf path)

namespace Layout

variable (layout : Layout)

def Has (path : List Char) : Prop := path ∈ layout.files ∨ path ∈ layout.directories

instance (path : List Char) : Decidable (layout.Has path) := inferInstanceAs (Decidable (_ ∨ _))

/-- What was there and is gone. -/
def Lost (next : Layout) (path : List Char) : Prop :=
  path ∈ layout.files ∧ path ∉ next.files ∨ path ∈ layout.directories ∧ path ∉ next.directories

instance (next : Layout) (path : List Char) : Decidable (layout.Lost next path) :=
  inferInstanceAs (Decidable (_ ∨ _))

/-- What is left after a command that removes what `target` holds of. -/
def remove (target : List Char → Bool) (ending : Ending) : Layout :=
  let left path := !target path || (ending.error.isSome && ending.spares path)
  { layout with files := layout.files.filter left, directories := layout.directories.filter left }

/-- `rm -f`, which does not remove directories. -/
def removeFile (path : List Char) (ending : Ending) : Layout :=
  { layout.remove (· = path) ending with directories := layout.directories }

def undefine (id : String) : Layout :=
  { layout with
    domains := layout.domains.filter (·.1 ≠ id)
    former := layout.domains.filter (·.1 = id) ++ layout.former }

def notFoundError (id : String) : GoError := errorf ("Domain not found: " ++ id)

/-- The commands of Delete. -/
def answer : (c : Call) → Ending → Option (Answer c × Layout)
  | .listDomains, ending =>
    match ending.error with
    | some err => some (.error err, layout)
    | none => some (.ok (layout.domains.map Prod.fst), layout)
  | .dumpxml id, ending =>
    match ending.error, layout.domains.lookup id with
    | some err, _ => some (.error err, layout)
    | none, none => some (.error (notFoundError id), layout)
    | none, some dom => some (.ok dom.dumpxml, layout)
  | .destroyDomain _, ending => some (ending.error, layout)
  | .undefineDomain id, ending =>
    some (ending.error, if ending.error.isSome then layout else layout.undefine id)
  | .removeFile path, ending => some (ending.error, layout.removeFile path ending)
  | .removeDirectory path, ending => some (ending.error, layout.remove (inside path) ending)
  | _, _ => none

end Layout

def host : Host Call Answer Layout Ending := ⟨Layout.answer⟩

section

variable (layout : Layout) (id : String) (log : List LogEntry) (path : List Char)

/-- Delete as a program of commands. -/
def deletion : Program Call Answer (Except GrpcError String) :=
  delete perform id

abbrev LogEntry : Type := Event Call Answer

def Disk.writable (d : Disk) : Bool := decide (d.device = .disk) && !d.readonly

/-- No domain but `id` names the file. -/
def Layout.Unshared : Prop :=
  ∀ domain ∈ layout.domains, domain.1 ≠ id → path ∉ domain.2.files

/-- A file is under no disk of the domain. -/
def Layout.Topmost : Prop :=
  ∀ domain ∈ layout.domains, domain.1 = id → ∀ d ∈ domain.2.disks, ∀ layer ∈ d.backing,
    layer.source.path ≠ path

/-- The file of a writable disk of the domain, as it is or was defined. -/
def Layout.DiskOf : Prop :=
  ∃ domain ∈ layout.domains ++ layout.former, domain.1 = id ∧
    ∃ d ∈ domain.2.disks, d.writable = true ∧ d.source.path = path

/-- What belongs to a domain: its writable disks and its cloud-init directory, as far as
nothing else uses them. -/
def Layout.Owns : Prop :=
  (layout.DiskOf id path ∨ inside (cloudInitDirectory id) path = true) ∧
    layout.Unshared id path ∧ layout.Topmost id path

instance : Decidable (layout.Unshared id path) := List.decidableBAll _ _

instance : Decidable (layout.Topmost id path) := List.decidableBAll _ _

instance : Decidable (layout.DiskOf id path) := List.decidableBEx _ _

instance : Decidable (layout.Owns id path) := inferInstanceAs (Decidable (_ ∧ _))

/-- What Delete goes for. Of a domain: the files that its definition names, as they are written
there, unless they pass for cloud-init ISOs, and the directory of the first that does. Without a
definition: what has a guessed name. -/
def Layout.Target : Prop :=
  match layout.domains.lookup id with
  | some dom =>
    path ∈ layout.files ∧ path ∈ dom.files.map escape ∧ seedFile path = false ∨
      layout.Has path ∧ ((dom.files.map escape).find? isCloudInitISO).any
        (fun iso => inside (Go.beforeLast '/' iso) path) = true
  | none =>
    path ∈ layout.files ∧ path ∈ orphanedDisks id ∨
      layout.Has path ∧ inside (cloudInitDirectory id) path = true

/-- The list of domains did not have the domain. -/
def Absent : Prop :=
  ∃ domains, ⟨.listDomains, .ok domains⟩ ∈ log ∧ id ∉ domains

/-- A definition of the domain was read. -/
def Dumped (xml : List Char) : Prop :=
  ⟨.dumpxml id, .ok xml⟩ ∈ log

/-- Which commands Delete runs from a log. -/
def MayRun : Call → Prop
  | .listDomains => log = []
  | .removeFile path => (∃ xml, Dumped id log xml ∧ path ∈ domainDiskPaths xml) ∨
      Absent id log ∧ path ∈ orphanedDisks id
  | .removeDirectory path => (∃ xml, Dumped id log xml ∧ cloudInitISOPath xml ≠ [] ∧
      path = Go.beforeLast '/' (cloudInitISOPath xml)) ∨
      Absent id log ∧ path = cloudInitDirectory id
  | .undefineDomain other => other = id
  | _ => True

end

section Commands

variable {id : String} {log : List LogEntry}

theorem deleteDiskFiles_obeys {paths : List (List Char)}
    (h : ∀ path ∈ paths, MayRun id log (.removeFile path)) :
    (deleteDiskFiles perform paths).Obeys (MayRun id) (fun _ log' => log <:+ log') log := by
  induction paths generalizing log with
  | nil => exact suffix_refl log
  | cons path paths ih =>
    rw [deleteDiskFiles, perform_bind]
    refine ⟨h path (.head _), fun answer => ?_⟩
    have hlater : ∀ next ∈ paths, MayRun id (⟨.removeFile path, answer⟩ :: log)
        (.removeFile next) := by
      intro next hnext
      rcases h next (.tail _ hnext) with ⟨xml, hdumped, hmem⟩ | ⟨habsent, hmem⟩
      · exact .inl ⟨xml, .tail _ hdumped, hmem⟩
      · obtain ⟨domains, hlisted, hnot⟩ := habsent
        exact .inr ⟨⟨domains, .tail _ hlisted, hnot⟩, hmem⟩
    exact (ih hlater).mono fun _ _ _ hsuffix => (suffix_cons _ log).trans hsuffix

theorem cleanupOrphanedResources_obeys (h : Absent id log) :
    (cleanupOrphanedResources perform id).Heeds (MayRun id) log := by
  refine (deleteDiskFiles_obeys fun path hpath => .inr ⟨h, hpath⟩).bind ?_
  intro _ log' hsuffix _
  obtain ⟨domains, hlisted, hnot⟩ := h
  exact ⟨.inr ⟨⟨domains, hsuffix.subset hlisted, hnot⟩, rfl⟩, fun _ => trivial⟩

/-- What `getDomainDiskPaths` answers was read from a definition. -/
theorem getDomainDiskPaths_obeys :
    (getDomainDiskPaths perform id).Obeys (MayRun id)
      (fun paths log' => ∀ path ∈ paths, ∃ xml, Dumped id log' xml ∧ path ∈ domainDiskPaths xml)
      log := by
  rw [getDomainDiskPaths, perform_bind]
  refine ⟨trivial, fun answer => ?_⟩
  cases answer with
  | ok xml => exact fun path hpath => ⟨xml, .head _, hpath⟩
  | error err => exact fun path hpath => by cases hpath

theorem getCloudInitISOPath_obeys :
    (getCloudInitISOPath perform id).Obeys (MayRun id)
      (fun path log' => path ≠ [] → ∃ xml, Dumped id log' xml ∧ path = cloudInitISOPath xml)
      log := by
  rw [getCloudInitISOPath, perform_bind]
  refine ⟨trivial, fun answer => ?_⟩
  cases answer with
  | ok xml => exact fun _ => ⟨xml, .head _, rfl⟩
  | error err => exact fun hne => absurd rfl hne

theorem deletion_obeys (id : String) :
    (deletion id).Heeds (MayRun id) [] := by
  unfold deletion delete
  rw [perform_bind]
  refine ⟨rfl, fun listed => ?_⟩
  cases listed with
  | error err => trivial
  | ok domains =>
    simp only []
    split
    · rename_i hnot
      refine (cleanupOrphanedResources_obeys ⟨domains, .head _, hnot⟩).bind ?_
      exact fun _ _ _ _ => trivial
    · refine getDomainDiskPaths_obeys.bind fun paths log₁ hlog₁ hpaths => ?_
      refine getCloudInitISOPath_obeys.bind fun isoPath log₂ hlog₂ hiso => ?_
      rw [perform_bind]
      refine ⟨trivial, fun destroyed => ?_⟩
      rw [perform_bind]
      refine ⟨rfl, fun undefined => ?_⟩
      cases undefined with
      | some err => trivial
      | none =>
        have hfiles : ∀ path ∈ paths, MayRun id
            (⟨.undefineDomain id, none⟩ :: ⟨.destroyDomain id, destroyed⟩ :: log₂)
            (.removeFile path) := by
          intro path hpath
          obtain ⟨xml, hdumped, hmem⟩ := hpaths path hpath
          exact .inl ⟨xml, .tail _ (.tail _
            (hlog₂.subset hdumped)), hmem⟩
        refine (deleteDiskFiles_obeys hfiles).bind fun _ log₃ _ hlog₃ => ?_
        split
        · rename_i hne
          obtain ⟨xml, hdumped, rfl⟩ := hiso hne
          have hlater : Dumped id log₃ xml :=
            hlog₃.subset (.tail _ (.tail _ hdumped))
          exact ⟨.inl ⟨xml, hlater, hne, rfl⟩, fun _ => trivial⟩
        · trivial

end Commands

section Removal

variable {layout state next : Layout} {id : String} {log : List LogEntry} {ending : Ending}
  {path : List Char}

/-- What is lost was lost before, or is now. -/
theorem lost_of_lost (h : layout.Lost next path) :
    layout.Lost state path ∨ state.Lost next path := by
  rcases h with ⟨hhas, hgone⟩ | ⟨hhas, hgone⟩
  · by_cases hstate : path ∈ state.files
    · exact .inr (.inl ⟨hstate, hgone⟩)
    · exact .inl (.inl ⟨hhas, hstate⟩)
  · by_cases hstate : path ∈ state.directories
    · exact .inr (.inr ⟨hstate, hgone⟩)
    · exact .inl (.inr ⟨hhas, hstate⟩)

theorem not_mem_filter_left {paths : List (List Char)} {target : List Char → Bool}
    (hmem : path ∈ paths) (hgone : path ∉ paths.filter fun path =>
      !target path || (ending.error.isSome && ending.spares path)) : target path = true := by
  by_contra hnot
  exact hgone (mem_filter.mpr ⟨hmem, by rw [Bool.not_eq_true] at hnot; rw [hnot]; rfl⟩)

theorem target_of_lost_remove {target : List Char → Bool}
    (h : state.Lost (state.remove target ending) path) : state.Has path ∧ target path = true := by
  rcases h with ⟨hhas, hgone⟩ | ⟨hhas, hgone⟩
  · exact ⟨.inl hhas, not_mem_filter_left hhas hgone⟩
  · exact ⟨.inr hhas, not_mem_filter_left hhas hgone⟩

theorem eq_of_lost_removeFile {removed : List Char}
    (h : state.Lost (state.removeFile removed ending) path) :
    path ∈ state.files ∧ path = removed := by
  rcases h with ⟨hhas, hgone⟩ | ⟨hhas, hgone⟩
  · exact ⟨hhas, of_decide_eq_true (not_mem_filter_left hhas hgone)⟩
  · exact absurd hhas hgone

theorem lookup_undefine : (layout.undefine id).domains.lookup id = none := by
  refine lookup_eq_none_iff.mpr fun domain hmem => ?_
  have hne : domain.1 ≠ id := by simpa using (mem_filter.mp hmem).2
  simpa using Ne.symm hne

/-- How a Delete that is under way relates to the host it started on. -/
structure Removing (layout : Layout) (id : String) (state : Layout) (log : List LogEntry) :
    Prop where
  target : ∀ path, layout.Lost state path → layout.Target id path
  defined : ∀ dom, state.domains.lookup id = some dom → layout.domains.lookup id = some dom
  files : ∀ path ∈ state.files, path ∈ layout.files
  directories : ∀ path ∈ state.directories, path ∈ layout.directories
  untouched : log = [] → state.domains = layout.domains
  dumped : ∀ xml, Dumped id log xml →
    ∃ dom, layout.domains.lookup id = some dom ∧ xml = dom.dumpxml
  listed : ∀ domains, ⟨.listDomains, .ok domains⟩ ∈ log → domains = layout.domains.map Prod.fst

namespace Removing

section

variable (h : Removing layout id state log)
include h

theorem absent (habsent : Absent id log) : layout.domains.lookup id = none := by
  obtain ⟨domains, hlisted, hnot⟩ := habsent
  rw [h.listed domains hlisted] at hnot
  refine lookup_eq_none_iff.mpr fun domain hmem => ?_
  have hne : domain.1 ≠ id := fun heq => hnot (heq ▸ mem_map_of_mem hmem)
  simpa using Ne.symm hne

variable (hlegible : ∀ dom ∈ layout.domains.lookup id, dom.Legible)
include hlegible

/-- A permitted `rm -f` removes a target. -/
theorem target_file (hallowed : MayRun id log (.removeFile path)) (hfile : path ∈ state.files) :
    layout.Target id path := by
  rcases hallowed with ⟨xml, hdumped, hpath⟩ | ⟨habsent, hpath⟩
  · obtain ⟨dom, hlookup, rfl⟩ := h.dumped xml hdumped
    rw [domainDiskPaths_dumpxml (hlegible dom hlookup), mem_filter] at hpath
    rw [Layout.Target, hlookup]
    exact .inl ⟨h.files path hfile, hpath.1, Bool.not_eq_true' _ ▸ hpath.2⟩
  · rw [Layout.Target, h.absent habsent]
    exact .inl ⟨h.files path hfile, hpath⟩

/-- A permitted `rm -rf` removes targets. -/
theorem target_directory {directory : List Char}
    (hallowed : MayRun id log (.removeDirectory directory)) (hhas : state.Has path)
    (hinside : inside directory path = true) : layout.Target id path := by
  have hhad : layout.Has path := hhas.imp (h.files path) (h.directories path)
  rcases hallowed with ⟨xml, hdumped, hne, rfl⟩ | ⟨habsent, rfl⟩
  · obtain ⟨dom, hlookup, rfl⟩ := h.dumped xml hdumped
    rw [cloudInitISOPath_dumpxml (hlegible dom hlookup)] at hne hinside
    rw [Layout.Target, hlookup]
    dsimp only
    cases hfound : (dom.files.map escape).find? isCloudInitISO with
    | none =>
      rw [hfound] at hne
      exact absurd rfl hne
    | some iso =>
      rw [hfound] at hinside
      exact .inr ⟨hhad, hinside⟩
  · rw [Layout.Target, h.absent habsent]
    exact .inr ⟨hhad, hinside⟩

omit hlegible

/-- An answer that is neither a list of domains nor a definition says nothing new. -/
theorem silent {c : Call} {answer : Answer c} (hlist : c ≠ .listDomains)
    (hdump : ∀ other, c ≠ .dumpxml other)
    (hlost : ∀ path, state.Lost next path → layout.Target id path)
    (hdomains : ∀ dom, next.domains.lookup id = some dom → state.domains.lookup id = some dom)
    (hfiles : ∀ path ∈ next.files, path ∈ state.files)
    (hdirectories : ∀ path ∈ next.directories, path ∈ state.directories) :
    Removing layout id next (⟨c, answer⟩ :: log) where
  target path hgone := (lost_of_lost hgone).elim (h.target path) (hlost path)
  defined dom hlookup := h.defined dom (hdomains dom hlookup)
  files path hmem := h.files path (hfiles path hmem)
  directories path hmem := h.directories path (hdirectories path hmem)
  untouched hnil := by cases hnil
  dumped xml hdumped := by
    rcases mem_cons.mp hdumped with heq | hold
    · exact absurd (congrArg Sigma.fst heq).symm (hdump id)
    · exact h.dumped xml hold
  listed domains hlisted := by
    rcases mem_cons.mp hlisted with heq | hold
    · exact absurd (congrArg Sigma.fst heq).symm hlist
    · exact h.listed domains hold

/-- A query leaves the host as it is. -/
theorem query {entry : LogEntry}
    (hdumped : ∀ xml, entry = ⟨.dumpxml id, .ok xml⟩ →
      ∃ dom, layout.domains.lookup id = some dom ∧ xml = dom.dumpxml)
    (hlisted : ∀ domains, entry = ⟨.listDomains, .ok domains⟩ →
      domains = layout.domains.map Prod.fst) :
    Removing layout id state (entry :: log) where
  target := h.target
  defined := h.defined
  files := h.files
  directories := h.directories
  untouched hnil := by cases hnil
  dumped xml hmem := by
    rcases mem_cons.mp hmem with heq | hold
    · exact hdumped xml heq.symm
    · exact h.dumped xml hold
  listed domains hmem := by
    rcases mem_cons.mp hmem with heq | hold
    · exact hlisted domains heq.symm
    · exact h.listed domains hold

include hlegible

/-- Every permitted command keeps to the targets. -/
theorem answer {c : Call} {r : Answer c} (hallowed : MayRun id log c)
    (hanswer : state.answer c ending = some (r, next)) :
    Removing layout id next (⟨c, r⟩ :: log) := by
  have hkept : ∀ path, state.Lost state path → layout.Target id path := fun path hlost => by
    rcases hlost with ⟨hmem, hnot⟩ | ⟨hmem, hnot⟩ <;> exact absurd hmem hnot
  cases c with
  | listDomains =>
    have hlog : log = [] := hallowed
    simp only [Layout.answer] at hanswer
    split at hanswer
    · cases hanswer
      exact h.query nofun nofun
    · cases hanswer
      refine h.query nofun ?_
      intro domains heq
      cases heq
      rw [h.untouched hlog]
  | dumpxml other =>
    simp only [Layout.answer] at hanswer
    split at hanswer
    case h_1 | h_2 =>
      cases hanswer
      exact h.query nofun nofun
    · rename_i dom _ hlookup
      cases hanswer
      refine h.query ?_ nofun
      intro xml heq
      cases heq
      exact ⟨dom, h.defined dom hlookup, rfl⟩
  | destroyDomain other =>
    cases hanswer
    exact h.silent nofun nofun hkept (fun _ hmem => hmem) (fun _ hmem => hmem) fun _ hmem => hmem
  | undefineDomain other =>
    obtain rfl : other = id := hallowed
    cases hanswer
    split
    · exact h.silent nofun nofun hkept (fun _ hmem => hmem) (fun _ hmem => hmem) fun _ hmem => hmem
    · refine h.silent nofun nofun hkept ?_ (fun _ hmem => hmem) fun _ hmem => hmem
      intro dom hlookup
      rw [lookup_undefine] at hlookup
      cases hlookup
  | removeFile path =>
    cases hanswer
    refine h.silent nofun nofun ?_ (fun _ hmem => hmem) (fun _ => mem_of_mem_filter)
      fun _ hmem => hmem
    intro gone hgone
    obtain ⟨hfile, rfl⟩ := eq_of_lost_removeFile hgone
    exact h.target_file hlegible hallowed hfile
  | removeDirectory path =>
    cases hanswer
    refine h.silent nofun nofun ?_ (fun _ hmem => hmem) (fun _ => mem_of_mem_filter)
      fun _ => mem_of_mem_filter
    intro gone hgone
    obtain ⟨hhas, hinside⟩ := target_of_lost_remove hgone
    exact h.target_directory hlegible hallowed hhas hinside
  | prepareVM _ | defineDomain _ | getDomainInfo _ => cases hanswer

end

end Removing

/-- However its commands end and wherever it is cut off, Delete removes only targets. -/
theorem target_of_lost {endings : List Ending}
    {out : Outcome Call Answer Layout (Except GrpcError String)}
    (hlegible : ∀ dom ∈ layout.domains.lookup id, dom.Legible)
    (hrun : (deletion id).run host layout [] endings = some out)
    (hlost : layout.Lost out.state path) : layout.Target id path := by
  have hstart : Removing layout id layout [] := by
    refine ⟨fun path hlost => ?_, fun _ hmem => hmem, fun _ hmem => hmem, fun _ hmem => hmem,
      fun _ => rfl, nofun, nofun⟩
    rcases hlost with ⟨hmem, hnot⟩ | ⟨hmem, hnot⟩ <;> exact absurd hmem hnot
  refine ((deletion_obeys id).run_induct (I := Removing layout id) hrun
    (fun _ _ => trivial) hstart ?_).1.target path hlost
  intro state log c ending r next hremoving hallowed _ hanswer _
  exact hremoving.answer hlegible hallowed hanswer

/-- Files that are removed one after the other are gone, and nothing comes back. -/
theorem deleteDiskFiles_leads (paths : List (List Char)) (state : Layout) :
    ∃ next, Leads host (deleteDiskFiles perform paths) state () next ∧
      (∀ path ∈ paths, path ∉ next.files) ∧ (∀ path ∈ next.files, path ∈ state.files) ∧
      next.directories = state.directories := by
  induction paths generalizing state with
  | nil => exact ⟨state, leads_done _ _, forall_mem_nil _, fun _ hmem => hmem, rfl⟩
  | cons path paths ih =>
    obtain ⟨next, hleads, hgone, hfiles, hdirectories⟩ := ih (state.removeFile path {})
    refine ⟨next, leads_perform {} rfl hleads, forall_mem_cons.mpr ⟨?_, hgone⟩,
      fun other hmem => mem_of_mem_filter (hfiles other hmem), hdirectories⟩
    intro hmem
    simpa using (mem_filter.mp (hfiles path hmem)).2

theorem not_has_remove {target : List Char → Bool} (h : target path = true) :
    path ∉ (state.remove target {}).files ∧ path ∉ (state.remove target {}).directories := by
  constructor <;> intro hmem <;> simpa [h] using (mem_filter.mp hmem).2

/-- Without a definition the guessed names are removed. -/
theorem leads_absent (hlookup : layout.domains.lookup id = none) :
    ∃ next, Leads host (deletion id) layout (.ok "") next ∧
      ∀ path, layout.Target id path → layout.Lost next path := by
  have hnot : id ∉ layout.domains.map Prod.fst := by
    intro hmem
    obtain ⟨domain, hdomain, rfl⟩ := mem_map.mp hmem
    simpa using lookup_eq_none_iff.mp hlookup domain hdomain
  obtain ⟨next, hfiles, hgone, -, -⟩ := deleteDiskFiles_leads (orphanedDisks id) layout
  refine ⟨next.remove (inside (cloudInitDirectory id)) {}, ?_, fun path htarget => ?_⟩
  · refine leads_perform {} rfl ?_
    dsimp only
    rw [if_pos hnot]
    exact (hfiles.bind (leads_perform {} rfl (leads_done () _))).bind
      (leads_done _ _)
  · rw [Layout.Target, hlookup] at htarget
    rcases htarget with ⟨hfile, horphan⟩ | ⟨hhas, hinside⟩
    · exact .inl ⟨hfile, fun hmem => hgone path horphan (mem_of_mem_filter hmem)⟩
    · obtain ⟨hnoFile, hnoDirectory⟩ := not_has_remove hinside
      exact hhas.imp (⟨·, hnoFile⟩) (⟨·, hnoDirectory⟩)

/-- A definition is read twice, and what it names is removed. -/
theorem leads_defined {dom : Domain} (hlookup : layout.domains.lookup id = some dom)
    (hlegible : dom.Legible) :
    ∃ next, Leads host (deletion id) layout (.ok "") next ∧
      ∀ path, layout.Target id path → layout.Lost next path := by
  have hin : id ∈ layout.domains.map Prod.fst := by
    obtain ⟨before, after, hdomains, -⟩ := lookup_eq_some_iff.mp hlookup
    rw [hdomains, map_append]
    exact mem_append_right _ (.head _)
  have hdump : host.answer layout (.dumpxml id) {} = some (.ok dom.dumpxml, layout) := by
    simp [host, Layout.answer, hlookup]
  obtain ⟨next, hfiles, hgone, -, -⟩ :=
    deleteDiskFiles_leads (domainDiskPaths dom.dumpxml) (layout.undefine id)
  have hpaths : ∀ path ∈ dom.files.map escape, seedFile path = false → path ∉ next.files := by
    intro path hpath hseed
    refine hgone path ?_
    rw [domainDiskPaths_dumpxml hlegible]
    exact mem_filter.mpr ⟨hpath, by rw [hseed]; rfl⟩
  -- What is left is the directory of the ISO, if there is one.
  have hleads : ∀ last, Leads host
      (if cloudInitISOPath dom.dumpxml ≠ [] then
        deleteCloudInitResources perform (cloudInitISOPath dom.dumpxml) >>= fun _ =>
          pure (.ok "")
      else pure (.ok "")) next (.ok "" : Except GrpcError String) last →
      Leads host (deletion id) layout (.ok "") last := by
    intro last hlast
    refine leads_perform {} rfl ?_
    dsimp only
    rw [if_neg (not_not.mpr hin)]
    refine Leads.bind (leads_perform {} hdump (leads_done _ _)) ?_
    refine Leads.bind (leads_perform {} hdump (leads_done _ _)) ?_
    exact leads_perform {} rfl (leads_perform {} rfl (hfiles.bind hlast))
  unfold Layout.Target
  rw [cloudInitISOPath_dumpxml hlegible] at hleads
  rw [hlookup]
  dsimp only
  cases hfound : (dom.files.map escape).find? isCloudInitISO with
  | none =>
    rw [hfound] at hleads
    refine ⟨next, hleads next (leads_done _ _), ?_⟩
    rintro path (⟨hfile, hpath, hseed⟩ | ⟨-, hnone⟩)
    · exact .inl ⟨hfile, hpaths path hpath hseed⟩
    · cases hnone
  | some iso =>
    have hne : iso ≠ [] := by
      rintro rfl
      cases find?_some hfound
    rw [hfound, Option.getD_some, if_pos hne] at hleads
    refine ⟨next.remove (inside (Go.beforeLast '/' iso)) {}, hleads _ ?_, ?_⟩
    · exact Leads.bind (leads_perform {} rfl (leads_done () _))
        (leads_done _ _)
    · rintro path (⟨hfile, hpath, hseed⟩ | ⟨hhas, hinside⟩)
      · exact .inl ⟨hfile, fun hmem => hpaths path hpath hseed (mem_of_mem_filter hmem)⟩
      · obtain ⟨hnoFile, hnoDirectory⟩ := not_has_remove
          (show inside (Go.beforeLast '/' iso) path = true from hinside)
        exact hhas.imp (⟨·, hnoFile⟩) (⟨·, hnoDirectory⟩)

/-- If every command succeeds, all targets are removed. -/
theorem exists_run_lost (hlegible : ∀ dom ∈ layout.domains.lookup id, dom.Legible) :
    ∃ endings out, (deletion id).run host layout [] endings = some out ∧
      ∀ path, layout.Target id path → layout.Lost out.state path := by
  obtain ⟨next, hleads, hlost⟩ : ∃ next, Leads host (deletion id) layout (.ok "") next ∧
      ∀ path, layout.Target id path → layout.Lost next path := by
    cases hlookup : layout.domains.lookup id with
    | none => exact leads_absent hlookup
    | some dom => exact leads_defined hlookup (hlegible dom hlookup)
  obtain ⟨endings, log, hrun⟩ := hleads []
  exact ⟨endings, _, hrun, hlost⟩

end Removal

namespace Sample

/-! Two VMs of the provider with an installation medium, and a linked clone of the first. -/

def image (name : String) : List Char :=
  "/var/lib/libvirt/images/".toList ++ name.toList ++ ".qcow2".toList

def cloudInitISO (id : String) : List Char := cloudInitDirectory id ++ "/cloud-init.iso".toList

def medium : List Char := "/iso/seed-cidata.iso".toList

def cdrom (path : List Char) : Element :=
  .disk { device := .cdrom, source := { path }, readonly := true }

def domain (disk iso : List Char) (backing : List (List Char)) : Domain where
  elements := [
    .line ⟨"<domain type='kvm'>".toList, by decide⟩,
    .disk { source := { path := disk }, backing := backing.map fun path => { source := { path } } },
    cdrom iso, cdrom medium,
    .line ⟨"</domain>".toList, by decide⟩]

def web : Domain := domain (image "web") (cloudInitISO "web") []

def db : Domain := domain (image "db") (cloudInitISO "db") []

/-- `rewriteDomainXMLForClone` leaves the cloud-init ISO of the source. -/
def clone : Domain := domain (image "copy") (cloudInitISO "web") [image "web"]

def files (ids : List String) : List (List Char) :=
  medium :: ids.flatMap fun id => [image id, cloudInitISO id]

def linked : Layout where
  files := image "copy" :: files ["web", "db"]
  domains := [("copy", clone), ("web", web), ("db", db)]

def separate : Layout where
  files := files ["web", "db"]
  domains := [("web", web), ("db", db)]

end Sample

open Sample

end Virtrigaud.Libvirt
