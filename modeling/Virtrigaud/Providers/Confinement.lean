import Virtrigaud.Go.Path
import Virtrigaud.Providers.Libvirt.Volumes

/-!
# Where the files of a transfer are put

Volumes and staging files are named after the target of the request, or after the VM. What the
providers make of such a name cannot lead out of the directory that the file is to be in.
-/

namespace Virtrigaud.Providers

open List Go.Path Libvirt

/-- `sanitizeProxmoxName`; the time is that of a name that comes out empty. -/
def sanitizeProxmoxName (name : String) (time : Int) : String :=
  let cleaned := String.ofList
    (Go.replaceDots '-' (Go.replaceChar '/' '-' (Go.trimSpace name.toList)))
  if cleaned = "" then "disk-" ++ Go.formatInt time else cleaned

def proxmoxImportStageDir : List Char := "/var/tmp".toList

/-- `proxmoxImportStagePath`, for an id that is sanitized. -/
def proxmoxImportStagePath (id srcFormat : String) : List Char :=
  proxmoxImportStageDir ++ "/.virtrigaud-import-".toList ++ id.toList ++ '.' :: srcFormat.toList

def proxmoxExportStageDir : List Char := "/var/tmp".toList

/-- `proxmoxExportStagePath`, for an id that is sanitized. -/
def proxmoxExportStagePath (id : String) (time : Int) : List Char :=
  proxmoxExportStageDir ++ "/.virtrigaud-export-".toList ++ id.toList ++
    '-' :: (Go.formatInt time).toList ++ ".qcow2".toList

/-- Text that can stand in the name of a file. -/
structure FileName (name : List Char) : Prop where
  ne_nil : name ≠ []
  slashFree : '/' ∉ name
  dotsFree : ¬ ['.', '.'] <:+: name

variable {name : List Char}

/-- What trimming and the replacements leave of a name, or what stands in its place. -/
theorem fileName_cleaned {cleaned front : String} {s : List Char}
    (h : cleaned.toList <+: Go.replaceDots '-' (Go.replaceChar '/' '-' s))
    (hfront : front.toList ≠ [] ∧ '/' ∉ front.toList ∧ '.' ∉ front.toList) (time : Int) :
    FileName (if cleaned = "" then front ++ Go.formatInt time else cleaned).toList := by
  split
  · obtain ⟨hne, hslash, hdot⟩ := hfront
    rw [String.toList_append]
    refine ⟨append_ne_nil_of_left_ne_nil hne _,
      not_mem_append hslash (Go.not_mem_formatInt (by decide) rfl), fun hdots => ?_⟩
    exact not_mem_append hdot (Go.not_mem_formatInt (by decide) rfl) (hdots.subset (.head _))
  · rename_i hne
    refine ⟨mt String.toList_eq_nil_iff.mp hne, fun hmem => ?_,
      fun hdots => Go.not_infix_replaceDots _ (hdots.trans h.isInfix)⟩
    rcases Go.mem_replaceDots (h.mem hmem) with heq | hmem
    · cases heq
    · obtain ⟨c, -, hc⟩ := mem_map.mp hmem
      split at hc
      · cases hc
      · exact absurd hc ‹_›

theorem fileName_sanitizeVolumeName (target : String) (time : Int) :
    FileName (sanitizeVolumeName target time).toList := by
  unfold sanitizeVolumeName
  refine fileName_cleaned (s := Go.trimSpace target.toList) ?_ (by decide) time
  rw [Go.trimSuffix]
  split
  · rw [String.toList_ofList, String.toList_ofList]
    exact take_prefix _ _
  · simp only [String.toList_ofList, prefix_rfl]

theorem fileName_sanitizeProxmoxName (target : String) (time : Int) :
    FileName (sanitizeProxmoxName target time).toList := by
  unfold sanitizeProxmoxName
  refine fileName_cleaned (s := Go.trimSpace target.toList) ?_ (by decide) time
  simp only [String.toList_ofList, prefix_rfl]

/-- The path is that of an entry of the directory. Resolved, it is one component longer. -/
def Child (directory path : List Char) : Prop :=
  ∃ entry, Ordinary entry ∧ path = directory ++ '/' :: entry ∧ ∀ rooted,
    (components path).foldl (step rooted) [] =
      entry :: (components directory).foldl (step rooted) []

variable {directory path : List Char}

theorem FileName.child (hname : FileName name) (front ending : List Char) (hfront : '/' ∉ front)
    (hending : '/' ∉ ending) (hlength : 3 ≤ front.length ∨ 3 ≤ ending.length)
    (hpath : path = directory ++ '/' :: (front ++ (name ++ ending))) : Child directory path := by
  have hentry : Ordinary (front ++ (name ++ ending)) := by
    refine ordinary_of_length ?_ (not_mem_append hfront (not_mem_append hname.slashFree hending))
    simp only [length_append]
    omega
  have hsingle : components (front ++ (name ++ ending)) = [front ++ (name ++ ending)] :=
    splitOn_eq_singleton hentry.2.2.2
  refine ⟨_, hentry, hpath, fun rooted => ?_⟩
  rw [hpath, components_append_slash, hsingle, foldl_append, foldl_cons, foldl_nil,
    step_ordinary hentry]

/-- The volume and the staging files are entries of their directories, whatever the name is. -/
theorem staged_in_directory (target format : String) (hformat : '/' ∉ format.toList)
    (time now : Int) (directory source : List Char) :
    let volume := sanitizeVolumeName target time
    let id := sanitizeProxmoxName target time
    (FileName volume.toList ∧ FileName id.toList) ∧
      Child directory (volumePath directory volume) ∧
      Child (directory.rdropWhile (· = '/')) (hostStagePath directory volume format now) ∧
      Child ((Go.beforeLast '/' source).rdropWhile (· = '/'))
        (hostExportStagePath source volume now) ∧
      Child proxmoxImportStageDir (proxmoxImportStagePath id format) ∧
      Child proxmoxExportStageDir (proxmoxExportStagePath id now) := by
  have hvolume := fileName_sanitizeVolumeName target time
  have hid := fileName_sanitizeProxmoxName target time
  have himport : "/.virtrigaud-import-".toList = '/' :: ".virtrigaud-import-".toList := rfl
  have hexport : "/.virtrigaud-export-".toList = '/' :: ".virtrigaud-export-".toList := rfl
  have hdated : ∀ ending : List Char, '/' ∉ ending →
      '/' ∉ '-' :: ((Go.formatInt now).toList ++ ending) := fun ending h =>
    not_mem_cons_of_ne_of_not_mem (by decide)
      (not_mem_append (Go.not_mem_formatInt (by decide) rfl) h)
  have hdefault : '/' ∉ '.' :: (if format = "" then "vmdk" else format).toList := by
    split
    · decide
    · exact not_mem_cons_of_ne_of_not_mem (by decide) hformat
  refine ⟨⟨hvolume, hid⟩, ?_, ?_, ?_, ?_, ?_⟩
  · refine hvolume.child [] ".qcow2".toList not_mem_nil (by decide) (.inr (by decide)) ?_
    rw [volumePath, nil_append]
  · refine hvolume.child ".virtrigaud-import-".toList _ (by decide) (hdated _ hdefault)
      (.inl (by decide)) ?_
    simp only [hostStagePath, himport, append_assoc, cons_append]
  · refine hvolume.child ".virtrigaud-export-".toList _ (by decide)
      (hdated ".qcow2".toList (by decide)) (.inl (by decide)) ?_
    simp only [hostExportStagePath, hexport, append_assoc, cons_append]
  · refine hid.child ".virtrigaud-import-".toList ('.' :: format.toList) (by decide)
      (not_mem_cons_of_ne_of_not_mem (by decide) hformat) (.inl (by decide)) ?_
    simp only [proxmoxImportStagePath, himport, append_assoc, cons_append]
  · refine hid.child ".virtrigaud-export-".toList _ (by decide)
      (hdated ".qcow2".toList (by decide)) (.inl (by decide)) ?_
    simp only [proxmoxExportStagePath, hexport, append_assoc, cons_append]

theorem staged_in_directory_dots :
    FileName (sanitizeVolumeName "../../etc/passwd" 0).toList ∧
      Child "/images".toList "/images/----etc-passwd.qcow2".toList ∧
      Child "/var/tmp".toList "/var/tmp/.virtrigaud-import-----etc-passwd.vmdk".toList := by
  obtain ⟨hname, hvolume, -, -, hstaged, -⟩ := staged_in_directory "../../etc/passwd" "vmdk"
    (by decide) 0 0 "/images".toList "/images/web.qcow2".toList
  exact ⟨hname.1, hvolume, hstaged⟩

end Virtrigaud.Providers
