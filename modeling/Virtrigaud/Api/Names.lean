import Mathlib.Data.List.Infix
import Virtrigaud.Go.Strings

/-!
# Labels

The names that the CRDs admit for a VM are made of lower-case letters, digits and hyphens.
The name of an adopted VM is made a label first.
-/

namespace Virtrigaud

open List

def labelChar (c : Char) : Bool := c.isLower || c.isDigit || c = '-'

/-- A name of lower-case letters, digits and hyphens. -/
def Label (name : List Char) : Prop := ∀ c ∈ name, labelChar c = true

instance (name : List Char) : Decidable (Label name) :=
  decidable_of_iff (name.all labelChar = true) List.all_eq_true

variable {name : List Char}

theorem Label.not_mem (h : Label name) {c : Char} (hc : labelChar c = false) : c ∉ name := by
  intro hmem
  rw [h c hmem] at hc
  cases hc

theorem labelChar_cases {c : Char} (h : labelChar c = true) :
    ('a'.val ≤ c.val ∧ c.val ≤ 'z'.val) ∨ ('0'.val ≤ c.val ∧ c.val ≤ '9'.val) ∨ c = '-' := by
  unfold labelChar at h
  rw [Bool.or_eq_true, Bool.or_eq_true, decide_eq_true_iff] at h
  rcases h with (hlower | hdigit) | hdash
  · exact .inl ((Bool.and_eq_true_iff.mp hlower).imp of_decide_eq_true of_decide_eq_true)
  · exact .inr (.inl ((Bool.and_eq_true_iff.mp hdigit).imp of_decide_eq_true of_decide_eq_true))
  · exact .inr (.inr hdash)

/-- A DNS label (RFC 1123). -/
def isDNSLabel (name : String) : Bool :=
  let plain (c : Char) : Bool := c.isLower || c.isDigit
  name.toList.length ≤ 63 && name.toList.all (fun c => plain c || c == '-') &&
    (name.toList.head?.any plain && name.toList.getLast?.any plain)

/-- `sanitizeVMName`, with `unicode.ToLower` as `lower`. A byte that is not UTF-8 is a rune too. -/
def sanitizeVMName (lower : Char → Char) (name : List Char) : List Char :=
  let name := name.map lower
  let name := Go.replaceChar '_' '-' name
  let name := Go.replaceChar '.' '-' name
  let name := Go.replaceChar ' ' '-' name
  let name := name.filter labelChar
  let name := Go.trim (· = '-') name
  if 63 < name.length then Go.trim (· = '-') (name.take 63) else name

/-- A label on which `sanitizeVMName` has nothing to do. -/
structure Sanitized (name : List Char) : Prop where
  label : Label name
  short : name.length ≤ 63
  first : ∀ c ∈ name.head?, decide (c = '-') = false
  last : ∀ c ∈ name.getLast?, decide (c = '-') = false

variable {lower : Char → Char}

/-- Cutting a label short may leave a hyphen at its end, so that it is trimmed again. -/
theorem sanitized_sanitizeVMName : Sanitized (sanitizeVMName lower name) := by
  have hlabel : ∀ s : List Char, Label (Go.trim (· = '-') (s.filter labelChar)) :=
    fun s c hc => (mem_filter.mp ((Go.trim_sublist _ _).mem hc)).2
  simp only [sanitizeVMName]
  split
  · refine ⟨?_, ?_, fun c => Go.cut_head?_trim, fun c => Go.cut_getLast?_trim⟩
    · intro c hc
      exact hlabel _ c (mem_of_mem_take ((Go.trim_sublist _ _).mem hc))
    · exact (Go.trim_sublist _ _).length_le.trans (length_take_le _ _)
  · exact ⟨hlabel _, Nat.not_lt.mp ‹_›, fun c => Go.cut_head?_trim, fun c => Go.cut_getLast?_trim⟩

theorem Sanitized.kept (h : Sanitized name) (hlower : ∀ c, labelChar c = true → lower c = c) :
    sanitizeVMName lower name = name := by
  have hmap : name.map lower = name := by
    rw [map_congr_left (g := id) fun c hc => hlower c (h.label c hc), map_id]
  simp only [sanitizeVMName, hmap, Go.replaceChar_eq_self (h.label.not_mem (c := '_') rfl),
    Go.replaceChar_eq_self (h.label.not_mem (c := '.') rfl),
    Go.replaceChar_eq_self (h.label.not_mem (c := ' ') rfl), filter_eq_self.mpr h.label,
    Go.trim_eq_self h.first h.last, if_neg (Nat.not_lt.mpr h.short)]

theorem Sanitized.isDNSLabel (h : Sanitized name) (hne : name ≠ []) :
    isDNSLabel (String.ofList name) = true := by
  have hplain : ∀ c ∈ name, decide (c = '-') = false → (c.isLower || c.isDigit) = true := by
    intro c hc hdash
    simpa [labelChar, of_decide_eq_false hdash] using h.label c hc
  have hfirst := hplain _ (head_mem hne) (h.first _ (head?_eq_some_head hne))
  have hlast := hplain _ (getLast_mem hne) (h.last _ (getLast?_eq_some_getLast hne))
  have hall : name.all (fun c => c.isLower || c.isDigit || c == '-') = true :=
    all_eq_true.mpr h.label
  simp [Virtrigaud.isDNSLabel, head?_eq_some_head hne, getLast?_eq_some_getLast hne, hfirst, hlast,
    h.short, hall]

theorem toLower_labelChar {c : Char} (h : labelChar c = true) : c.toLower = c := by
  refine dif_neg fun hupper => ?_
  rcases labelChar_cases h with h | h | rfl
  · exact absurd (UInt32.le_trans h.1 hupper.2) (by decide)
  · exact absurd (UInt32.le_trans hupper.1 h.2) (by decide)
  · exact absurd hupper.1 (by decide)

/-- Whatever the name was, a label is made of it, or nothing. -/
theorem sanitizeVMName_label (hlower : ∀ c, labelChar c = true → lower c = c) (name : List Char) :
    (sanitizeVMName lower name = [] ∨
      isDNSLabel (String.ofList (sanitizeVMName lower name)) = true) ∧
    sanitizeVMName lower (sanitizeVMName lower name) = sanitizeVMName lower name := by
  have h : Sanitized (sanitizeVMName lower name) := sanitized_sanitizeVMName
  refine ⟨?_, h.kept hlower⟩
  by_cases hne : sanitizeVMName lower name = []
  · exact .inl hne
  · exact .inr (h.isDNSLabel hne)

theorem sanitizeVMName_label_mixed :
    sanitizeVMName Char.toLower "-My_VM.01!".toList = "my-vm-01".toList ∧
      isDNSLabel "my-vm-01" = true := by
  have hname : sanitizeVMName Char.toLower "-My_VM.01!".toList = "my-vm-01".toList := rfl
  have hlabel := (sanitizeVMName_label @toLower_labelChar "-My_VM.01!".toList).1
  rw [hname] at hlabel
  exact ⟨hname, hlabel.resolve_left (by decide)⟩

end Virtrigaud
