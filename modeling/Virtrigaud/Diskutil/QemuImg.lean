import Virtrigaud.Api.Meta
import Virtrigaud.Effects.System
import Virtrigaud.Go.Ints

/-!
# Sizes on the command line of qemu-img

`formatSize` prints a size in the largest unit that is not above it, without a fraction.
-/

namespace Virtrigaud.Diskutil

open Effects Program List

def kb : Nat := 1024
def mb : Nat := 1024 * kb
def gb : Nat := 1024 * mb
def tb : Nat := 1024 * gb

/-- The cases of `formatSize`: the unit and its suffix. -/
def unit (bytes : Int) : Int × String :=
  if bytes ≥ tb then (tb, "T")
  else if bytes ≥ gb then (gb, "G")
  else if bytes ≥ mb then (mb, "M")
  else if bytes ≥ kb then (kb, "K")
  else (1, "")

def formatSize (bytes : Int) : String := Go.formatInt (bytes / (unit bytes).1) ++ (unit bytes).2

/-- Running qemu-img; a command that fails leaves an error and its output. -/
structure Run where
  args : List String

abbrev M := Program Run fun _ => Option (String × String)

def run (op : String) (args : List String) : M (Option GoError) := do
  return (← perform ⟨op :: args⟩).map fun failed =>
    errorf ("qemu-img " ++ op ++ " failed: " ++ failed.1 ++ ", output: " ++ failed.2)

def create (imagePath format : String) (sizeBytes : Int) : M (Option GoError) :=
  if imagePath = "" then pure (some (errorf "image path is required"))
  else if format = "" then pure (some (errorf "format is required"))
  else if sizeBytes ≤ 0 then pure (some (errorf "size must be positive"))
  else run "create" ["-f", format, imagePath, formatSize sizeBytes]

def resize (imagePath : String) (newSizeBytes : Int) : M (Option GoError) :=
  if imagePath = "" then pure (some (errorf "image path is required"))
  else if newSizeBytes ≤ 0 then pure (some (errorf "new size must be positive"))
  else run "resize" [imagePath, formatSize newSizeBytes]

/-- The binary suffixes of qemu-img. -/
def suffix : List Char → Option Nat
  | [] | ['b'] | ['B'] => some 1
  | ['k'] | ['K'] => some kb
  | ['M'] => some mb
  | ['G'] => some gb
  | ['T'] => some tb
  | _ => none

/-- The number of bytes that qemu-img reads in an argument. -/
def denotes (arg : String) : Option Int := do
  let n ← Go.digits? (arg.toList.takeWhile Char.isDigit)
  let factor ← suffix (arg.toList.dropWhile Char.isDigit)
  return n * factor

/-- The size that a command passes on. -/
def passed (c : Run) : Option Int := c.args.getLast?.bind denotes

/-- The unit and its suffix, which no digit begins. -/
theorem suffix_unit (bytes : Int) : ∃ n : Nat, (unit bytes).1 = n ∧
    suffix (unit bytes).2.toList = some n ∧ (unit bytes).2.toList.takeWhile Char.isDigit = [] := by
  unfold unit
  repeat' first | exact ⟨_, rfl, by decide⟩ | split

variable {bytes : Int}

/-- An argument denotes the whole units of the size. -/
theorem denotes_formatSize (h : 0 < bytes) :
    denotes (formatSize bytes) = some (bytes / (unit bytes).1 * (unit bytes).1) := by
  obtain ⟨n, hunit, hsuffix, hfront⟩ := suffix_unit bytes
  have hnonneg : 0 ≤ bytes / n := Int.ediv_nonneg (by omega) (by omega)
  obtain ⟨count, hcount⟩ := Int.eq_ofNat_of_zero_le hnonneg
  have hdigits : ∀ c ∈ Nat.toDigits 10 count, c.isDigit = true := fun _ =>
    Nat.isDigit_of_mem_toDigits (by decide) (by decide)
  have hrest := takeWhile_append_dropWhile (p := Char.isDigit) (l := (unit bytes).2.toList)
  rw [hfront, nil_append] at hrest
  unfold denotes formatSize
  rw [hunit, hcount, Go.formatInt_natCast, String.toList_append, String.toList_ofList,
    takeWhile_append_of_pos hdigits, dropWhile_append_of_pos hdigits, hfront, hrest, append_nil,
    Go.digits?_toDigits, hsuffix]
  rfl

/-- Create and Resize pass on a size that is a multiple of its unit. -/
theorem size_passed (imagePath format : String) (h : (unit bytes).1 ∣ bytes) :
    (create imagePath format bytes).Heeds (fun _ c => passed c = some bytes) [] ∧
      (resize imagePath bytes).Heeds (fun _ c => passed c = some bytes) [] := by
  have hrun : ¬ bytes ≤ 0 → denotes (formatSize bytes) = some bytes := by
    intro hpos
    rw [denotes_formatSize (Int.not_le.mp hpos), Int.ediv_mul_cancel h]
  unfold create resize
  constructor <;> repeat' first
    | trivial
    | exact obeys_perform (hrun ‹_›) fun _ => trivial
    | split

theorem size_passed_gib : (unit (10 * gb)).1 ∣ 10 * gb ∧
    (resize "web" (10 * gb)).Heeds (fun _ c => passed c = some (10 * gb)) [] := by
  have hunit : (unit (10 * gb)).1 ∣ 10 * gb := by decide
  exact ⟨hunit, (size_passed "web" "raw" hunit).2⟩

/-- One and a half GiB become one. -/
theorem size_cut : ∃ c next, create "web" "qcow2" (gb + 512 * mb) = .call c next ∧
    passed c = some gb :=
  ⟨_, _, rfl, by decide⟩

end Virtrigaud.Diskutil
