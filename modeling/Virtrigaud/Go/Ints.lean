import Mathlib.Tactic.Common

/-!
# Go integers

Conversions of Go's sized integers, and the decimal notation of `strconv` and `fmt`.
-/

namespace Go

/-- `int32(n)`. -/
def int32 (n : Int) : Int := (BitVec.ofInt 32 n).toInt

/-- `int64(n)`. -/
def int64 (n : Int) : Int := (BitVec.ofInt 64 n).toInt

/-- The digits of a number, at least one. -/
def digits? (s : List Char) : Option Nat :=
  if s.isEmpty || s.any (fun c => !c.isDigit) then none else some (Nat.ofDigitChars 10 s 0)

/-- `strconv.Atoi`; an `int` has 64 bits. -/
def atoi (s : String) : Option Int :=
  match s.toList with
  | '-' :: rest => (digits? rest).bind fun n =>
    if n ≤ 9223372036854775808 then some (-n) else none
  | '+' :: rest => (digits? rest).bind fun n => if n ≤ 9223372036854775807 then some n else none
  | rest => (digits? rest).bind fun n => if n ≤ 9223372036854775807 then some n else none

/-- `fmt.Sprintf("%d", n)`. -/
def formatInt (n : Int) : String := toString n

theorem formatInt_natCast (n : Nat) : formatInt n = String.ofList (Nat.toDigits 10 n) := by
  rw [← Nat.toString_eq_ofList_toDigits]
  rfl

theorem digits?_toDigits (n : Nat) : digits? (Nat.toDigits 10 n) = some n := by
  have hempty : (Nat.toDigits 10 n).isEmpty = false := by
    simp [Nat.toDigits_ne_nil]
  have hdigits : (Nat.toDigits 10 n).any (fun c => !c.isDigit) = false := by
    rw [List.any_eq_false]
    intro c hc
    simp [Nat.isDigit_of_mem_toDigits (by decide) (by decide) hc]
  unfold digits?
  rw [hempty, hdigits, Nat.ofDigitChars_ten_toDigits]
  rfl

/-- A number is printed in digits and a sign. -/
theorem mem_formatInt {n : Int} {c : Char} (h : c ∈ (formatInt n).toList) :
    c = '-' ∨ c.isDigit = true := by
  cases n with
  | ofNat n =>
    have hprint : formatInt (Int.ofNat n) = String.ofList (Nat.toDigits 10 n) := formatInt_natCast n
    rw [hprint, String.toList_ofList] at h
    exact .inr (Nat.isDigit_of_mem_toDigits (by decide) (by decide) h)
  | negSucc n =>
    have hprint : formatInt (Int.negSucc n) = "-" ++ formatInt (n + 1 : Nat) := rfl
    rw [hprint, formatInt_natCast, String.toList_append] at h
    rcases List.mem_append.mp h with hsign | hdigit
    · exact .inl (List.mem_singleton.mp hsign)
    · rw [String.toList_ofList] at hdigit
      exact .inr (Nat.isDigit_of_mem_toDigits (by decide) (by decide) hdigit)

theorem not_mem_formatInt {n : Int} {c : Char} (hsign : c ≠ '-') (hdigit : c.isDigit = false) :
    c ∉ (formatInt n).toList := by
  intro hmem
  rcases mem_formatInt hmem with heq | hc
  · exact hsign heq
  · rw [hdigit] at hc
    cases hc

/-- What was printed is read back. -/
theorem atoi_formatInt (n : Nat) (h : n ≤ 9223372036854775807) :
    atoi (formatInt n) = some (n : Int) := by
  have hdigit : ∀ c ∈ Nat.toDigits 10 n, c.isDigit = true := fun c hc =>
    Nat.isDigit_of_mem_toDigits (by decide) (by decide) hc
  rw [formatInt_natCast]
  unfold atoi
  rw [String.toList_ofList]
  split
  · rename_i heq
    simp [heq] at hdigit
  · rename_i heq
    simp [heq] at hdigit
  · rw [digits?_toDigits]
    simp [h]

end Go
