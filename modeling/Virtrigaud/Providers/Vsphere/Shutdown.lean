import Virtrigaud.Api.Meta

/-!
# The graceful power-off

The guest shuts down on its own, while the provider looks at the VM now and then and turns it off
when the time is up. vCenter refuses to turn off a VM that is off.
-/

namespace Virtrigaud.Vsphere.Shutdown

/-- Whether the VM is off, at the moment of each call of the operation. -/
abbrev Guest := Nat → Bool

/-- How the operation ends: its error, and whether the VM is off then. -/
structure Result where
  error : Option String := none
  off : Bool
  deriving DecidableEq, Repr

/-- The properties that were read; a VM that was never on has no guest. -/
def getVMwareToolsStatus : Except GoError (Option String) → Except GoError String
  | .error err => .error (err.wrap "failed to get VM properties")
  | .ok none => .ok "toolsNotInstalled"
  | .ok (some status) => .ok status

def fallbackToPowerOff (guest : Guest) (now : Nat) : Result :=
  { error := if guest now then some "power off operation failed" else none
    off := true }

/-- A poll that is not answered is only logged. After the last one the time is up. -/
def waitForGracefulShutdown (guest : Guest) : List Bool → Nat → Result
  | [], now => fallbackToPowerOff guest now
  | answered :: polls, now =>
    if answered && guest now then { off := guest now }
    else waitForGracefulShutdown guest polls (now + 1)

/-- vCenter asks no guest to shut down that is off. -/
def performGracefulShutdown (guest : Guest) (properties : Except GoError (Option String))
    (polls : List Bool) : Result :=
  match getVMwareToolsStatus properties with
  | .error _ => fallbackToPowerOff guest 1
  | .ok status =>
    if status ≠ "toolsOk" ∧ status ≠ "toolsOld" then fallbackToPowerOff guest 1
    else if guest 1 then fallbackToPowerOff guest 2
    else waitForGracefulShutdown guest polls 2

variable (guest : Guest) (polls : List Bool)

/-- The guest is seen off at a poll, or it is still on when the time is up. -/
def SeenOff (now : Nat) : Prop :=
  (∃ i, polls[i]? = some true ∧ guest (now + i) = true) ∨ guest (now + polls.length) = false

/-- A guest that is turned off is on then. With the tools running it is asked to shut down first:
it has to be on for that, or at the next moment, when it is turned off for the refusal. -/
def InTime (properties : Except GoError (Option String)) : Prop :=
  match getVMwareToolsStatus properties with
  | .error _ => guest 1 = false
  | .ok status =>
    if status ≠ "toolsOk" ∧ status ≠ "toolsOld" then guest 1 = false
    else if guest 1 then guest 2 = false
    else SeenOff guest polls 2

theorem fallbackToPowerOff_error (now : Nat) :
    (fallbackToPowerOff guest now).error = none ↔ guest now = false := by
  cases hguest : guest now <;> simp [fallbackToPowerOff, hguest]

/-- The poll at hand, and the polls after it. -/
theorem seenOff_cons (answered : Bool) (now : Nat) :
    SeenOff guest (answered :: polls) now ↔
      (answered = true ∧ guest now = true) ∨ SeenOff guest polls (now + 1) := by
  have hlater : ∀ i, now + (i + 1) = now + 1 + i := by omega
  unfold SeenOff
  rw [List.length_cons, hlater, ← or_assoc]
  refine or_congr_left ⟨?_, ?_⟩
  · rintro ⟨i, hi, hoff⟩
    cases i with
    | zero => exact .inl ⟨Option.some.inj hi, hoff⟩
    | succ i => exact .inr ⟨i, hi, hlater i ▸ hoff⟩
  · rintro (⟨hanswered, hoff⟩ | ⟨i, hi, hoff⟩)
    · exact ⟨0, congrArg some hanswered, hoff⟩
    · exact ⟨i + 1, hi, (hlater i).symm ▸ hoff⟩

theorem waitForGracefulShutdown_error (now : Nat) :
    (waitForGracefulShutdown guest polls now).error = none ↔ SeenOff guest polls now := by
  induction polls generalizing now with
  | nil => simp [waitForGracefulShutdown, SeenOff, fallbackToPowerOff_error]
  | cons answered polls ih =>
    rw [seenOff_cons, waitForGracefulShutdown]
    split
    · rename_i hoff
      exact iff_of_true rfl (.inl (Bool.and_eq_true_iff.mp hoff))
    · rename_i hon
      rw [ih, or_iff_right]
      exact fun h => hon (Bool.and_eq_true_iff.mpr h)

theorem waitForGracefulShutdown_off (now : Nat) :
    (waitForGracefulShutdown guest polls now).off = true := by
  induction polls generalizing now with
  | nil => rfl
  | cons answered polls ih =>
    unfold waitForGracefulShutdown
    split
    · rename_i hoff
      exact (Bool.and_eq_true_iff.mp hoff).2
    · exact ih (now + 1)

/-- The VM is off in the end, also where the operation fails: so success says that it is off
exactly if it is not turned off once more. -/
theorem success_iff_off (properties : Except GoError (Option String)) :
    ((performGracefulShutdown guest properties polls).error = none ↔
        (performGracefulShutdown guest properties polls).off = true) ↔
      InTime guest polls properties := by
  unfold performGracefulShutdown InTime
  cases getVMwareToolsStatus properties with
  | error err => exact (iff_true_right rfl).trans (fallbackToPowerOff_error guest 1)
  | ok status =>
    dsimp only
    split_ifs
    · exact (iff_true_right rfl).trans (fallbackToPowerOff_error guest 1)
    · exact (iff_true_right rfl).trans (fallbackToPowerOff_error guest 2)
    · rw [waitForGracefulShutdown_off, iff_true_right rfl]
      exact waitForGracefulShutdown_error guest polls 2

/-- The guest is on at the only poll and off right after: the operation fails, with the VM off. -/
theorem late_guest_is_an_error :
    performGracefulShutdown (fun now => 3 ≤ now) (.ok (some "toolsOk")) [true] =
      { error := some "power off operation failed", off := true } := by
  decide

end Virtrigaud.Vsphere.Shutdown
