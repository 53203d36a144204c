import Mathlib.Data.List.Basic
import Mathlib.Data.Nat.Find
import Mathlib.Tactic.Common

/-!
# Machines

A machine makes a step for an action, or the action cannot happen. Its runs may be restricted
to actions that meet a condition where they happen; `Reach.invariant` is the rule for facts
about the states of such runs. An `Execution` is a run that does not end: what an action brings
about that happens again and again, and every step keeps, holds from some point on.
-/

namespace Effects

/-- What an action makes of a state, if it can happen there. -/
abbrev Machine (σ Action : Type) : Type := σ → Action → Option σ

namespace Machine

variable {σ Action : Type} {m : Machine σ Action} {cond cond' : σ → Action → Prop}
  {start s next : σ}

/-- The states of the runs whose actions all meet the condition. -/
inductive Reach (m : Machine σ Action) (cond : σ → Action → Prop) (start : σ) : σ → Prop
  | refl : Reach m cond start start
  | step {s next : σ} {a : Action} (h : Reach m cond start s) (hcond : cond s a)
      (hstep : m s a = some next) : Reach m cond start next

/-- Any action may happen. -/
def free (_ : σ) (_ : Action) : Prop := True

instance (s : σ) (a : Action) : Decidable (free s a) := inferInstanceAs (Decidable True)

/-- What holds at first and survives every step holds in every state. -/
theorem Reach.invariant {I : σ → Prop} (hstart : I start)
    (hstep : ∀ s a next, I s → cond s a → m s a = some next → I next)
    (h : Reach m cond start s) : I s := by
  induction h with
  | refl => exact hstart
  | step _ hcond hnext ih => exact hstep _ _ _ ih hcond hnext

/-- Make the actions one after another, each where the check allows it. -/
def run (m : Machine σ Action) (check : σ → Action → Bool) : σ → List Action → Option σ
  | s, [] => some s
  | s, a :: actions =>
    if check s a then
      match m s a with
      | some next => m.run check next actions
      | none => none
    else none

theorem Reach.run {check : σ → Action → Bool} {actions : List Action}
    (hcheck : ∀ s a, check s a = true → cond s a) (h : Reach m cond start s)
    (hrun : m.run check s actions = some next) : Reach m cond start next := by
  induction actions generalizing s with
  | nil => exact Option.some.inj hrun ▸ h
  | cons a actions ih =>
    rw [Machine.run] at hrun
    split at hrun
    · rename_i hcond
      split at hrun
      · rename_i after hstep
        exact ih (h.step (hcheck _ _ hcond) hstep) hrun
      · cases hrun
    · cases hrun

variable {P : σ → Prop} [DecidablePred P]

/-- A run that can be computed, with something to be seen at its end. -/
theorem exists_reach_of_run (start : σ) {check : σ → Action → Bool} (actions : List Action)
    (hcheck : ∀ s a, check s a = true → cond s a)
    (hrun : (m.run check start actions).any (decide <| P ·) = true) :
    ∃ s, Reach m cond start s ∧ P s := by
  obtain ⟨s, hend, hs⟩ := (Option.any_eq_true _ _).mp hrun
  exact ⟨s, Reach.refl.run hcheck hend, of_decide_eq_true hs⟩

/-- The same with a condition that is checked as it is, and what follows in such a run. -/
theorem exists_reach [∀ s a, Decidable (cond s a)] {Q : σ → Prop} (actions : List Action)
    (himp : ∀ s, Reach m cond start s → P s → Q s)
    (hrun : (m.run (fun s a => decide (cond s a)) start actions).any (decide <| P ·) = true) :
    ∃ s, Reach m cond start s ∧ Q s := by
  obtain ⟨s, hreach, hs⟩ := exists_reach_of_run start actions (fun _ _ => of_decide_eq_true) hrun
  exact ⟨s, hreach, himp s hreach hs⟩

/-- States and actions of a run that does not end. -/
structure Execution (m : Machine σ Action) where
  state : Nat → σ
  action : Nat → Action
  step : ∀ n, m (state n) (action n) = some (state (n + 1))

namespace Execution

/-- The run that makes the given actions, of a machine in which every action can happen. -/
def follow (next : σ → Action → σ) (htotal : ∀ s a, m s a = some (next s a)) (start : σ)
    (actions : Nat → Action) : Execution m where
  state n := n.rec start fun k s => next s (actions k)
  action := actions
  step _ := htotal _ _

variable (e : Execution m) {P : σ → Prop} {n : Nat}

/-- Again and again such an action happens. -/
def often (helpful : Action → Prop) : Prop :=
  ∀ n, ∃ k, n ≤ k ∧ helpful (e.action k)

variable {e}

theorem step_of_action {a : Action} (h : e.action n = a) :
    m (e.state n) a = some (e.state (n + 1)) :=
  h ▸ e.step n

/-- What every step from some point on keeps. -/
theorem stays (h : P (e.state n))
    (hkeep : ∀ k, n ≤ k → P (e.state k) → P (e.state (k + 1))) {k : Nat} (hk : n ≤ k) :
    P (e.state k) := by
  induction k, hk using Nat.le_induction with
  | base => exact h
  | succ k hk ih => exact hkeep k hk ih

/-- What a recurring action brings about and every step keeps. -/
theorem eventually_always {helpful : Action → Prop} (hoften : e.often helpful)
    (hmake : ∀ k, n ≤ k → helpful (e.action k) → P (e.state (k + 1)))
    (hkeep : ∀ k, n ≤ k → P (e.state k) → P (e.state (k + 1))) :
    ∃ N, n ≤ N ∧ ∀ k, N ≤ k → P (e.state k) := by
  obtain ⟨k, hk, hhelpful⟩ := hoften n
  refine ⟨k + 1, by omega, fun i hi => ?_⟩
  exact stays (hmake k hk hhelpful) (fun j hj => hkeep j (by omega)) hi

/-- The step at which the run leaves where it was. -/
theorem exists_leaving (h : P (e.state 0)) (hleft : ¬ P (e.state n)) :
    ∃ k, k < n ∧ (∀ i, i ≤ k → P (e.state i)) ∧ ¬ P (e.state (k + 1)) := by
  classical
  have hsome : ∃ i, ¬ P (e.state i) := ⟨n, hleft⟩
  obtain ⟨k, hk⟩ : ∃ k, Nat.find hsome = k + 1 :=
    Nat.exists_eq_succ_of_ne_zero fun hzero => (hzero ▸ Nat.find_spec hsome) h
  have hle : k + 1 ≤ n := hk ▸ Nat.find_min' hsome hleft
  refine ⟨k, hle, fun i hi => ?_, hk ▸ Nat.find_spec hsome⟩
  exact not_not.mp (Nat.find_min hsome (by omega))

end Execution

end Machine

end Effects
