import Mathlib.Data.Finset.Card
import Virtrigaud.Effects.Machine

/-!
# The gauge of the tasks in flight

A call updates the set under the lock and publishes its size after the lock is released, so
calls may publish in another order than they update.
-/

namespace Virtrigaud.Transport.Inflight

open Effects

/-- The client, with the sizes that its calls have still to publish, the oldest first. -/
structure Client where
  tasks : Bool
  inflightTasks : Finset String := ∅
  gauge : Nat := 0
  unpublished : List Nat := []

/-- The end of the critical section of a call that changes the set. -/
def Client.update (c : Client) (inflightTasks : Finset String) : Client :=
  { c with inflightTasks, unpublished := c.unpublished ++ [inflightTasks.card] }

def Client.trackTaskStart (c : Client) (taskID : String) : Client :=
  if c.tasks = false ∨ taskID = "" ∨ taskID ∈ c.inflightTasks then c
  else c.update (insert taskID c.inflightTasks)

def Client.trackTaskDone (c : Client) (taskID : String) : Client :=
  if c.tasks = false ∨ taskID = "" ∨ taskID ∉ c.inflightTasks then c
  else c.update (c.inflightTasks.erase taskID)

inductive Action
  | trackTaskStart (taskID : String)
  | trackTaskDone (taskID : String)
  | setInflightTasks (n : Nat)

def step : Machine Client Action
  | c, .trackTaskStart taskID => some (c.trackTaskStart taskID)
  | c, .trackTaskDone taskID => some (c.trackTaskDone taskID)
  | c, .setInflightTasks n => if n ∈ c.unpublished then
      some { c with gauge := n, unpublished := c.unpublished.erase n } else none

/-- The size that is published is the oldest one. -/
def InOrder (c : Client) : Action → Prop
  | .setInflightTasks n => c.unpublished.head? = some n
  | _ => True

/-- The size of the set is the last one published, or still to be published. -/
def Current (c : Client) : Prop :=
  (c.gauge :: c.unpublished).getLast? = some c.inflightTasks.card

theorem Current.update {c : Client} (tasks : Finset String) : Current (c.update tasks) := by
  unfold Current Client.update
  rw [← List.cons_append, List.getLast?_concat]

theorem Current.step {c next : Client} {a : Action} (h : Current c) (horder : InOrder c a)
    (hstep : step c a = some next) : Current next := by
  cases a with
  | trackTaskStart taskID | trackTaskDone taskID =>
    cases hstep
    first | unfold Client.trackTaskStart | unfold Client.trackTaskDone
    split
    · exact h
    · exact .update _
  | setInflightTasks n =>
    obtain ⟨later, hlater⟩ := List.head?_eq_some_iff.mp horder
    rw [Inflight.step, hlater, if_pos (.head _), List.erase_cons_head] at hstep
    cases hstep
    rwa [Current, hlater, List.getLast?_cons_cons] at h

/-- When the sizes are published in the order of the updates, a client with no call in
progress shows the size of its set. -/
theorem gauge_eq_card {tasks : Bool} {c : Client} (h : Machine.Reach step InOrder { tasks } c)
    (hidle : c.unpublished = []) : c.gauge = c.inflightTasks.card := by
  have hstart : Current { tasks } := rfl
  have hcurrent : Current c := h.invariant hstart fun _ _ _ h => h.step
  rw [Current, hidle] at hcurrent
  exact Option.some.inj hcurrent

/-- Two calls that overlap, and publish in the order of their updates. -/
theorem gauge_eq_card_overlapping : ∃ c, Machine.Reach step InOrder { tasks := true } c ∧
    c.gauge = 2 ∧ c.gauge = c.inflightTasks.card := by
  have hupdated : Machine.Reach step InOrder { tasks := true } _ :=
    .step (.step .refl (a := .trackTaskStart "a") trivial rfl)
      (a := .trackTaskStart "b") trivial rfl
  have hpublished : Machine.Reach step InOrder { tasks := true } _ :=
    .step (.step hupdated (a := .setInflightTasks 1) rfl rfl) (a := .setInflightTasks 2) rfl rfl
  exact ⟨_, hpublished, rfl, gauge_eq_card hpublished rfl⟩

/-- Two calls, of which the later one publishes first. -/
theorem gauge_stale : ∃ c, Machine.Reach step Machine.free { tasks := true } c ∧
    c.unpublished = [] ∧ c.gauge ≠ c.inflightTasks.card :=
  Machine.exists_reach [.trackTaskStart "a", .trackTaskStart "b", .setInflightTasks 2,
    .setInflightTasks 1] (fun _ _ h => h) (by decide +kernel)

end Virtrigaud.Transport.Inflight
