import Mathlib.Logic.Function.Basic
import Virtrigaud.Effects.System

/-!
# Programs that share a host

Any number of threads run programs against one host. A thread issues a call, waits,
and goes on with the answer; other threads move in between. `Threads.invariant` is the
rule for facts about the shared state, the logs of all threads and the trace: it needs
to know only which calls the programs make.
-/

namespace Effects

/-- A thread between two moves, with the log of the program it runs. -/
inductive Thread (Call : Type) (Answer : Call → Type) (α : Type) where
  | idle
  | running (program : Program Call Answer α) (log : List (Event Call Answer))
  | waiting (c : Call) (next : Answer c → Program Call Answer α) (log : List (Event Call Answer))

/-- What the trace shows: a call that was issued or answered, with the log before it. -/
inductive Moment (Call : Type) (Answer : Call → Type) where
  | issued (log : List (Event Call Answer)) (c : Call)
  | answered (log : List (Event Call Answer)) (event : Event Call Answer)

/-- The log before the moment, and the call it is about. -/
def Moment.log {Call : Type} {Answer : Call → Type} : Moment Call Answer → List (Event Call Answer)
  | .issued log _ => log
  | .answered log _ => log

def Moment.call {Call : Type} {Answer : Call → Type} : Moment Call Answer → Call
  | .issued _ c => c
  | .answered _ event => event.1

/-- A move of one thread. -/
inductive Move (ι κ Choice : Type) where
  | start (i : ι) (k : κ)
  | issue (i : ι)
  | answer (i : ι) (choice : Choice)
  | finish (i : ι)

/-- All threads, what they share, and the trace (newest first). -/
structure Threads (Call : Type) (Answer : Call → Type) (σ α ι : Type) where
  shared : σ
  threads : ι → Thread Call Answer α := fun _ => .idle
  trace : List (Moment Call Answer) := []

variable {Call : Type} {Answer : Call → Type} {σ Choice α ι κ : Type}

/-- The log of a thread; an idle one has none. -/
def Thread.log : Thread Call Answer α → List (Event Call Answer)
  | .idle => []
  | .running _ log => log
  | .waiting _ _ log => log

namespace Threads

variable [DecidableEq ι]

variable (s : Threads Call Answer σ α ι)

/-- Replace one thread. -/
def set (i : ι) (thread : Thread Call Answer α) : Threads Call Answer σ α ι :=
  { s with threads := Function.update s.threads i thread }

/-- Make a move, if it is one the thread can make. -/
def step (host : Host Call Answer σ Choice) (program : κ → Program Call Answer α)
    (s : Threads Call Answer σ α ι) : Move ι κ Choice → Option (Threads Call Answer σ α ι)
  | .start i k =>
    match s.threads i with
    | .idle => some (s.set i (.running (program k) []))
    | _ => none
  | .issue i =>
    match s.threads i with
    | .running (.call c next) log =>
      some { s.set i (.waiting c next log) with trace := .issued log c :: s.trace }
    | _ => none
  | .answer i choice =>
    match s.threads i with
    | .waiting c next log =>
      match host.answer s.shared c choice with
      | some (r, shared) =>
        some { s.set i (.running (next r) (⟨c, r⟩ :: log)) with
          shared, trace := .answered log ⟨c, r⟩ :: s.trace }
      | none => none
    | _ => none
  | .finish i =>
    match s.threads i with
    | .running (.done _) _ => some (s.set i .idle)
    | _ => none

/-- Make the moves one after another. -/
def run (host : Host Call Answer σ Choice) (program : κ → Program Call Answer α) :
    Threads Call Answer σ α ι → List (Move ι κ Choice) → Option (Threads Call Answer σ α ι)
  | s, [] => some s
  | s, move :: moves =>
    match s.step host program move with
    | none => none
    | some next => next.run host program moves

/-- The logs of all threads. -/
def logs (i : ι) : List (Event Call Answer) := (s.threads i).log

theorem logs_set (i : ι) (thread : Thread Call Answer α) : (s.set i thread).logs = Function.update
    s.logs i thread.log := by
  funext j
  by_cases hj : j = i
  · subst hj
    simp [logs, set]
  · simp [logs, set, hj]

/-- What is left of a thread's program obeys. -/
def Obedient (allowed : List (Event Call Answer) → Call → Prop) : Thread Call Answer α → Prop
  | .idle => True
  | .running program log => program.Obeys allowed (fun _ _ => True) log
  | .waiting c next log =>
    allowed log c ∧ ∀ r, (next r).Obeys allowed (fun _ _ => True) (⟨c, r⟩ :: log)

variable {host : Host Call Answer σ Choice} {program : κ → Program Call Answer α}
  {allowed : List (Event Call Answer) → Call → Prop} {s next : Threads Call Answer σ α ι}

theorem Obedient.set (h : ∀ j, Obedient allowed (s.threads j)) (i : ι)
    (thread : Thread Call Answer α) (hthread : Obedient allowed thread) (j : ι) :
    Obedient allowed ((s.set i thread).threads j) := by
  by_cases hj : j = i
  · subst hj
    simpa [Threads.set] using hthread
  · simpa [Threads.set, hj] using h j

theorem step_obedient (hprogram : ∀ k, (program k).Heeds allowed [])
    (h : ∀ j, Obedient allowed (s.threads j)) {move : Move ι κ Choice}
    (hstep : s.step host program move = some next) (j : ι) : Obedient allowed (next.threads j) := by
  cases move with
  | start i k =>
    simp only [step] at hstep
    split at hstep <;> cases hstep
    exact Obedient.set h i (.running (program k) []) (hprogram k) j
  | issue i =>
    simp only [step] at hstep
    split at hstep <;> cases hstep
    rename_i c rest log hthread
    have hcall := h i
    rw [hthread] at hcall
    exact Obedient.set h i (.waiting c rest log) hcall j
  | answer i choice =>
    simp only [step] at hstep
    split at hstep
    · rename_i c rest log hthread
      split at hstep <;> cases hstep
      rename_i r shared hanswer
      have hcall := h i
      rw [hthread] at hcall
      exact Obedient.set h i (.running (rest r) _) (hcall.2 r) j
    · cases hstep
  | finish i =>
    simp only [step] at hstep
    split at hstep <;> cases hstep
    exact Obedient.set h i .idle trivial j

/-- A move begins or ends a program, issues an allowed call, or answers one. -/
theorem step_cases (h : ∀ j, Obedient allowed (s.threads j)) {move : Move ι κ Choice}
    (hstep : s.step host program move = some next) :
    (∃ i, next.shared = s.shared ∧ next.logs = Function.update s.logs i [] ∧
      next.trace = s.trace) ∨
    (∃ i c, allowed (s.logs i) c ∧ next.shared = s.shared ∧ next.logs = s.logs ∧
      next.trace = .issued (s.logs i) c :: s.trace) ∨
    ∃ i c choice r, allowed (s.logs i) c ∧
      host.answer s.shared c choice = some (r, next.shared) ∧
      next.logs = Function.update s.logs i (⟨c, r⟩ :: s.logs i) ∧
      next.trace = .answered (s.logs i) ⟨c, r⟩ :: s.trace := by
  cases move with
  | start i k | finish i =>
    simp only [step] at hstep
    split at hstep <;> cases hstep
    exact .inl ⟨i, rfl, logs_set s i _, rfl⟩
  | issue i =>
    simp only [step] at hstep
    split at hstep <;> cases hstep
    rename_i c rest log hthread
    have hlog : s.logs i = log := by rw [logs, hthread]; rfl
    have hcall := h i
    rw [hthread] at hcall
    refine .inr (.inl ⟨i, c, ?_, rfl, ?_, ?_⟩)
    · rw [hlog]
      exact hcall.1
    · refine (logs_set s i (.waiting c rest log)).trans ?_
      rw [Thread.log, ← hlog, Function.update_eq_self]
    · rw [hlog]
  | answer i choice =>
    simp only [step] at hstep
    split at hstep
    · rename_i c rest log hthread
      split at hstep <;> cases hstep
      rename_i r shared hanswer
      have hlog : s.logs i = log := by rw [logs, hthread]; rfl
      have hcall := h i
      rw [hthread] at hcall
      refine .inr (.inr ⟨i, c, choice, r, ?_, hanswer, ?_, ?_⟩)
      · rw [hlog]
        exact hcall.1
      · rw [hlog]
        exact logs_set s i _
      · rw [hlog]
    · cases hstep

/-- A fact about what the threads share, their logs and the trace holds after any moves
if it holds at first, survives a log that is emptied, and survives every allowed call
when it is issued and when it is answered. The calls that wait are allowed. -/
theorem invariant {J : σ → (ι → List (Event Call Answer)) → List (Moment Call Answer) → Prop}
    (hprogram : ∀ k, (program k).Heeds allowed [])
    (hempty : ∀ shared logs trace i, J shared logs trace →
      J shared (Function.update logs i []) trace)
    (hissue : ∀ shared logs trace i c, J shared logs trace → allowed (logs i) c →
      J shared logs (.issued (logs i) c :: trace))
    (hanswer : ∀ shared logs trace i c choice r after, J shared logs trace →
      allowed (logs i) c → host.answer shared c choice = some (r, after) →
      J after (Function.update logs i (⟨c, r⟩ :: logs i)) (.answered (logs i) ⟨c, r⟩ :: trace))
    {moves : List (Move ι κ Choice)} (hJ : J s.shared s.logs s.trace)
    (h : ∀ j, Obedient allowed (s.threads j)) (hrun : s.run host program moves = some next) :
    J next.shared next.logs next.trace ∧ ∀ j, Obedient allowed (next.threads j) := by
  induction moves generalizing s with
  | nil =>
    cases hrun
    exact ⟨hJ, h⟩
  | cons move moves ih =>
    rw [run] at hrun
    split at hrun
    · cases hrun
    · rename_i after hstep
      refine ih ?_ (step_obedient hprogram h hstep) hrun
      rcases step_cases h hstep with ⟨i, hshared, hlogs, htrace⟩ |
        ⟨i, c, hallowed, hshared, hlogs, htrace⟩ | ⟨i, c, choice, r, hallowed, hhost, hlogs, htrace⟩
      · rw [hshared, hlogs, htrace]
        exact hempty _ _ _ i hJ
      · rw [hshared, hlogs, htrace]
        exact hissue _ _ _ i c hJ hallowed
      · rw [hlogs, htrace]
        exact hanswer _ _ _ i c choice r _ hJ hallowed hhost

end Threads

end Effects
