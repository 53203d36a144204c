import Virtrigaud.Effects.Program

/-!
# Runs of a program against a host

A `Host` answers calls from a state it owns; every freedom the surroundings have
is a `Choice`. A `System` runs one program again and again: each episode ends with
a result, or is cut off before some call, and then what the process kept in
memory is lost. `System.Reach` is every state and trace such runs lead to, under a
condition on each episode, and `System.replay` computes one of them.
-/

namespace Effects

open List Option

/-- Surroundings with state `σ`: a choice fixes the answer, or does not apply. -/
structure Host (Call : Type) (Answer : Call → Type) (σ Choice : Type) where
  answer : σ → (c : Call) → Choice → Option (Answer c × σ)

/-- Surroundings that may give any answer, each time another one. -/
def Host.free {Call : Type} {Answer : Call → Type} :
    Host Call Answer Unit ((c : Call) → Answer c) :=
  ⟨fun _ c answers => some (answers c, ())⟩

/-- Surroundings that give any answer, as long as there is one. -/
def Host.scripted {Call : Type} {Answer : Call → Type} :
    Host Call Answer Unit ((c : Call) → Option (Answer c)) :=
  ⟨fun _ c answers => (answers c).map fun answer => (answer, ())⟩

variable {Call : Type} {Answer : Call → Type} {σ Choice α : Type}

/-- The state, the log and the result of a run; no result when it was cut off. -/
structure Outcome (Call : Type) (Answer : Call → Type) (σ α : Type) where
  state : σ
  log : List (Event Call Answer)
  result : Option α

variable {event : Event Call Answer} {older : List (Event Call Answer)}

namespace Program

/-- Run with one choice per call. Running out of choices cuts the program off. -/
def run (h : Host Call Answer σ Choice) :
    Program Call Answer α → σ → List (Event Call Answer) → List Choice →
      Option (Outcome Call Answer σ α)
  | .done a, s, log, [] => some ⟨s, log, some a⟩
  | .done _, _, _, _ :: _ => none
  | .call _ _, s, log, [] => some ⟨s, log, none⟩
  | .call c next, s, log, choice :: choices =>
      match h.answer s c choice with
      | none => none
      | some (r, s') => (next r).run h s' (⟨c, r⟩ :: log) choices

variable {h : Host Call Answer σ Choice}

/-- The same answer whenever a call is made. -/
def logging (answers : (c : Call) → Answer c) : Handler Call Answer (List (Event Call Answer)) :=
  fun log c => (answers c, ⟨c, answers c⟩ :: log)

/-- Surroundings that may give any answer may give these, to the end of the program. -/
theorem exists_run_free (answers : (c : Call) → Answer c) (p : Program Call Answer α)
    (log : List (Event Call Answer)) :
    ∃ choices, p.run Host.free () log choices =
      some ⟨(), (p.eval (logging answers) log).2, some (p.eval (logging answers) log).1⟩ := by
  induction p generalizing log with
  | done a => exact ⟨[], rfl⟩
  | call c next ih =>
    obtain ⟨choices, hrun⟩ := ih (answers c) (⟨c, answers c⟩ :: log)
    exact ⟨answers :: choices, hrun⟩

/-- Some answers lead to this result and this state. -/
def Leads (h : Host Call Answer σ Choice) (p : Program Call Answer α) (s : σ) (a : α) (s' : σ) :
    Prop :=
  ∀ log, ∃ choices log', p.run h s log choices = some ⟨s', log', some a⟩

theorem leads_done (a : α) (s : σ) : Leads h (.done a) s a s := fun log => ⟨[], log, rfl⟩

theorem leads_perform {c : Call} {f : Answer c → Program Call Answer α} {s s₁ s' : σ} {a : α}
    (choice : Choice) {r : Answer c} (hanswer : h.answer s c choice = some (r, s₁))
    (hnext : Leads h (f r) s₁ a s') : Leads h (perform c >>= f) s a s' := by
  intro log
  obtain ⟨choices, log', hrun⟩ := hnext (⟨c, r⟩ :: log)
  refine ⟨choice :: choices, log', ?_⟩
  rw [perform_bind, run, hanswer]
  exact hrun

theorem Leads.bind {β : Type} {p : Program Call Answer α} {f : α → Program Call Answer β}
    {s s₁ s' : σ} {a : α} {b : β} (hp : Leads h p s a s₁) (hf : Leads h (f a) s₁ b s') :
    Leads h (p >>= f) s b s' := by
  intro log
  obtain ⟨choices, log₁, hrun⟩ := hp log
  obtain ⟨more, log', hmore⟩ := hf log₁
  refine ⟨choices ++ more, log', ?_⟩
  clear hp
  induction p generalizing s log choices with
  | done a' =>
    cases choices with
    | nil =>
      cases hrun
      exact hmore
    | cons => cases hrun
  | call c next ih =>
    cases choices with
    | nil => cases hrun
    | cons choice choices =>
      rw [run] at hrun
      rw [call_bind, cons_append, run]
      split at hrun
      · cases hrun
      · exact ih _ _ _ hrun

variable {p : Program Call Answer α} {log : List (Event Call Answer)} {choices : List Choice}
  {out : Outcome Call Answer σ α}

/-- The log only grows. -/
theorem run_log_suffix {s : σ} (hrun : p.run h s log choices = some out) : log <:+ out.log := by
  induction p generalizing s log choices with
  | done a =>
    cases choices with
    | nil =>
      obtain rfl := some.inj hrun
      exact suffix_refl log
    | cons => cases hrun
  | call c next ih =>
    cases choices with
    | nil =>
      obtain rfl := some.inj hrun
      exact suffix_refl log
    | cons choice choices =>
      rw [Program.run] at hrun
      split at hrun
      · cases hrun
      · exact (suffix_cons _ log).trans (ih _ hrun)

variable {allowed : List (Event Call Answer) → Call → Prop}
  {post : α → List (Event Call Answer) → Prop}

/-- What every allowed call preserves holds wherever the run ends. The step may use
what the choices have in common, and that its event is part of the log the run leaves. -/
theorem Obeys.run_induct {I : σ → List (Event Call Answer) → Prop} {ok : Choice → Prop} {s : σ}
    (hp : p.Obeys allowed post log) (hrun : p.run h s log choices = some out)
    (hok : ∀ choice ∈ choices, ok choice) (hI : I s log)
    (step : ∀ s log c choice r s', I s log → allowed log c → ok choice →
      h.answer s c choice = some (r, s') → (⟨c, r⟩ :: log) <:+ out.log → I s' (⟨c, r⟩ :: log)) :
    I out.state out.log ∧ ∀ a, out.result = some a → post a out.log := by
  induction p generalizing s log choices with
  | done a =>
    cases choices with
    | nil =>
      obtain rfl := some.inj hrun
      refine ⟨hI, fun b hb => ?_⟩
      obtain rfl := some.inj hb
      exact hp
    | cons => cases hrun
  | call c next ih =>
    cases choices with
    | nil =>
      obtain rfl := some.inj hrun
      exact ⟨hI, fun a ha => by cases ha⟩
    | cons choice choices =>
      rw [Program.run] at hrun
      obtain ⟨hchoice, hok⟩ := forall_mem_cons.mp hok
      split at hrun
      · cases hrun
      · rename_i r s' hanswer
        exact ih r (hp.2 r) hrun hok
          (step s log c choice r s' hI hp.1 hchoice hanswer (run_log_suffix hrun))

/-- A run that ends leaves what the program promises. -/
theorem Obeys.run_result {s : σ}
    (hp : p.Obeys allowed post log) (hrun : p.run h s log choices = some out) {a : α}
    (hresult : out.result = some a) : post a out.log := by
  have hok : ∀ choice ∈ choices, True := fun _ _ => trivial
  exact (hp.run_induct (I := fun _ _ => True) hrun hok trivial
    (fun _ _ _ _ _ _ _ _ _ _ _ => trivial)).2 a hresult

section

variable {s : σ} (hrun : p.run h s [] choices = some out)
include hrun

/-- Every call of the run was allowed by the log before it. -/
theorem Obeys.run_allowed (hp : p.Obeys allowed post []) (hevent : (event :: older) <:+ out.log) :
    allowed older event.1 := by
  let I (_ : σ) (log : List (Event Call Answer)) : Prop :=
    ∀ event older, (event :: older) <:+ log → allowed older event.1
  have hnil : I s [] := fun event older hsuffix => by simp at hsuffix
  refine (hp.run_induct (I := I) hrun (fun _ _ => trivial) hnil ?_).1 event older hevent
  intro s log c choice r s' hI hallowed _ _ _ event older hsuffix
  rcases suffix_cons_iff.mp hsuffix with heq | hsuffix
  · cases heq
    exact hallowed
  · exact hI event older hsuffix

/-- Each event of the run, with the log before it. -/
theorem Obeys.run_allowed_of_mem (hp : p.Obeys allowed post []) (hevent : event ∈ out.log) :
    ∃ older, (event :: older) <:+ out.log ∧ allowed older event.1 := by
  obtain ⟨newer, older, hlog⟩ := append_of_mem hevent
  have hsuffix : (event :: older) <:+ out.log := ⟨newer, hlog.symm⟩
  exact ⟨older, hsuffix, hp.run_allowed hrun hsuffix⟩

end

end Program

/-- An event of a trace is one of the last episode or of the trace before it. -/
theorem event_of_append {log trace : List (Event Call Answer)}
    (h : (event :: older) <:+ log ++ trace) :
    (event :: older) <:+ trace ∨
      ∃ before, older = before ++ trace ∧ (event :: before) <:+ log := by
  rcases suffix_or_suffix_of_suffix h (suffix_append log trace) with hold | hnew
  · exact .inl hold
  · obtain ⟨before, hbefore⟩ := hnew
    cases before with
    | nil => exact .inl ⟨[], hbefore.symm⟩
    | cons first before =>
      obtain ⟨rfl, rfl⟩ := cons_eq_cons.mp hbefore
      obtain ⟨newer, hsplit⟩ := h
      refine .inr ⟨before, rfl, newer, ?_⟩
      have hsame : newer ++ first :: before ++ trace = log ++ trace := by
        rw [← hsplit, append_assoc]
        rfl
      exact append_cancel_right hsame

/-- One program that is run again and again, from any of the initial states. -/
structure System (Call : Type) (Answer : Call → Type) (σ Choice α : Type) where
  host : Host Call Answer σ Choice
  program : Program Call Answer α
  /-- What is left of the state when the process is lost. -/
  restart : σ → σ
  init : σ → Prop

namespace System

variable (sys : System Call Answer σ Choice α)

/-- The same system, started only from some of its initial states. -/
def startingFrom (start : σ → Prop) : System Call Answer σ Choice α :=
  { sys with init := fun s => sys.init s ∧ start s }

/-- The state an episode leaves to the next one. -/
def settle (out : Outcome Call Answer σ α) : σ :=
  if out.result.isSome then out.state else sys.restart out.state

/-- One run of the program, from a state. -/
abbrev Episode (s : σ) (choices : List Choice) (out : Outcome Call Answer σ α) : Prop :=
  sys.program.run sys.host s [] choices = some out

/-- A condition on one episode: the state and the trace before it, the choices of
the host in it, and its log. -/
abbrev Condition (Call : Type) (Answer : Call → Type) (σ Choice : Type) : Type :=
  σ → List (Event Call Answer) → List Choice → List (Event Call Answer) → Prop

/-- States and traces (newest first) of all runs whose episodes meet `cond`. -/
inductive Reach (cond : Condition Call Answer σ Choice) : σ → List (Event Call Answer) → Prop
  | init {s} : sys.init s → Reach cond s []
  | episode {s trace choices out} : Reach cond s trace →
      sys.program.run sys.host s [] choices = some out → cond s trace choices out.log →
      Reach cond (sys.settle out) (out.log ++ trace)

variable {sys}

variable {cond : Condition Call Answer σ Choice} {trace : List (Event Call Answer)}

/-- An invariant holds initially and is kept by every episode that meets `cond`. -/
theorem Reach.invariant
    {J : σ → List (Event Call Answer) → Prop} (hinit : ∀ s, sys.init s → J s [])
    (hepisode : ∀ s trace choices out, J s trace → sys.Episode s choices out →
      cond s trace choices out.log → J (sys.settle out) (out.log ++ trace))
    {s : σ} (h : sys.Reach cond s trace) : J s trace := by
  induction h with
  | init hs => exact hinit _ hs
  | episode _ hrun hcond ih => exact hepisode _ _ _ _ ih hrun hcond

/-- Every event of a run was allowed by the log of its episode, which met `cond`. -/
theorem Reach.event_allowed {allowed : List (Event Call Answer) → Call → Prop}
    {post : α → List (Event Call Answer) → Prop} (hp : sys.program.Obeys allowed post []) {s : σ}
    (h : sys.Reach cond s trace) (hevent : event ∈ trace) :
    ∃ s' trace' choices episode older, cond s' trace' choices episode ∧
      (event :: older) <:+ episode ∧ allowed older event.1 := by
  induction h with
  | init => cases hevent
  | @episode s' trace' choices out _ hrun hcond ih =>
    rcases mem_append.mp hevent with hnew | hold
    · obtain ⟨older, hsuffix, hallowed⟩ := hp.run_allowed_of_mem hrun hnew
      exact ⟨s', trace', choices, out.log, older, hcond, hsuffix, hallowed⟩
    · exact ih hold

/-- Compute a run from a script, one list of choices per episode, checking each
episode with `ok`. -/
def replay (sys : System Call Answer σ Choice α)
    (ok : σ → List (Event Call Answer) → List Choice → List (Event Call Answer) → Bool) :
    σ → List (Event Call Answer) → List (List Choice) → Option (σ × List (Event Call Answer))
  | s, trace, [] => some (s, trace)
  | s, trace, choices :: script =>
      match sys.program.run sys.host s [] choices with
      | none => none
      | some out =>
        if ok s trace choices out.log then sys.replay ok (sys.settle out) (out.log ++ trace) script
        else none

/-- A computed run is a run. -/
theorem replay_reach
    {ok : σ → List (Event Call Answer) → List Choice → List (Event Call Answer) → Bool}
    (hok : ∀ s trace choices log, ok s trace choices log = true → cond s trace choices log)
    {script : List (List Choice)} {s s' : σ} {trace' : List (Event Call Answer)}
    (h : sys.Reach cond s trace) (hrun : sys.replay ok s trace script = some (s', trace')) :
    sys.Reach cond s' trace' := by
  induction script generalizing s trace with
  | nil =>
    cases hrun
    exact h
  | cons choices script ih =>
    rw [replay] at hrun
    split at hrun
    · cases hrun
    · rename_i out hout
      split at hrun
      · rename_i hcheck
        exact ih (Reach.episode h hout (hok _ _ _ _ hcheck)) hrun
      · cases hrun

variable {P : σ → List (Event Call Answer) → Prop} [∀ s trace, Decidable (P s trace)]

/-- A computed run from an initial state exhibits what its last state and trace show. -/
theorem exists_reach_of_replay (sys : System Call Answer σ Choice α)
    (ok : σ → List (Event Call Answer) → List Choice → List (Event Call Answer) → Bool)
    (script : List (List Choice))
    (hok : ∀ s trace choices log, ok s trace choices log = true → cond s trace choices log)
    {s : σ} (hinit : sys.init s)
    (hrun : (sys.replay ok s [] script).any (fun last => decide (P last.1 last.2)) = true) :
    ∃ s' trace', sys.Reach cond s' trace' ∧ P s' trace' := by
  obtain ⟨last, hreplay, hlast⟩ := (any_eq_true _ _).mp hrun
  exact ⟨last.1, last.2, replay_reach hok (.init hinit) hreplay, of_decide_eq_true hlast⟩

/-- The same with a condition that is checked as it is, and what follows in such a run. -/
theorem exists_reach [∀ s trace choices log, Decidable (cond s trace choices log)]
    {Q : σ → List (Event Call Answer) → Prop} (sys : System Call Answer σ Choice α)
    (script : List (List Choice)) {s : σ} (hinit : sys.init s)
    (himp : ∀ s trace, sys.Reach cond s trace → P s trace → Q s trace)
    (hrun : (sys.replay (fun s trace choices log => decide (cond s trace choices log)) s []
      script).any (fun last => decide (P last.1 last.2)) = true) :
    ∃ s' trace', sys.Reach cond s' trace' ∧ Q s' trace' := by
  obtain ⟨last, trace, hreach, hlast⟩ := sys.exists_reach_of_replay _ script
    (fun _ _ _ _ => of_decide_eq_true) hinit hrun
  exact ⟨last, trace, hreach, himp last trace hreach hlast⟩

end System

end Effects
