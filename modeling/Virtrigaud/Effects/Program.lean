import Mathlib.Tactic.Common

/-!
# Programs that call their surroundings

A `Program` returns a value or makes a call and continues with the answer. It
has no state of its own: what it knows is the log of its calls and their
answers. `Program.Obeys` states which calls a program makes from a log, for
every answer it may receive, so it is proved once and used in any surroundings.
A `Handler` answers every call from its state; `Program.eval` is the result then.
-/

namespace Effects

open List

/-- A computation over calls `c : Call`, each answered by a value of `Answer c`. -/
inductive Program (Call : Type) (Answer : Call → Type) (α : Type) : Type where
  | done (a : α)
  | call (c : Call) (next : Answer c → Program Call Answer α)

/-- One call with the answer it received. -/
abbrev Event (Call : Type) (Answer : Call → Type) : Type := (c : Call) × Answer c

namespace Program

variable {Call : Type} {Answer : Call → Type} {α β : Type}

/-- Continue with the result of the first program. -/
def bind : Program Call Answer α → (α → Program Call Answer β) → Program Call Answer β
  | .done a, f => f a
  | .call c next, f => .call c fun r => (next r).bind f

instance : Monad (Program Call Answer) where
  pure := .done
  bind := bind

/-- Make one call and return its answer. -/
def perform (c : Call) : Program Call Answer (Answer c) := .call c .done

@[simp] theorem pure_eq_done (a : α) : (pure a : Program Call Answer α) = .done a := rfl

@[simp] theorem done_bind (a : α) (f : α → Program Call Answer β) :
    (.done a : Program Call Answer α) >>= f = f a := rfl

@[simp] theorem call_bind (c : Call) (next : Answer c → Program Call Answer α)
    (f : α → Program Call Answer β) :
    (.call c next : Program Call Answer α) >>= f = .call c fun r => next r >>= f := rfl

@[simp] theorem perform_bind (c : Call) (f : Answer c → Program Call Answer β) :
    (perform c : Program Call Answer (Answer c)) >>= f = .call c f := rfl

theorem bind_done (p : Program Call Answer α) : p >>= .done = p := by
  induction p with
  | done a => rfl
  | call c next ih => exact congrArg (call c) (funext ih)

theorem bind_assoc {γ : Type} (p : Program Call Answer α) (f : α → Program Call Answer β)
    (g : β → Program Call Answer γ) : p >>= f >>= g = p >>= fun a => f a >>= g := by
  induction p with
  | done a => rfl
  | call c next ih => exact congrArg (call c) (funext ih)

/-- From `log` (newest first) every call is allowed and the result meets `post`,
whatever the answers are. -/
def Obeys (allowed : List (Event Call Answer) → Call → Prop) :
    Program Call Answer α → (α → List (Event Call Answer) → Prop) →
      List (Event Call Answer) → Prop
  | .done a, post, log => post a log
  | .call c next, post, log =>
      allowed log c ∧ ∀ r, (next r).Obeys allowed post (⟨c, r⟩ :: log)

/-- Every call is allowed. -/
abbrev Heeds (p : Program Call Answer α) (allowed : List (Event Call Answer) → Call → Prop)
    (log : List (Event Call Answer)) : Prop :=
  p.Obeys allowed (fun _ _ => True) log

variable {allowed : List (Event Call Answer) → Call → Prop}
  {post : α → List (Event Call Answer) → Prop} {log : List (Event Call Answer)}

@[simp] theorem obeys_call {c : Call} {next : Answer c → Program Call Answer α} :
    (call c next).Obeys allowed post log ↔
      allowed log c ∧ ∀ r, (next r).Obeys allowed post (⟨c, r⟩ :: log) := Iff.rfl

/-- A call, and what is done with its answer. -/
theorem obeys_perform {c : Call} {f : Answer c → Program Call Answer α} (h : allowed log c)
    (hf : ∀ r, (f r).Obeys allowed post (⟨c, r⟩ :: log)) :
    (perform c >>= f).Obeys allowed post log := ⟨h, hf⟩

variable {p : Program Call Answer α} {f : α → Program Call Answer β}

/-- Sequencing: the second program starts from the log the first one leaves. -/
theorem obeys_bind {post : β → List (Event Call Answer) → Prop} :
    (p >>= f).Obeys allowed post log ↔
      p.Obeys allowed (fun a log => (f a).Obeys allowed post log) log := by
  induction p generalizing log with
  | done a => exact Iff.rfl
  | call c next ih =>
    rw [call_bind, obeys_call, obeys_call]
    exact and_congr_right fun _ => forall_congr' fun r => ih r

/-- A weaker postcondition is met whenever a stronger one is. -/
theorem Obeys.mono {weaker : α → List (Event Call Answer) → Prop} (h : p.Obeys allowed post log)
    (hpost : ∀ a log', log <:+ log' → post a log' → weaker a log') :
    p.Obeys allowed weaker log := by
  induction p generalizing log with
  | done a => exact hpost a log (suffix_refl log) h
  | call c next ih =>
    refine ⟨h.1, fun r => ih r (h.2 r) fun a log' hlog => hpost a log' ?_⟩
    exact (suffix_cons ⟨c, r⟩ log).trans hlog

/-- A program that keeps to a rule keeps to any weaker one. -/
theorem Obeys.weaken
    {weaker : List (Event Call Answer) → Call → Prop} (h : p.Obeys allowed post log)
    (hcalls : ∀ log c, allowed log c → weaker log c) : p.Obeys weaker post log := by
  induction p generalizing log with
  | done a => exact h
  | call c next ih => exact ⟨hcalls log c h.1, fun r => ih r (h.2 r)⟩

/-- A rule that allows everything from here on. -/
theorem obeys_of_always
    (h : ∀ log', log <:+ log' → ∀ c, allowed log' c) : p.Obeys allowed (fun _ _ => True) log := by
  induction p generalizing log with
  | done a => trivial
  | call c next ih =>
    refine ⟨h log (suffix_refl log) c, fun r => ih r fun log' hlog => h log' ?_⟩
    exact (suffix_cons ⟨c, r⟩ log).trans hlog

variable {P : α → List (Event Call Answer) → Prop}

/-- Two rules a program keeps to are one. -/
theorem Obeys.and {other : List (Event Call Answer) → Call → Prop} (h : p.Obeys allowed post log)
    (h' : p.Obeys other P log) :
    p.Obeys (fun log c => allowed log c ∧ other log c) (fun a log => post a log ∧ P a log) log := by
  induction p generalizing log with
  | done a => exact ⟨h, h'⟩
  | call c next ih => exact ⟨⟨h.1, h'.1⟩, fun r => ih r (h.2 r) (h'.2 r)⟩

/-- What all calls have in common holds of everything the program adds to the log. -/
theorem Obeys.strengthen {Q : Call → Prop}
    {R : List (Event Call Answer) → Call → Prop} (h : p.Obeys allowed post log)
    (hcalls : ∀ log c, allowed log c → Q c ∧ R log c) :
    p.Obeys R (fun a log' => post a log' ∧ ∀ event ∈ log', event ∈ log ∨ Q event.1) log := by
  induction p generalizing log with
  | done a => exact ⟨h, fun event hevent => .inl hevent⟩
  | call c next ih =>
    have hcall := hcalls log c h.1
    refine ⟨hcall.2, fun r => (ih r (h.2 r)).mono fun a log' _ hafter => ⟨hafter.1, ?_⟩⟩
    intro event hevent
    rcases hafter.2 event hevent with hold | hnew
    · rcases mem_cons.mp hold with rfl | hold
      · exact .inr hcall.1
      · exact .inl hold
    · exact .inr hnew

/-- The next program may rely on what the first one leaves in the log. -/
theorem Obeys.bind {last : β → List (Event Call Answer) → Prop} (h : p.Obeys allowed P log)
    (hf : ∀ a log', log <:+ log' → P a log' → (f a).Obeys allowed last log') :
    (p >>= f).Obeys allowed last log :=
  obeys_bind.mpr (h.mono hf)

/-- The program makes only such calls. -/
def Only (P : Call → Prop) : Program Call Answer α → Prop
  | .done _ => True
  | .call c next => P c ∧ ∀ r, (next r).Only P

variable {P : Call → Prop}

theorem only_perform {c : Call} {f : Answer c → Program Call Answer α} (h : P c)
    (hf : ∀ r, (f r).Only P) : (perform c >>= f).Only P := ⟨h, hf⟩

theorem only_of_forall (h : ∀ c, P c) : p.Only P := by
  induction p with
  | done a => trivial
  | call c next ih => exact ⟨h c, ih⟩

theorem Only.bind (hp : p.Only P) (hf : ∀ a, (f a).Only P) : (p >>= f).Only P := by
  induction p with
  | done a => exact hf a
  | call c next ih => exact ⟨hp.1, fun r => ih r (hp.2 r)⟩

theorem Only.mono {P Q : Call → Prop} (h : p.Only P) (hcalls : ∀ c, P c → Q c) : p.Only Q := by
  induction p with
  | done a => trivial
  | call c next ih => exact ⟨hcalls c h.1, fun r => ih r (h.2 r)⟩

/-- Every result of the program is such a one. -/
def Returns (Q : α → Prop) : Program Call Answer α → Prop
  | .done a => Q a
  | .call _ next => ∀ r, (next r).Returns Q

theorem Returns.bind {P : α → Prop} {Q : β → Prop}
     (hp : p.Returns P) (hf : ∀ a, P a → (f a).Returns Q) :
    (p >>= f).Returns Q := by
  induction p with
  | done a => exact hf a hp
  | call c next ih => exact fun r => ih r (hp r)

/-- Continuations that agree on what a program returns. -/
theorem Returns.bind_congr {P : α → Prop} {g : α → Program Call Answer β} (hp : p.Returns P)
    (h : ∀ a, P a → f a = g a) : p >>= f = p >>= g := by
  induction p with
  | done a => exact h a hp
  | call c next ih => exact congrArg (call c) (funext fun r => ih r (hp r))

/-- The second program may rely on what the first one returns. -/
theorem Only.bind_returns {Q : α → Prop} (hp : p.Only P) (hreturns : p.Returns Q)
    (hf : ∀ a, Q a → (f a).Only P) : (p >>= f).Only P := by
  induction p with
  | done a => exact hf a hreturns
  | call c next ih => exact ⟨hp.1, fun r => ih r (hp.2 r) (hreturns r)⟩

theorem returns_true (p : Program Call Answer α) : p.Returns fun _ => True := by
  induction p with
  | done a => trivial
  | call c next ih => exact ih

theorem Returns.obeys {Q : α → Prop} (h : p.Returns Q) :
    p.Obeys (fun _ _ => True) (fun a _ => Q a) log := by
  induction p generalizing log with
  | done a => exact h
  | call c next ih => exact ⟨trivial, fun r => ih r (h r)⟩

/-- A program of such calls keeps what each of them keeps. -/
theorem Only.obeys {Q : α → Prop} {R : List (Event Call Answer) → Prop} (h : p.Only P)
    (hreturns : p.Returns Q) (hlog : R log)
    (hcalls : ∀ log c, R log → P c → allowed log c ∧ ∀ r, R (⟨c, r⟩ :: log)) :
    p.Obeys allowed (fun a log' => Q a ∧ R log') log := by
  induction p generalizing log with
  | done a => exact ⟨hreturns, hlog⟩
  | call c next ih =>
    have hcall := hcalls log c hlog h.1
    exact ⟨hcall.1, fun r => ih r (h.2 r) (hreturns r) (hcall.2 r)⟩

/-- A program of such calls keeps to any rule that allows each of them. -/
theorem Only.keeps (h : p.Only P) (hcalls : ∀ log c, P c → allowed log c) :
    p.Obeys allowed (fun _ _ => True) log := by
  induction p generalizing log with
  | done a => trivial
  | call c next ih => exact ⟨hcalls log c h.1, fun r => ih r (h.2 r)⟩

end Program

/-- The answer to each call, and the state after it. -/
abbrev Handler (Call : Type) (Answer : Call → Type) (σ : Type) : Type :=
  σ → (c : Call) → Answer c × σ

namespace Program

variable {Call : Type} {Answer : Call → Type} {σ α β : Type} {h : Handler Call Answer σ}

/-- The result and the last state. -/
def eval (h : Handler Call Answer σ) : Program Call Answer α → σ → α × σ
  | .done a, s => (a, s)
  | .call c next, s => (next (h s c).1).eval h (h s c).2

@[simp] theorem eval_done (a : α) (s : σ) :
    (done a : Program Call Answer α).eval h s = (a, s) := rfl

@[simp] theorem eval_call (c : Call) (next : Answer c → Program Call Answer α) (s : σ) :
    (call c next).eval h s = (next (h s c).1).eval h (h s c).2 := rfl

theorem eval_bind (p : Program Call Answer α) (f : α → Program Call Answer β) (s : σ) :
    (p >>= f).eval h s = (f (p.eval h s).1).eval h (p.eval h s).2 := by
  induction p generalizing s with
  | done a => rfl
  | call c next ih => exact ih _ _

/-- Go on after a program whose result is known. -/
theorem eval_bind_of {p : Program Call Answer α} {f : α → Program Call Answer β} {s s' : σ} {a : α}
    (hp : p.eval h s = (a, s')) : (p >>= f).eval h s = (f a).eval h s' := by
  rw [eval_bind, hp]

theorem Returns.of_eval {Q : α → Prop} {p : Program Call Answer α} {s s' : σ} {a : α}
    (hp : p.Returns Q) (heval : p.eval h s = (a, s')) : Q a := by
  induction p generalizing s with
  | done b =>
    cases heval
    exact hp
  | call c next ih => exact ih _ (hp _) heval

/-- What is done after a first part is part of what the program does. -/
theorem Only.of_eval_bind {P : Call → Prop} {p : Program Call Answer α}
    {f : α → Program Call Answer β} {s s' : σ} {a : α} (hp : (p >>= f).Only P)
    (heval : p.eval h s = (a, s')) : (f a).Only P := by
  induction p generalizing s with
  | done b =>
    cases heval
    exact hp
  | call c next ih => exact ih _ (hp.2 _) heval

/-- What every answer keeps, the program keeps. -/
theorem eval_keeps {I : σ → Prop} (hkeep : ∀ s c, I s → I (h s c).2)
    (p : Program Call Answer α) {s : σ} (hs : I s) : I (p.eval h s).2 := by
  induction p generalizing s with
  | done a => exact hs
  | call c next ih => exact ih _ (hkeep s c hs)

end Program

end Effects
