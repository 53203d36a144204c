import Virtrigaud.Effects.System

/-!
# What a program ensures on a host

`Program.Ensures h p post s log`: every run of `p` on the host `h` that starts in state `s`
with this log and comes to its end leaves a result, a state and a log that meet `post`.
It is computed along the program, so a proof follows the program call by call, and
`Obeys` is not needed where the state of the host says what the log would.
-/

namespace Effects

/-- What holds of a result that is no error. -/
def OnOk {ε α : Type} (P : α → Prop) : Except ε α → Prop
  | .ok a => P a
  | .error _ => True

theorem OnOk.imp {ε α : Type} {P Q : α → Prop} {result : Except ε α} (h : OnOk P result)
    (himp : ∀ a, P a → Q a) : OnOk Q result := by
  cases result with
  | ok a => exact himp a h
  | error err => trivial

/-- The run has come to its end with a result that is no error. -/
def succeeded {ε α : Type} : Option (Except ε α) → Bool
  | some (.ok _) => true
  | _ => false

theorem exists_of_succeeded {ε α : Type} {result : Option (Except ε α)}
    (h : succeeded result = true) : ∃ a, result = some (.ok a) := by
  unfold succeeded at h
  split at h
  · exact ⟨_, rfl⟩
  · cases h

namespace Program

variable {Call : Type} {Answer : Call → Type} {σ Choice α β : Type}

/-- Every way the host may answer leads to a result that meets `post`. -/
def Ensures (h : Host Call Answer σ Choice) :
    Program Call Answer α → (α → σ → List (Event Call Answer) → Prop) → σ →
      List (Event Call Answer) → Prop
  | .done a, post, s, log => post a s log
  | .call c next, post, s, log =>
      ∀ choice r s', h.answer s c choice = some (r, s') →
        (next r).Ensures h post s' (⟨c, r⟩ :: log)

variable {h : Host Call Answer σ Choice} {post : α → σ → List (Event Call Answer) → Prop}
  {s : σ} {log : List (Event Call Answer)}

theorem ensures_call {c : Call} {next : Answer c → Program Call Answer α} :
    (call c next).Ensures h post s log ↔
      ∀ choice r s', h.answer s c choice = some (r, s') →
        (next r).Ensures h post s' (⟨c, r⟩ :: log) := Iff.rfl

/-- A call, and what is done with its answer. -/
theorem ensures_perform {c : Call} {f : Answer c → Program Call Answer α}
    (hf : ∀ choice r s', h.answer s c choice = some (r, s') →
      (f r).Ensures h post s' (⟨c, r⟩ :: log)) : (perform c >>= f).Ensures h post s log := hf

variable {p : Program Call Answer α} {f : α → Program Call Answer β}

/-- Sequencing: the second program starts where the first one ends. -/
theorem ensures_bind {post : β → σ → List (Event Call Answer) → Prop} :
    (p >>= f).Ensures h post s log ↔
      p.Ensures h (fun a s log => (f a).Ensures h post s log) s log := by
  induction p generalizing s log with
  | done a => exact Iff.rfl
  | call c next ih =>
    rw [call_bind, ensures_call, ensures_call]
    refine forall_congr' fun choice => forall_congr' fun r => forall_congr' fun s' => ?_
    exact imp_congr_right fun _ => ih r

theorem Ensures.mono
    {weaker : α → σ → List (Event Call Answer) → Prop} (hp : p.Ensures h post s log)
    (hpost : ∀ a s' log', log <:+ log' → post a s' log' → weaker a s' log') :
    p.Ensures h weaker s log := by
  induction p generalizing s log with
  | done a => exact hpost a s log (List.suffix_refl log) hp
  | call c next ih =>
    intro choice r s' hanswer
    refine ih r (hp choice r s' hanswer) fun a s'' log' hlog => hpost a s'' log' ?_
    exact (List.suffix_cons ⟨c, r⟩ log).trans hlog

/-- The next program may rely on what the first one leaves. -/
theorem Ensures.bind {P : α → σ → List (Event Call Answer) → Prop}
    {last : β → σ → List (Event Call Answer) → Prop} (hp : p.Ensures h P s log)
    (hf : ∀ a s' log', log <:+ log' → P a s' log' → (f a).Ensures h last s' log') :
    (p >>= f).Ensures h last s log :=
  ensures_bind.mpr (hp.mono hf)

/-- Every program leaves a log that extends the one it started with. -/
theorem ensures_suffix (p : Program Call Answer α) :
    p.Ensures h (fun _ _ log' => log <:+ log') s log := by
  induction p generalizing s log with
  | done a => exact List.suffix_refl log
  | call c next ih =>
    intro choice r s' _
    exact (ih r).mono fun _ _ _ _ hlog => (List.suffix_cons ⟨c, r⟩ log).trans hlog

/-- What the whole log meets, the log so far meets too. -/
theorem ensures_of_all {P : Event Call Answer → Prop}
    (hp : (∀ event ∈ log, P event) →
      p.Ensures h (fun a s' log' => (∀ event ∈ log', P event) → post a s' log') s log) :
    p.Ensures h (fun a s' log' => (∀ event ∈ log', P event) → post a s' log') s log := by
  by_cases hall : ∀ event ∈ log, P event
  · exact hp hall
  · refine (ensures_suffix p).mono fun _ _ _ _ hlog hall' => ?_
    exact absurd (fun event hevent => hall' event (hlog.subset hevent)) hall

/-- A run that comes to its end meets what the program ensures. -/
theorem Ensures.run {choices : List Choice}
    {out : Outcome Call Answer σ α} {a : α} (hp : p.Ensures h post s log)
    (hrun : p.run h s log choices = some out) (hresult : out.result = some a) :
    post a out.state out.log := by
  induction p generalizing s log choices with
  | done b =>
    cases choices with
    | nil =>
      obtain rfl := Option.some.inj hrun
      obtain rfl := Option.some.inj hresult
      exact hp
    | cons => cases hrun
  | call c next ih =>
    cases choices with
    | nil =>
      obtain rfl := Option.some.inj hrun
      cases hresult
    | cons choice choices =>
      rw [Program.run] at hrun
      split at hrun
      · cases hrun
      · rename_i r s' hanswer
        exact ih r (hp choice r s' hanswer) hrun

end Program

end Effects
