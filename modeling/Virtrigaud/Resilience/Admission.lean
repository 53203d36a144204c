import Virtrigaud.Resilience.CircuitBreaker

/-!
# What the breaker lets in

Over every interleaving, an open breaker lets nothing in before its timeout, a closed one is
below its threshold, and a half-open one lets in at most as many calls as it may. A half-open one
that lets in no more waits for a call it has let in.
-/

namespace Virtrigaud.Resilience

open Effects CircuitBreaker

variable {cfg : Config} {s next : Calls} {a : Action}

/-- No call is let in while the breaker is open and the timeout has not passed. -/
def RejectsEarly (cfg : Config) (event : Event) (older : List Event) : Prop :=
  ∀ now, event.action = .allowCall now → event.before.state = .stateOpen →
    ∀ t, lastFailure older = some t → now - t ≤ cfg.resetTimeout → event.admitted = false

/-- The counters of the breaker are those of the trace. -/
structure Counts (cfg : Config) (s : Calls) : Prop where
  config : s.breaker.config = cfg
  probes : s.breaker.state = .stateHalfOpen →
    ((admissions (episode s.trace)).length : Int) = s.breaker.halfOpenCalls
  halfOpen : s.breaker.state = .stateHalfOpen → s.breaker.halfOpenCalls ≤ cfg.halfOpenMaxCalls
  failure : ∀ t, lastFailure s.trace = some t → s.breaker.lastFailureTime = t
  early : Always (RejectsEarly cfg) s.trace

variable {event : Event}

theorem episode_stays {older : List Event} (hbefore : event.before.state = .stateHalfOpen)
    (hafter : event.after.state = .stateHalfOpen) :
    episode (event :: older) = event :: episode older := by
  rw [episode, if_pos hafter, if_pos hbefore]

theorem episode_enters {older : List Event} (hbefore : event.before.state ≠ .stateHalfOpen)
    (hafter : event.after.state = .stateHalfOpen) :
    episode (event :: older) = [event] := by
  rw [episode, if_pos hafter, if_neg hbefore]

theorem admissions_cons_of_admitted {events : List Event} (h : event.admitted = true) :
    admissions (event :: events) = event.call :: admissions events := by
  rw [admissions, List.filter_cons_of_pos h, List.map_cons]
  rfl

theorem admissions_cons_of_not {events : List Event} (h : event.admitted = false) :
    admissions (event :: events) = admissions events := by
  rw [admissions, List.filter_cons_of_neg (Bool.eq_false_iff.mp h)]
  rfl

variable {now : Time}

/-- An admission that finds the breaker open or half-open is one of the episode. -/
theorem Counts.allowCall (hmax : 1 ≤ cfg.halfOpenMaxCalls) (h : Counts cfg s)
    (hstep : Calls.step s (.allowCall now) = some next) : Counts cfg next := by
  obtain ⟨allowed, after, hasks, hadmitted, rfl⟩ := step_allowCall hstep
  have hconfig := h.config
  have hearly : Always (RejectsEarly cfg)
      (⟨s.trace.length, .allowCall now, s.breaker, after⟩ :: s.trace) := by
    refine h.early.cons fun now' hnow hopen t ht htime => ?_
    cases hnow
    rw [hadmitted]
    have hlast := h.failure t ht
    cases hasks with
    | closed hstate | probe hstate => rw [hstate] at hopen; cases hopen
    | entered hstate hlate =>
      rw [hlast, hconfig] at hlate
      exact absurd hlate (Int.not_lt.mpr htime)
    | early | blocked | full => rfl
  cases hasks with
  | closed hstate | early hstate =>
    exact ⟨hconfig, fun hhalf => by simp [hstate] at hhalf, fun hhalf => by simp [hstate] at hhalf,
      h.failure, hearly⟩
  | entered hstate =>
    refine ⟨hconfig, fun _ => ?_, fun _ => hmax, h.failure, hearly⟩
    rw [episode_enters (by simp [hstate]) rfl, admissions_cons_of_admitted hadmitted]
    rfl
  | blocked hstate _ hnone => rw [hconfig] at hnone; omega
  | probe hstate hcalls =>
    rw [hconfig] at hcalls
    refine ⟨hconfig, fun _ => ?_, fun _ => hcalls, h.failure, hearly⟩
    rw [episode_stays hstate hstate, admissions_cons_of_admitted hadmitted, List.length_cons,
      Int.natCast_succ, h.probes hstate]
  | full hstate =>
    refine ⟨hconfig, fun _ => ?_, h.halfOpen, h.failure, hearly⟩
    rw [episode_stays hstate hstate, admissions_cons_of_not hadmitted]
    exact h.probes hstate

theorem Counts.recordResult (h : Counts cfg s) {call : Nat} {err : Option GoError}
    (hstep : Calls.step s (.recordResult call err now) = some next) : Counts cfg next := by
  obtain ⟨-, after, hrecords, rfl⟩ := step_recordResult hstep
  have hconfig := h.config
  have hearly : ∀ after, Always (RejectsEarly cfg)
      (⟨call, .recordResult call err now, s.breaker, after⟩ :: s.trace) :=
    fun _ => h.early.cons nofun
  cases hrecords with
  | reset hstate | lateSuccess hstate =>
    exact ⟨hconfig, fun hhalf => by simp [hstate] at hhalf, fun hhalf => by simp [hstate] at hhalf,
      h.failure, hearly _⟩
  | counted hstate | lateFailure hstate =>
    exact ⟨hconfig, fun hhalf => by simp [failed, hstate] at hhalf,
      fun hhalf => by simp [failed, hstate] at hhalf, fun t ht => Option.some.inj ht, hearly _⟩
  | tripped | reopened =>
    exact ⟨hconfig, nofun, nofun, fun t ht => Option.some.inj ht, hearly _⟩
  | healed => exact ⟨hconfig, nofun, nofun, h.failure, hearly _⟩
  | waiting hstate =>
    refine ⟨hconfig, fun _ => ?_, h.halfOpen, h.failure, hearly _⟩
    rw [episode_stays hstate hstate, admissions_cons_of_not rfl]
    exact h.probes hstate

theorem Counts.step (hmax : 1 ≤ cfg.halfOpenMaxCalls) (h : Counts cfg s)
    (hstep : Calls.step s a = some next) : Counts cfg next := by
  cases a with
  | allowCall => exact h.allowCall hmax hstep
  | recordResult => exact h.recordResult hstep

theorem counts_start (name providerType provider : String) :
    Counts cfg (.start (newCircuitBreaker name providerType provider (some cfg))) :=
  ⟨rfl, nofun, nofun, nofun, always_nil _⟩

/-- A closed breaker is below its threshold. -/
def Below (cfg : Config) (s : Calls) : Prop :=
  s.breaker.config = cfg ∧
    (s.breaker.state = .stateClosed → s.breaker.failures < cfg.failureThreshold)

theorem Below.step (hthreshold : 1 ≤ cfg.failureThreshold) (h : Below cfg s)
    (hstep : Calls.step s a = some next) : Below cfg next := by
  obtain ⟨hconfig, hclosed⟩ := h
  cases a with
  | allowCall now =>
    obtain ⟨allowed, after, hasks, -, rfl⟩ := step_allowCall hstep
    refine ⟨hasks.config.trans hconfig, ?_⟩
    cases hasks with
    | closed | early | full => exact hclosed
    | entered | blocked => exact nofun
    | probe hstate => exact fun hstate' => by simp [hstate] at hstate'
  | recordResult call err now =>
    obtain ⟨-, after, hrecords, rfl⟩ := step_recordResult hstep
    refine ⟨hrecords.config.trans hconfig, ?_⟩
    cases hrecords with
    | reset | healed => exact fun _ => hthreshold
    | counted _ hcount => exact fun _ => hconfig ▸ hcount
    | tripped | reopened => exact nofun
    | waiting | lateSuccess => exact hclosed
    | lateFailure hstate => exact fun hstate' => by simp [failed, hstate] at hstate'

theorem below_start (hthreshold : 1 ≤ cfg.failureThreshold) (name providerType provider : String) :
    Below cfg (.start (newCircuitBreaker name providerType provider (some cfg))) :=
  ⟨rfl, fun _ => hthreshold⟩

/-- In every state of every interleaving. -/
theorem admissions_limited (hthreshold : 1 ≤ cfg.failureThreshold) (hmax : 1 ≤ cfg.halfOpenMaxCalls)
    {name providerType provider : String}
    (h : Calls.step.Reach Machine.free
      (.start (newCircuitBreaker name providerType provider (some cfg))) s) :
    Always (RejectsEarly cfg) s.trace ∧
      (s.breaker.state = .stateClosed → s.breaker.failures < cfg.failureThreshold) ∧
      (s.breaker.state = .stateHalfOpen →
        (admissions (episode s.trace)).length ≤ cfg.halfOpenMaxCalls) := by
  have hcounts : Counts cfg s := h.invariant (counts_start _ _ _)
    fun _ _ _ hbefore _ hstep => hbefore.step hmax hstep
  have hbelow : Below cfg s := h.invariant (below_start hthreshold _ _ _)
    fun _ _ _ hbefore _ hstep => hbefore.step hthreshold hstep
  refine ⟨hcounts.early, hbelow.2, fun hhalf => ?_⟩
  rw [hcounts.probes hhalf]
  exact hcounts.halfOpen hhalf

namespace Sample

def config : Config := { failureThreshold := 1, resetTimeout := 10, halfOpenMaxCalls := 2 }

def fresh : Calls := .start (newCircuitBreaker "rpc" "libvirt" "kvm" (some config))

def err : Option GoError := some (errorf "connection refused")

/-- A failure opens the breaker; after the timeout two calls are let in, and a third is not. -/
def probing : List Action :=
  [.allowCall 0, .recordResult 0 err 1, .allowCall 5, .allowCall 20, .allowCall 21, .allowCall 22]

end Sample

theorem admissions_limited_sample : ∃ s, Calls.step.Reach Machine.free Sample.fresh s ∧
    s.breaker.state = .stateHalfOpen ∧
    ((admissions (episode s.trace)).length : Int) ≤ Sample.config.halfOpenMaxCalls := by
  exact Machine.exists_reach Sample.probing (fun _ hreach hhalf =>
    ⟨hhalf, (admissions_limited (by decide) (by decide) hreach).2.2 hhalf⟩) (by decide +kernel)

/-- A half-open breaker that has let in as many calls as it may waits for one of them: the result
of any call would have ended the episode. -/
def Waits (cfg : Config) (s : Calls) : Prop :=
  s.breaker.config = cfg ∧ (s.breaker.state = .stateHalfOpen →
    cfg.halfOpenMaxCalls ≤ s.breaker.halfOpenCalls →
    ∃ call ∈ admissions (episode s.trace), call ∈ s.running)

theorem Waits.allowCall (hmax : 1 ≤ cfg.halfOpenMaxCalls) (h : Waits cfg s)
    (hstep : Calls.step s (.allowCall now) = some next) : Waits cfg next := by
  obtain ⟨allowed, after, hasks, hadmitted, rfl⟩ := step_allowCall hstep
  refine ⟨hasks.config.trans h.1, fun hhalf hcalls => ?_⟩
  cases hasks with
  | closed hstate | early hstate => simp [hstate] at hhalf
  | entered hstate =>
    refine ⟨s.trace.length, ?_, .head _⟩
    rw [episode_enters (by simp [hstate]) rfl, admissions_cons_of_admitted hadmitted]
    exact .head _
  | blocked _ _ hnone => rw [h.1] at hnone; omega
  | probe hstate =>
    refine ⟨s.trace.length, ?_, .head _⟩
    rw [episode_stays hstate hstate, admissions_cons_of_admitted hadmitted]
    exact .head _
  | full hstate =>
    rw [episode_stays hstate hstate, admissions_cons_of_not hadmitted]
    exact h.2 hstate hcalls

theorem Waits.recordResult (h : Waits cfg s) {call : Nat} {err : Option GoError}
    (hstep : Calls.step s (.recordResult call err now) = some next) : Waits cfg next := by
  obtain ⟨-, after, hrecords, rfl⟩ := step_recordResult hstep
  refine ⟨hrecords.config.trans h.1, fun hhalf hcalls => ?_⟩
  cases hrecords with
  | reset hstate | lateSuccess hstate => simp [hstate] at hhalf
  | counted hstate | lateFailure hstate => simp [failed, hstate] at hhalf
  | tripped | reopened | healed => cases hhalf
  | waiting _ hfew => exact absurd hcalls (Int.not_le.mpr (h.1 ▸ hfew))

/-- In every state of every interleaving: a half-open breaker refuses a call only while one of the
episode is in flight, and with none in flight a call is let in once the timeout has passed. -/
theorem refusal_waits_for_probe (hmax : 1 ≤ cfg.halfOpenMaxCalls)
    {name providerType provider : String}
    (h : Calls.step.Reach Machine.free
      (.start (newCircuitBreaker name providerType provider (some cfg))) s) (now : Time) :
    (s.breaker.state = .stateHalfOpen → (s.breaker.allowCall now).1 = false →
      ∃ call ∈ admissions (episode s.trace), call ∈ s.running) ∧
    (s.running = [] → cfg.resetTimeout < now - s.breaker.lastFailureTime →
      (s.breaker.allowCall now).1 = true) := by
  obtain ⟨hconfig, hwaits⟩ : Waits cfg s := by
    refine h.invariant ⟨rfl, fun hhalf => by cases hhalf⟩ fun before a after hbefore _ hstep => ?_
    cases a with
    | allowCall => exact hbefore.allowCall hmax hstep
    | recordResult => exact hbefore.recordResult hstep
  have hasks := s.breaker.allowCall_asks now
  generalize (s.breaker.allowCall now).1 = allowed, (s.breaker.allowCall now).2 = after at hasks ⊢
  rw [← hconfig] at hmax hwaits ⊢
  cases hasks with
  | closed | entered | probe => exact ⟨fun _ => nofun, fun _ _ => rfl⟩
  | early hstate hearly =>
    exact ⟨fun hhalf => by simp [hstate] at hhalf,
      fun _ hlate => absurd hearly (Int.not_le.mpr hlate)⟩
  | blocked _ _ hnone => omega
  | full hstate hcalls =>
    obtain ⟨call, hcall, hrunning⟩ := hwaits hstate hcalls
    exact ⟨fun _ _ => ⟨call, hcall, hrunning⟩, fun hnone => by simp [hnone] at hrunning⟩

theorem refusal_waits_for_probe_sample : ∃ s, Calls.step.Reach Machine.free Sample.fresh s ∧
    s.breaker.state = .stateHalfOpen ∧ (s.breaker.allowCall 30).1 = false ∧
    ∃ call ∈ admissions (episode s.trace), call ∈ s.running := by
  exact Machine.exists_reach
    (P := fun s => s.breaker.state = .stateHalfOpen ∧ (s.breaker.allowCall 30).1 = false)
    Sample.probing (fun _ hreach ⟨hhalf, hrefused⟩ =>
      ⟨hhalf, hrefused, (refusal_waits_for_probe (by decide) hreach 30).1 hhalf hrefused⟩)
    (by decide +kernel)

/-- A breaker that may let in no call at all ends half-open, refuses every call and waits for
none. -/
theorem refusal_waits_for_nothing :
    ∃ s, Calls.step.Reach Machine.free (.start (newCircuitBreaker "rpc" "libvirt" "kvm"
        (some { Sample.config with halfOpenMaxCalls := 0 }))) s ∧
      s.breaker.state = .stateHalfOpen ∧ s.running = [] ∧
      ∀ now, (s.breaker.allowCall now).1 = false := by
  refine Machine.exists_reach (P := fun s => s.breaker.state = .stateHalfOpen ∧ s.running = [] ∧
      s.breaker.allowProbe.1 = false) [.allowCall 0, .recordResult 0 Sample.err 1, .allowCall 20]
    (fun s _ ⟨hhalf, hnone, hrefused⟩ => ⟨hhalf, hnone, fun now => ?_⟩) (by decide +kernel)
  rw [allowCall, hhalf]
  exact hrefused

end Virtrigaud.Resilience
