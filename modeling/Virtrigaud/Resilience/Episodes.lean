import Virtrigaud.Resilience.Admission

/-!
# The end of a half-open episode

A half-open breaker counts the calls it lets in, not the ones that succeed, and a result does
not say when its call was let in. So the first success after the last admission closes it, and
the result of an older call closes or reopens it. When no call is in flight at an admission
outside the closed state, the results are those of the episode.
-/

namespace Virtrigaud.Resilience

open Effects CircuitBreaker List

variable {cfg : Config} {s next : Calls} {a : Action}

/-- The breaker leaves the half-open state on the result of a call of the episode, and closes
only when as many calls as may be let in were let in and have succeeded. -/
def EndsByOwn (cfg : Config) (event : Event) (older : List Event) : Prop :=
  event.before.state = .stateHalfOpen → event.after.state ≠ .stateHalfOpen →
    event.call ∈ admissions (episode older) ∧
    (event.after.state = .stateClosed →
      (admissions (episode older)).length = cfg.halfOpenMaxCalls ∧
      ∀ call ∈ admissions (episode older), call ∈ successes (event :: episode older))

/-- Outside the closed state a call is let in only when no other is in flight. -/
def Alone (s : Calls) (a : Action) : Prop :=
  ∀ now, a = .allowCall now → s.breaker.state ≠ .stateClosed →
    (s.breaker.allowCall now).1 = true → s.running = []

/-- In a half-open episode at most one call is in flight; it is one of the episode, and the
others have succeeded. -/
structure Probing (cfg : Config) (s : Calls) : Prop where
  counts : Counts cfg s
  running : s.breaker.state = .stateHalfOpen →
    s.running = [] ∨ ∃ call ∈ admissions (episode s.trace), s.running = [call]
  settled : s.breaker.state = .stateHalfOpen → ∀ call ∈ admissions (episode s.trace),
    call ∈ s.running ∨ call ∈ successes (episode s.trace)
  ends : Always (EndsByOwn cfg) s.trace

theorem Probing.outside (hcounts : Counts cfg s) (houtside : s.breaker.state ≠ .stateHalfOpen)
    (hends : Always (EndsByOwn cfg) s.trace) : Probing cfg s :=
  ⟨hcounts, fun hhalf => absurd hhalf houtside, fun hhalf => absurd hhalf houtside, hends⟩

theorem successes_cons_of_succeeded {event : Event} {events : List Event}
    (h : event.succeeded = true) :
    successes (event :: events) = event.call :: successes events := by
  rw [successes, filter_cons_of_pos h, map_cons]
  rfl

theorem successes_subset_cons (event : Event) (events : List Event) :
    successes events ⊆ successes (event :: events) := by
  intro call hcall
  obtain ⟨found, hfound, rfl⟩ := mem_map.mp hcall
  obtain ⟨hmem, hsucceeded⟩ := mem_filter.mp hfound
  exact mem_map_of_mem (mem_filter.mpr ⟨.tail _ hmem, hsucceeded⟩)

theorem Probing.allowCall (hmax : 1 ≤ cfg.halfOpenMaxCalls) (h : Probing cfg s) {now : Time}
    (halone : Alone s (.allowCall now)) (hstep : Calls.step s (.allowCall now) = some next) :
    Probing cfg next := by
  have hcounts := h.counts.allowCall hmax hstep
  obtain ⟨allowed, after, hasks, hadmitted, rfl⟩ := step_allowCall hstep
  have hempty : s.breaker.state ≠ .stateClosed → allowed = true → s.running = [] :=
    fun hopen hallowed => halone now rfl hopen (hadmitted.trans hallowed)
  have hends : after.state = .stateHalfOpen ∨ after = s.breaker → Always (EndsByOwn cfg)
      (⟨s.trace.length, .allowCall now, s.breaker, after⟩ :: s.trace) := by
    refine fun hstays => h.ends.cons fun hbefore hafter => ?_
    rcases hstays with hhalf | rfl
    · exact absurd hhalf hafter
    · exact absurd hbefore hafter
  cases hasks with
  | closed hstate | early hstate =>
    exact .outside hcounts (by simp [hstate]) (hends (.inr rfl))
  | blocked hstate _ hnone =>
    rw [h.counts.config] at hnone
    omega
  | entered hstate =>
    have hlone : s.running = [] := hempty (by simp [hstate]) rfl
    refine ⟨hcounts, fun _ => .inr ⟨s.trace.length, ?_, by rw [if_pos rfl, hlone]⟩,
      fun _ call hcall => .inl ?_, hends (.inl rfl)⟩
    · rw [episode_enters (by simp [hstate]) rfl, admissions_cons_of_admitted hadmitted]
      exact .head _
    · rw [episode_enters (by simp [hstate]) rfl, admissions_cons_of_admitted hadmitted] at hcall
      rw [if_pos rfl, hlone]
      exact hcall
  | probe hstate =>
    have hlone : s.running = [] := hempty (by simp [hstate]) rfl
    refine ⟨hcounts, fun _ => .inr ⟨s.trace.length, ?_, by rw [if_pos rfl, hlone]⟩,
      fun _ call hcall => ?_, hends (.inl hstate)⟩
    · rw [episode_stays hstate hstate, admissions_cons_of_admitted hadmitted]
      exact .head _
    · rw [episode_stays hstate hstate, admissions_cons_of_admitted hadmitted] at hcall
      rcases mem_cons.mp hcall with rfl | hcall
      · exact .inl (.head _)
      · rcases h.settled hstate call hcall with hrunning | hsucceeded
        · rw [hlone] at hrunning
          cases hrunning
        · rw [episode_stays hstate hstate]
          exact .inr (successes_subset_cons _ _ hsucceeded)
  | full hstate =>
    refine ⟨hcounts, fun _ => ?_, fun _ call hcall => ?_, hends (.inr rfl)⟩
    · rw [episode_stays hstate hstate, admissions_cons_of_not hadmitted]
      exact h.running hstate
    · rw [episode_stays hstate hstate, admissions_cons_of_not hadmitted] at hcall
      rw [episode_stays hstate hstate]
      exact (h.settled hstate call hcall).imp_right fun hcall => successes_subset_cons _ _ hcall

/-- The call of a result in the half-open state is the only one in flight. -/
theorem Probing.running_eq (h : Probing cfg s) (hhalf : s.breaker.state = .stateHalfOpen)
    {call : Nat}
    (hcall : call ∈ s.running) : call ∈ admissions (episode s.trace) ∧ s.running = [call] ∧
      ∀ other ∈ admissions (episode s.trace), other ∈ call :: successes (episode s.trace) := by
  rcases h.running hhalf with hempty | ⟨only, honly, hrunning⟩
  · rw [hempty] at hcall
    cases hcall
  · rw [hrunning, mem_singleton] at hcall
    refine hcall ▸ ⟨honly, hrunning, fun other hother => mem_cons.mpr ?_⟩
    exact (h.settled hhalf other hother).imp_left fun hrun => mem_singleton.mp (hrunning ▸ hrun)

theorem Probing.recordResult (h : Probing cfg s) {call : Nat} {err : Option GoError} {now : Time}
    (hstep : Calls.step s (.recordResult call err now) = some next) : Probing cfg next := by
  have hcounts := h.counts.recordResult hstep
  obtain ⟨hcall, after, hrecords, rfl⟩ := step_recordResult hstep
  have houtside : s.breaker.state ≠ .stateHalfOpen → Always (EndsByOwn cfg)
      (⟨call, .recordResult call err now, s.breaker, after⟩ :: s.trace) :=
    fun houtside => h.ends.cons fun hbefore => absurd hbefore houtside
  cases hrecords with
  | reset hstate | lateSuccess hstate =>
    exact .outside hcounts (by simp [hstate]) (houtside (by simp [hstate]))
  | counted hstate | lateFailure hstate =>
    exact .outside hcounts (by simp [failed, hstate]) (houtside (by simp [hstate]))
  | tripped hstate => exact .outside hcounts (fun h => by cases h) (houtside (by simp [hstate]))
  | reopened hstate =>
    refine .outside hcounts (fun h => by cases h) (h.ends.cons fun _ _ => ⟨?_, fun h => by cases h⟩)
    exact (h.running_eq hstate hcall).1
  | healed hstate hcalls =>
    obtain ⟨hown, -, hothers⟩ := h.running_eq hstate hcall
    refine .outside hcounts (fun h => by cases h) (h.ends.cons fun _ _ => ⟨hown, fun _ => ⟨?_, ?_⟩⟩)
    · rw [h.counts.config, ← h.counts.probes hstate] at hcalls
      have hle := h.counts.halfOpen hstate
      rw [← h.counts.probes hstate] at hle
      omega
    · rw [successes_cons_of_succeeded rfl]
      exact hothers
  | waiting hstate =>
    obtain ⟨hown, hrunning, hothers⟩ := h.running_eq hstate hcall
    refine ⟨hcounts, fun _ => .inl ?_, fun _ other hother => .inr ?_,
      h.ends.cons fun _ hafter => absurd hstate hafter⟩
    · simp [hrunning]
    · rw [episode_stays hstate hstate, admissions_cons_of_not rfl] at hother
      rw [episode_stays hstate hstate, successes_cons_of_succeeded rfl]
      exact hothers other hother

theorem probing_start (name providerType provider : String) :
    Probing cfg (.start (newCircuitBreaker name providerType provider (some cfg))) :=
  ⟨counts_start _ _ _, nofun, nofun, always_nil _⟩

/-- Every half-open episode of such a run ends by its own calls. -/
theorem episode_ends_by_own_calls (hmax : 1 ≤ cfg.halfOpenMaxCalls)
    {name providerType provider : String}
    (h : Calls.step.Reach Alone
      (.start (newCircuitBreaker name providerType provider (some cfg))) s) :
    Always (EndsByOwn cfg) s.trace := by
  refine (h.invariant (I := Probing cfg) (probing_start _ _ _) ?_).ends
  intro before a after hbefore halone hstep
  cases a with
  | allowCall => exact hbefore.allowCall hmax halone hstep
  | recordResult => exact hbefore.recordResult hstep

namespace Sample

/-- One call is in flight when another one opens the breaker; after the timeout two are let
in, and then the old one ends. -/
def overtaken (result : Option GoError) : List Action :=
  [.allowCall 0, .allowCall 0, .recordResult 1 err 1, .allowCall 20, .allowCall 21,
    .recordResult 0 result 22]

/-- Two calls are let in, and the first succeeds. -/
def overlapping : List Action :=
  [.allowCall 0, .recordResult 0 err 1, .allowCall 20, .allowCall 21, .recordResult 2 none 22]

/-- A run in which something is to be seen of the last event. -/
theorem exists_last {cond : Calls → Action → Prop} (check : Calls → Action → Bool)
    {P : Event → List Event → Prop} [∀ event older, Decidable (P event older)]
    (actions : List Action) (hcheck : ∀ s a, check s a = true → cond s a)
    (hrun : (Calls.step.run check fresh actions).any
      (fun s => decide (∃ event ∈ s.trace.head?, P event s.trace.tail)) = true) :
    ∃ s event older, Calls.step.Reach cond fresh s ∧ s.trace = event :: older ∧ P event older := by
  obtain ⟨s, hreach, event, hevent, hsees⟩ := Machine.exists_reach_of_run
    (P := fun s => ∃ event ∈ s.trace.head?, P event s.trace.tail) fresh actions hcheck hrun
  exact ⟨s, event, s.trace.tail, hreach, eq_cons_of_mem_head? hevent, hsees⟩

end Sample

open Sample

/-- The success of a call from before the episode closes the breaker, its failure reopens it,
and the first success closes it while another call of the episode is in flight. -/
theorem episode_ended_by_other_call :
    (∃ s event older, Calls.step.Reach Machine.free fresh s ∧ s.trace = event :: older ∧
      event.before.state = .stateHalfOpen ∧ event.after.state = .stateClosed ∧
      event.call ∉ admissions (episode older)) ∧
    (∃ s event older, Calls.step.Reach Machine.free fresh s ∧ s.trace = event :: older ∧
      event.before.state = .stateHalfOpen ∧ event.after.state = .stateOpen ∧
      event.call ∉ admissions (episode older)) ∧
    (∃ s event older, Calls.step.Reach Machine.free fresh s ∧ s.trace = event :: older ∧
      event.before.state = .stateHalfOpen ∧ event.after.state = .stateClosed ∧
      ∃ call ∈ admissions (episode older), call ∉ successes (event :: episode older)) := by
  refine ⟨?_, ?_, ?_⟩
  · exact exists_last (fun _ _ => true) (overtaken none)
      (fun _ _ _ => trivial) (by decide +kernel)
  · exact exists_last (fun _ _ => true) (overtaken err)
      (fun _ _ _ => trivial) (by decide +kernel)
  · exact exists_last (fun _ _ => true) overlapping
      (fun _ _ _ => trivial) (by decide +kernel)

namespace Sample

def alone (s : Calls) : Action → Bool
  | .allowCall now =>
    decide (s.breaker.state = .stateClosed) || !(s.breaker.allowCall now).1 || s.running.isEmpty
  | .recordResult _ _ _ => true

theorem alone_of_check (s : Calls) (a : Action) (h : alone s a = true) : Alone s a := by
  rintro now rfl hopen hallowed
  simp only [alone, Bool.or_eq_true, decide_eq_true_eq, hopen, hallowed, false_or] at h
  simpa using h

/-- Two calls are let in one after the other, and both succeed. -/
def probed : List Action :=
  [.allowCall 0, .recordResult 0 err 1, .allowCall 20, .recordResult 2 none 21, .allowCall 22,
    .recordResult 4 none 23]

end Sample

theorem episode_ends_by_own_calls_sample :
    ∃ s event older, Calls.step.Reach Alone fresh s ∧ s.trace = event :: older ∧
      event.after.state = .stateClosed ∧
      (admissions (episode older)).length = config.halfOpenMaxCalls ∧
      ∀ call ∈ admissions (episode older), call ∈ successes (event :: episode older) := by
  obtain ⟨s, event, older, hreach, htrace, hbefore, hafter⟩ := exists_last
    (P := fun event _ => event.before.state = .stateHalfOpen ∧ event.after.state = .stateClosed)
    alone probed alone_of_check (by decide +kernel)
  have hends := episode_ends_by_own_calls (by decide) hreach event older
    (htrace ▸ suffix_refl _) hbefore (by simp [hafter])
  exact ⟨s, event, older, hreach, htrace, hafter, hends.2 hafter⟩

end Virtrigaud.Resilience
