import Virtrigaud.Api.Meta
import Virtrigaud.Effects.Machine

/-!
# The circuit breaker

`allowCall` and `recordResult` are critical sections of their own, so the result of a call may
be recorded in another state of the breaker than the one that let the call in. `Calls` is the
breaker with any number of calls in flight; every interleaving is a run of it.
-/

namespace Virtrigaud.Resilience

open Effects

inductive State
  | stateClosed
  | stateHalfOpen
  | stateOpen
  deriving DecidableEq, Repr

structure Config where
  failureThreshold : Int
  resetTimeout : Duration
  halfOpenMaxCalls : Int
  deriving DecidableEq, Repr

def defaultConfig : Config where
  failureThreshold := 10
  resetTimeout := 60 * second
  halfOpenMaxCalls := 3

/-- `providerType` and `provider` are the labels of the breaker's metrics. -/
structure CircuitBreaker where
  config : Config
  state : State := .stateClosed
  failures : Int := 0
  lastFailureTime : Time := 0
  halfOpenCalls : Int := 0
  (name providerType provider : String := "")
  deriving DecidableEq, Repr

def newCircuitBreaker (name providerType provider : String) (config : Option Config) :
    CircuitBreaker where
  config := config.getD defaultConfig
  name := name
  providerType := providerType
  provider := provider

namespace CircuitBreaker

variable (cb : CircuitBreaker)

def transitionToClosed : CircuitBreaker :=
  { cb with state := .stateClosed, failures := 0, halfOpenCalls := 0 }

def transitionToOpen : CircuitBreaker :=
  { cb with state := .stateOpen, halfOpenCalls := 0 }

def transitionToHalfOpen : CircuitBreaker :=
  { cb with state := .stateHalfOpen, halfOpenCalls := 0 }

/-- The case of `allowCall` for a half-open breaker. -/
def allowProbe : Bool × CircuitBreaker :=
  if cb.halfOpenCalls < cb.config.halfOpenMaxCalls then
    (true, { cb with halfOpenCalls := cb.halfOpenCalls + 1 })
  else (false, cb)

/-- Whether a call is let in, and the breaker afterwards. -/
def allowCall (now : Time) : Bool × CircuitBreaker :=
  match cb.state with
  | .stateClosed => (true, cb)
  | .stateOpen =>
    if now - cb.lastFailureTime ≤ cb.config.resetTimeout then (false, cb)
    else cb.transitionToHalfOpen.allowProbe
  | .stateHalfOpen => cb.allowProbe

def recordFailure (now : Time) : CircuitBreaker :=
  let cb := { cb with failures := cb.failures + 1, lastFailureTime := now }
  match cb.state with
  | .stateClosed => if cb.failures ≥ cb.config.failureThreshold then cb.transitionToOpen else cb
  | .stateHalfOpen => cb.transitionToOpen
  | .stateOpen => cb

def recordSuccess : CircuitBreaker :=
  match cb.state with
  | .stateHalfOpen =>
    if cb.halfOpenCalls ≥ cb.config.halfOpenMaxCalls then cb.transitionToClosed else cb
  | .stateClosed => { cb with failures := 0 }
  | .stateOpen => cb

def recordResult (err : Option GoError) (now : Time) : CircuitBreaker :=
  if err.isSome then cb.recordFailure now else cb.recordSuccess

end CircuitBreaker

variable {now : Time} {err : Option GoError}

namespace CircuitBreaker

variable {cb : CircuitBreaker}

/-- What `allowCall` does, case by case. -/
inductive Asks (cb : CircuitBreaker) (now : Time) : Bool → CircuitBreaker → Prop
  | closed (hstate : cb.state = .stateClosed) : Asks cb now true cb
  | early (hstate : cb.state = .stateOpen)
      (htime : now - cb.lastFailureTime ≤ cb.config.resetTimeout) : Asks cb now false cb
  | entered (hstate : cb.state = .stateOpen)
      (htime : cb.config.resetTimeout < now - cb.lastFailureTime)
      (hmax : 0 < cb.config.halfOpenMaxCalls) :
      Asks cb now true { cb with state := .stateHalfOpen, halfOpenCalls := 1 }
  | blocked (hstate : cb.state = .stateOpen)
      (htime : cb.config.resetTimeout < now - cb.lastFailureTime)
      (hmax : cb.config.halfOpenMaxCalls ≤ 0) : Asks cb now false cb.transitionToHalfOpen
  | probe (hstate : cb.state = .stateHalfOpen)
      (hcalls : cb.halfOpenCalls < cb.config.halfOpenMaxCalls) :
      Asks cb now true { cb with halfOpenCalls := cb.halfOpenCalls + 1 }
  | full (hstate : cb.state = .stateHalfOpen)
      (hcalls : cb.config.halfOpenMaxCalls ≤ cb.halfOpenCalls) : Asks cb now false cb

theorem allowCall_asks (cb : CircuitBreaker) (now : Time) :
    Asks cb now (cb.allowCall now).1 (cb.allowCall now).2 := by
  unfold allowCall
  split
  · rename_i hstate
    exact .closed hstate
  · rename_i hstate
    split
    · rename_i htime
      exact .early hstate htime
    rename_i htime
    rw [Int.not_le] at htime
    unfold allowProbe
    split
    · rename_i hmax
      exact .entered hstate htime hmax
    · rename_i hmax
      exact .blocked hstate htime (Int.not_lt.mp hmax)
  · rename_i hstate
    unfold allowProbe
    split
    · rename_i hcalls
      exact .probe hstate hcalls
    · rename_i hcalls
      exact .full hstate (Int.not_lt.mp hcalls)

/-- The breaker with one more failure. -/
def failed (cb : CircuitBreaker) (now : Time) : CircuitBreaker :=
  { cb with failures := cb.failures + 1, lastFailureTime := now }

/-- What `recordResult` does, case by case. -/
inductive Records (cb : CircuitBreaker) (now : Time) : Option GoError → CircuitBreaker → Prop
  | reset (hstate : cb.state = .stateClosed) : Records cb now none { cb with failures := 0 }
  | counted {err : GoError} (hstate : cb.state = .stateClosed)
      (hcount : cb.failures + 1 < cb.config.failureThreshold) :
      Records cb now (some err) (cb.failed now)
  | tripped {err : GoError} (hstate : cb.state = .stateClosed) :
      Records cb now (some err) (cb.failed now).transitionToOpen
  | healed (hstate : cb.state = .stateHalfOpen)
      (hcalls : cb.config.halfOpenMaxCalls ≤ cb.halfOpenCalls) :
      Records cb now none cb.transitionToClosed
  | waiting (hstate : cb.state = .stateHalfOpen)
      (hcalls : cb.halfOpenCalls < cb.config.halfOpenMaxCalls) : Records cb now none cb
  | reopened {err : GoError} (hstate : cb.state = .stateHalfOpen) :
      Records cb now (some err) (cb.failed now).transitionToOpen
  | lateSuccess (hstate : cb.state = .stateOpen) : Records cb now none cb
  | lateFailure {err : GoError} (hstate : cb.state = .stateOpen) :
      Records cb now (some err) (cb.failed now)

theorem recordResult_records (cb : CircuitBreaker) (err : Option GoError) (now : Time) :
    Records cb now err (cb.recordResult err now) := by
  cases err with
  | none =>
    change Records cb now none cb.recordSuccess
    unfold recordSuccess
    split
    · rename_i hstate
      split
      · rename_i hcalls
        exact .healed hstate hcalls
      · rename_i hcalls
        exact .waiting hstate (Int.not_le.mp hcalls)
    · rename_i hstate
      exact .reset hstate
    · rename_i hstate
      exact .lateSuccess hstate
  | some err =>
    change Records cb now (some err) (cb.recordFailure now)
    unfold recordFailure
    dsimp only
    split
    · rename_i hstate
      split
      · exact .tripped hstate
      · rename_i hcount
        exact .counted hstate (Int.not_le.mp hcount)
    · rename_i hstate
      exact .reopened hstate
    · rename_i hstate
      exact .lateFailure hstate

variable {after : CircuitBreaker}

theorem Asks.config {allowed : Bool} (h : Asks cb now allowed after) :
    after.config = cb.config := by
  cases h <;> rfl

theorem Records.config (h : Records cb now err after) : after.config = cb.config := by
  cases h <;> rfl

/-- The labels of the metrics. -/
def labels (cb : CircuitBreaker) : String × String := (cb.providerType, cb.provider)

theorem Asks.labels {allowed : Bool} (h : Asks cb now allowed after) :
    after.labels = cb.labels := by
  cases h <;> rfl

theorem Records.labels (h : Records cb now err after) : after.labels = cb.labels := by
  cases h <;> rfl

end CircuitBreaker

/-- One half of `Call`. A result is that of a call in flight. -/
inductive Action
  | allowCall (now : Time)
  | recordResult (call : Nat) (err : Option GoError) (now : Time)
  deriving DecidableEq, Repr

/-- A step of a call, with the breaker around it. -/
structure Event where
  call : Nat
  action : Action
  (before after : CircuitBreaker)
  deriving DecidableEq, Repr

/-- The call was let in. -/
def Event.admitted (event : Event) : Bool :=
  match event.action with
  | .allowCall now => (event.before.allowCall now).1
  | .recordResult _ _ _ => false

/-- The call succeeded. -/
def Event.succeeded (event : Event) : Bool :=
  match event.action with
  | .allowCall _ => false
  | .recordResult _ err _ => err.isNone

/-- The breaker, the calls in flight and the events so far, newest first. A call is named by
the number of events before it. -/
structure Calls where
  breaker : CircuitBreaker
  running : List Nat := []
  trace : List Event := []
  deriving DecidableEq, Repr

/-- `Call` asks for admission, and records the result of what it has run. -/
def Calls.step : Machine Calls Action := fun s action =>
  match action with
  | .allowCall now =>
    some {
      breaker := (s.breaker.allowCall now).2
      running := if (s.breaker.allowCall now).1 then s.trace.length :: s.running else s.running
      trace := ⟨s.trace.length, action, s.breaker, (s.breaker.allowCall now).2⟩ :: s.trace }
  | .recordResult call err now =>
    if s.running.contains call then
      some {
        breaker := s.breaker.recordResult err now
        running := s.running.erase call
        trace := ⟨call, action, s.breaker, s.breaker.recordResult err now⟩ :: s.trace }
    else none

/-- A new breaker without calls. -/
def Calls.start (breaker : CircuitBreaker) : Calls := { breaker }

theorem step_allowCall {s next : Calls} (h : Calls.step s (.allowCall now) = some next) :
    ∃ allowed after, s.breaker.Asks now allowed after ∧
      (Event.mk s.trace.length (.allowCall now) s.breaker after).admitted = allowed ∧
      next = {
        breaker := after
        running := if allowed then s.trace.length :: s.running else s.running
        trace := ⟨s.trace.length, .allowCall now, s.breaker, after⟩ :: s.trace } :=
  ⟨_, _, s.breaker.allowCall_asks now, rfl, (Option.some.inj h).symm⟩

theorem step_recordResult {s next : Calls} {call : Nat}
    (h : Calls.step s (.recordResult call err now) = some next) :
    call ∈ s.running ∧ ∃ after, s.breaker.Records now err after ∧
      next = {
        breaker := after
        running := s.running.erase call
        trace := ⟨call, .recordResult call err now, s.breaker, after⟩ :: s.trace } := by
  rw [Calls.step] at h
  split at h
  · rename_i hrunning
    exact ⟨List.contains_iff_mem.mp hrunning, _, s.breaker.recordResult_records err now,
      (Option.some.inj h).symm⟩
  · cases h

/-- Each event of the trace stands so to the events before it. -/
def Always (P : Event → List Event → Prop) (trace : List Event) : Prop :=
  ∀ event older, (event :: older) <:+ trace → P event older

theorem always_nil (P : Event → List Event → Prop) : Always P [] := by
  intro event older hsuffix
  simp at hsuffix

theorem Always.cons {P : Event → List Event → Prop} {event : Event} {trace : List Event}
    (h : Always P trace) (hevent : P event trace) : Always P (event :: trace) := by
  intro last older hsuffix
  rcases List.suffix_cons_iff.mp hsuffix with heq | hsuffix
  · cases heq
    exact hevent
  · exact h last older hsuffix

/-- The time of the last failure that was recorded. -/
def lastFailure : List Event → Option Time
  | [] => none
  | event :: older =>
    match event.action with
    | .recordResult _ (some _) now => some now
    | _ => lastFailure older

/-- The events since the breaker became half-open, with the one that made it so; none when it
is not half-open. -/
def episode : List Event → List Event
  | [] => []
  | event :: older =>
    if event.after.state = .stateHalfOpen then
      if event.before.state = .stateHalfOpen then event :: episode older else [event]
    else []

/-- The calls that were let in. -/
def admissions (events : List Event) : List Nat := (events.filter Event.admitted).map Event.call

/-- The calls that succeeded. -/
def successes (events : List Event) : List Nat := (events.filter Event.succeeded).map Event.call

end Virtrigaud.Resilience
