import Virtrigaud.Effects.Program
import Virtrigaud.Transport.Client

/-!
# Retries

`Retry` calls a function again while it fails with an error that may pass, and `Policy.Execute`
does so with or without a circuit breaker around each attempt. The function, the breaker, which
others use too, and the wait that the context may end are calls with any answer.
-/

namespace Virtrigaud.Resilience

open Effects Program List Transport

/-- `contracts.ProviderError`, without its cause. -/
structure ProviderError where
  type : ErrorType
  message : String
  retryable : Bool
  deriving DecidableEq

def ProviderError.isRetryable (e : ProviderError) : Bool :=
  e.retryable || e.type = .retryable || e.type = .unavailable || e.type = .timeout ||
    e.type = .rateLimit

def newUnavailableError (message : String) : ProviderError := ⟨.unavailable, message, true⟩

/-- An error, as the type assertion of `IsRetryable` sees it: a wrapped `ProviderError` is
another error. -/
inductive Failure
  | provider (err : ProviderError)
  | other (err : GoError)
  deriving DecidableEq

def isRetryable : Option Failure → Bool
  | some (.provider err) => err.isRetryable
  | _ => false

/-- The fields for `calculateDelay` are left out: a wait may take any time. -/
structure RetryConfig where
  maxAttempts : Int
  deriving DecidableEq

def defaultRetryConfig : RetryConfig where
  maxAttempts := 5

inductive RetryCall
  /-- The function; `Retry` tells it the attempt. -/
  | fn (attempt : Option Nat)
  | allowCall
  | recordResult (err : Option Failure)
  /-- The select between the end of the context and the delay. -/
  | wait (attempt : Nat)
  deriving DecidableEq

@[reducible] def RetryCall.Answer : RetryCall → Type
  | .fn _ => Option Failure
  | .allowCall => Bool
  | .recordResult _ => Unit
  | .wait _ => Option GoError

abbrev Attempt : Type := Program RetryCall RetryCall.Answer (Option Failure)

abbrev ask (c : RetryCall) : Program RetryCall RetryCall.Answer c.Answer := perform c

/-- The loop of `Retry`, with `left` attempts to go. -/
def retryFrom (fn : Nat → Attempt) (lastErr : Option Failure) (attempt : Nat) : Nat → Attempt
  | 0 => return lastErr
  | left + 1 => do
    match ← fn attempt with
    | none => return none
    | some err =>
      if isRetryable (some err) = false then return some err
      else if left = 0 then return some err
      else
        match ← ask (.wait attempt) with
        | some ctxErr => return some (.other ctxErr)
        | none => retryFrom fn (some err) (attempt + 1) left

def retry (config : Option RetryConfig) (fn : Nat → Attempt) : Attempt :=
  retryFrom fn none 0 (config.getD defaultRetryConfig).maxAttempts.toNat

/-- `Call` of the breaker with this name. -/
def guarded (name : String) : Attempt := do
  if (← ask .allowCall) = false then
    return some (.provider (newUnavailableError ("circuit breaker " ++ name ++ " is open")))
  else
    let err ← ask (.fn none)
    let _ ← ask (.recordResult err)
    return err

/-- A policy, with the name of its breaker if it has one. -/
structure Policy where
  retryConfig : RetryConfig
  circuitBreaker : Option String
  deriving DecidableEq

def newPolicy (retryConfig : Option RetryConfig) (circuitBreaker : Option String) : Policy where
  retryConfig := retryConfig.getD defaultRetryConfig
  circuitBreaker := circuitBreaker

def Policy.execute (p : Policy) : Attempt :=
  match p.circuitBreaker with
  | some name => retry (some p.retryConfig) fun _ => guarded name
  | none => retry (some p.retryConfig) fun _ => ask (.fn none)

abbrev Log : Type := List (Effects.Event RetryCall RetryCall.Answer)

variable {maxAttempts : Int} {log log' : Log} {result : Option Failure}

/-- What the calls of the function returned, the last one first. -/
def results (log : Log) : List (Option Failure) :=
  log.filterMap fun event =>
    match event with
    | ⟨.fn _, result⟩ => some result
    | _ => none

/-- So far the function has only failed in ways that may pass. -/
def Pending (log : Log) : Prop :=
  ∀ result ∈ results log, isRetryable result = true

/-- The function is called again only while it is pending, and not too often. -/
def Again (maxAttempts : Int) (log : Log) : RetryCall → Prop
  | .fn _ => Pending log ∧ (results log).length < max 1 maxAttempts
  | _ => True

/-- A result without an error is one that the function returned. -/
def Honest (result : Option Failure) (log : Log) : Prop :=
  result = none → none ∈ results log

/-- An attempt has returned what the function returned, or an error without a call of it. -/
def Told (log : Log) (result : Option Failure) (log' : Log) : Prop :=
  results log' = result :: results log ∨ result ≠ none ∧ results log' = results log

/-- An attempt calls the function once at most. -/
def Tries (maxAttempts : Int) (attempt : Attempt) : Prop :=
  ∀ log, Pending log → (results log).length < max 1 maxAttempts →
    attempt.Obeys (Again maxAttempts) (Told log) log

theorem tries_fn (attempt : Option Nat) : Tries maxAttempts (ask (.fn attempt)) :=
  fun _ hpending hcount => ⟨⟨hpending, hcount⟩, fun _ => .inl rfl⟩

theorem tries_guarded (name : String) : Tries maxAttempts (guarded name) := by
  intro log hpending hcount
  refine obeys_perform trivial fun allowed => ?_
  cases allowed with
  | false => exact .inr ⟨Option.some_ne_none _, rfl⟩
  | true => exact ⟨⟨hpending, hcount⟩, fun result => ⟨trivial, fun _ => .inl rfl⟩⟩

theorem honest_some (err : Failure) : Honest (some err) log := fun h => nomatch h

theorem Told.honest (h : Told log result log') : Honest result log' := by
  rintro rfl
  rcases h with hcalled | ⟨hne, -⟩
  · exact hcalled ▸ mem_cons_self
  · exact absurd rfl hne

/-- A failure that may pass leaves the function pending, after one call more at most. -/
theorem Told.pending (h : Told log result log') (hpending : Pending log)
    (hresult : isRetryable result = true) :
    Pending log' ∧ (results log').length ≤ (results log).length + 1 := by
  unfold Pending
  rcases h with hcalled | ⟨-, hrefused⟩
  · rw [hcalled]
    exact ⟨forall_mem_cons.mpr ⟨hresult, hpending⟩, le_rfl⟩
  · rw [hrefused]
    exact ⟨hpending, Nat.le_succ _⟩

variable {fn : Nat → Attempt}

theorem retryFrom_obeys (hfn : ∀ attempt, Tries maxAttempts (fn attempt)) {left : Nat}
    (hpending : Pending log) (hleft : (results log).length + left ≤ maxAttempts)
    {lastErr : Option Failure} (hlast : left = 0 → lastErr ≠ none) (attempt : Nat) :
    (retryFrom fn lastErr attempt left).Obeys (Again maxAttempts) Honest log := by
  -- on the attempts that are left: each of those before them made one call at most
  induction left generalizing log lastErr attempt with
  | zero => exact fun hnone => absurd hnone (hlast rfl)
  | succ left ih =>
    refine (hfn attempt log hpending (by omega)).bind fun result log' _ htold => ?_
    cases result with
    | none => exact htold.honest
    | some err =>
      dsimp only
      split
      · exact honest_some err
      rename_i hretry
      split
      · exact honest_some err
      obtain ⟨hpending', hcount⟩ := htold.pending hpending (Bool.of_not_eq_false hretry)
      have hleft' : (results log').length + (left : Int) ≤ maxAttempts := by omega
      refine obeys_perform trivial fun ended => ?_
      cases ended with
      | some ctxErr => exact honest_some _
      | none =>
        have hwaited : Pending (⟨.wait attempt, none⟩ :: log') := hpending'
        exact ih hwaited hleft' (fun _ => Option.some_ne_none err) _

/-- A loop over such attempts keeps its promises exactly if it may try once. -/
theorem retry_obeys_iff {config : Option RetryConfig}
    (hconfig : (config.getD defaultRetryConfig).maxAttempts = maxAttempts)
    (hfn : ∀ attempt, Tries maxAttempts (fn attempt)) :
    (retry config fn).Obeys (Again maxAttempts) Honest [] ↔ 1 ≤ maxAttempts := by
  unfold retry
  rw [hconfig]
  constructor
  · intro h
    by_contra hnone
    rw [Int.toNat_of_nonpos (by omega)] at h
    exact absurd (h rfl) (not_mem_nil (a := none))
  · intro hsome
    have hpending : Pending [] := fun result hresult => absurd hresult not_mem_nil
    have hcount : ((results []).length : Int) + maxAttempts.toNat ≤ maxAttempts := by
      rw [results, filterMap_nil, length_nil]
      omega
    exact retryFrom_obeys hfn hpending hcount (fun hzero => absurd hzero (by omega)) 0

/-- Without an error some call of the function succeeded, it is not called again after a success or
a failure that will not pass, and not more often than allowed: so it is exactly if one attempt is
allowed at least. -/
theorem retries_honest_iff (config : Option RetryConfig) (policy : Policy) :
    ((retry config fun attempt => ask (.fn (some attempt))).Obeys
        (Again (config.getD defaultRetryConfig).maxAttempts) Honest [] ↔
      1 ≤ (config.getD defaultRetryConfig).maxAttempts) ∧
    (policy.execute.Obeys (Again policy.retryConfig.maxAttempts) Honest [] ↔
      1 ≤ policy.retryConfig.maxAttempts) := by
  refine ⟨retry_obeys_iff rfl fun _ => tries_fn _, ?_⟩
  unfold Policy.execute
  split
  · exact retry_obeys_iff rfl fun _ => tries_guarded _
  · exact retry_obeys_iff rfl fun _ => tries_fn _

/-- Without an attempt the function is not called, and there is no error. -/
theorem no_attempt_no_error :
    (newPolicy (some ⟨0⟩) none).execute = .done none ∧
      ¬ (newPolicy (some ⟨0⟩) none).execute.Obeys (Again 0) Honest [] :=
  ⟨rfl, fun h => absurd (h rfl) not_mem_nil⟩

end Virtrigaud.Resilience
