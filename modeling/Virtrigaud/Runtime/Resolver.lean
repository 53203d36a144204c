import Virtrigaud.Api.Objects
import Virtrigaud.Effects.Machine

/-!
# The client cache of the resolver

`getRemoteProvider` looks a client up, validates it, and dials and stores a new one, each under
its own lock or none. `Resolver` is the cache entry of one Provider with any number of calls of
`getRemoteProvider` at their program points; `CleanupClient` is one critical section.
-/

namespace Virtrigaud.Runtime

open Effects Option List

/-- `provider.status.runtime`. -/
structure RuntimeStatus where
  (endpoint phase : String := "")
  deriving DecidableEq, Repr

/-- Why the runtime of the Provider cannot be used yet. -/
def notReady : Option RuntimeStatus → Option GoError
  | none => some (errorf "remote provider runtime is not ready: no endpoint available")
  | some runtime =>
    if runtime.endpoint = "" then
      some (errorf "remote provider runtime is not ready: no endpoint available")
    else if runtime.phase ≠ "Running" then
      some (errorf ("remote provider runtime is not ready: phase=" ++ runtime.phase))
    else none

/-- Where a call of `getRemoteProvider` is. A client is named by its number, in the order they
were dialled. -/
inductive Point
  | lookup
  | validate (client : Nat)
  | evict (client : Nat)
  | buildTLSConfig
  | newClient
  | validateNew (client : Nat)
  | discard (client : Nat) (err : GoError)
  | store (client : Nat)
  | returned (result : Except GoError Nat)

/-- The cache entry of the Provider, and the clients that were dialled and closed. -/
structure Cache where
  client : Option Nat := none
  dialled : Nat := 0
  closed : List Nat := []
  deriving DecidableEq

/-- One step of `getRemoteProvider`. `err` is the error of the RPC or of the step, if it has
one. -/
def Point.next (err : Option GoError) (cache : Cache) : Point → Option (Point × Cache)
  | .lookup =>
    match cache.client with
    | some client => some (.validate client, cache)
    | none => some (.buildTLSConfig, cache)
  | .validate client =>
    match err with
    | some _ => some (.evict client, cache)
    | none => some (.returned (.ok client), cache)
  | .evict client =>
    -- The entry is deleted whatever it holds by now.
    some (.buildTLSConfig, { cache with client := none, closed := client :: cache.closed })
  | .buildTLSConfig =>
    match err with
    | some err => some (.returned (.error (err.wrap "failed to build TLS config")), cache)
    | none => some (.newClient, cache)
  | .newClient =>
    match err with
    | some err => some (.returned (.error (err.wrap "failed to create gRPC client")), cache)
    | none => some (.validateNew cache.dialled, { cache with dialled := cache.dialled + 1 })
  | .validateNew client =>
    match err with
    | some err => some (.discard client err, cache)
    | none => some (.store client, cache)
  | .discard client err =>
    some (.returned (.error (err.wrap "remote provider validation failed")),
      { cache with closed := client :: cache.closed })
  | .store client =>
    some (.returned (.ok client), { cache with client := some client })
  | .returned _ => none

/-- `CleanupClient`. -/
def Cache.cleanupClient (cache : Cache) : Cache :=
  match cache.client with
  | some client => { cache with client := none, closed := client :: cache.closed }
  | none => cache

structure Resolver where
  cache : Cache := {}
  calls : List Point := []

/-- A call begins with a look at the status of the Provider; a call that began makes a step. -/
inductive Action
  | getRemoteProvider (runtime : Option RuntimeStatus)
  | step (call : Nat) (err : Option GoError)
  | cleanupClient

def Resolver.step : Machine Resolver Action := fun s action =>
  match action with
  | .getRemoteProvider runtime =>
    let point := match notReady runtime with
      | some err => .returned (.error err)
      | none => .lookup
    some { s with calls := s.calls ++ [point] }
  | .step call err => do
    let point ← s.calls[call]?
    let (point, cache) ← point.next err s.cache
    some { cache, calls := s.calls.set call point }
  | .cleanupClient => some { s with cache := s.cache.cleanupClient }

def Point.isReturned : Point → Bool
  | .returned _ => true
  | _ => false

/-- No call is under way. -/
def Resolver.quiescent (s : Resolver) : Bool := s.calls.all Point.isReturned

/-- Every client that was dialled is in the cache or closed. -/
def Cache.Settled (cache : Cache) : Prop :=
  ∀ client < cache.dialled, cache.client = some client ∨ client ∈ cache.closed

/-- A call that is about to evict finds its own client or nothing. -/
def Resolver.EvictsOwn (s : Resolver) : Prop :=
  ∀ client, .evict client ∈ s.calls → s.cache.client = none ∨ s.cache.client = some client

/-- A call of `getRemoteProvider` begins only when no other one is under way. -/
def Serial (s : Resolver) : Action → Prop
  | .getRemoteProvider _ => s.quiescent = true
  | _ => True

/-- The client that only the call knows. -/
def Point.own : Point → Option Nat
  | .validateNew client => some client
  | .discard client _ => some client
  | .store client => some client
  | _ => none

/-- What a call may rely on when no other one stores a client. -/
def Point.Fits (cache : Cache) : Point → Prop
  | .lookup => True
  | .validate client => cache.client = none ∨ cache.client = some client
  | .evict client => cache.client = none ∨ cache.client = some client
  | .returned _ => True
  | _ => cache.client = none

/-- Every client is in the cache, closed, or the given one. -/
def Cache.Accounts (cache : Cache) (own : Option Nat) : Prop :=
  ∀ client < cache.dialled,
    cache.client = some client ∨ client ∈ cache.closed ∨ own = some client

variable {s next : Resolver} {cache after : Cache} {point point' : Point} {err : Option GoError}

/-- One step of a call keeps what it relies on, and loses no client. -/
theorem Point.next_fits (hfits : point.Fits cache) (haccounts : cache.Accounts point.own)
    (hnext : point.next err cache = some (point', after)) :
    point'.Fits after ∧ after.Accounts point'.own := by
  cases point with
  | lookup =>
    rw [Point.next] at hnext
    split at hnext
    · rename_i client hclient
      cases hnext
      exact ⟨.inr hclient, haccounts⟩
    · rename_i hclient
      cases hnext
      exact ⟨hclient, haccounts⟩
  | validate client =>
    cases err with
    | none =>
      cases hnext
      exact ⟨trivial, haccounts⟩
    | some err =>
      cases hnext
      exact ⟨hfits, haccounts⟩
  | evict client =>
    cases hnext
    refine ⟨rfl, fun other hother => .inr (.inl ?_)⟩
    rcases haccounts other hother with hcached | hclosed | hown
    · rcases hfits with hnone | hsome
      · rw [hnone] at hcached
        cases hcached
      · rw [hsome] at hcached
        exact some.inj hcached ▸ (.head _)
    · exact .tail _ hclosed
    · cases hown
  | buildTLSConfig =>
    cases err with
    | none =>
      cases hnext
      exact ⟨hfits, haccounts⟩
    | some err =>
      cases hnext
      exact ⟨trivial, haccounts⟩
  | newClient =>
    cases err with
    | none =>
      cases hnext
      refine ⟨hfits, fun other hother => ?_⟩
      rcases Nat.lt_succ_iff_lt_or_eq.mp hother with hold | rfl
      · rcases haccounts other hold with hcached | hclosed | hown
        · exact .inl hcached
        · exact .inr (.inl hclosed)
        · cases hown
      · exact .inr (.inr rfl)
    | some err =>
      cases hnext
      exact ⟨trivial, haccounts⟩
  | validateNew client =>
    cases err with
    | none | some err =>
      cases hnext
      exact ⟨hfits, haccounts⟩
  | discard client err =>
    cases hnext
    refine ⟨trivial, fun other hother => ?_⟩
    rcases haccounts other hother with hcached | hclosed | hown
    · exact .inl hcached
    · exact .inr (.inl (.tail _ hclosed))
    · exact .inr (.inl (some.inj hown ▸ (.head _)))
  | store client =>
    cases hnext
    refine ⟨trivial, fun other hother => ?_⟩
    have hnone : cache.client = none := hfits
    rcases haccounts other hother with hcached | hclosed | hown
    · rw [hnone] at hcached
      cases hcached
    · exact .inr (.inl hclosed)
    · exact .inl hown
  | returned => cases hnext

theorem Point.fits_of_none (h : cache.client = none) (point : Point) : point.Fits cache := by
  cases point <;> first | trivial | exact h | exact .inl h

theorem Point.fits_of_isReturned (h : point.isReturned = true) (cache : Cache) :
    point.Fits cache := by
  cases point <;> trivial

theorem Point.own_of_isReturned (h : point.isReturned = true) : point.own = none := by
  cases point <;> first | rfl | cases h

/-- At most one call is under way; it relies on what is there, and the clients that it does not
know alone are in the cache or closed. -/
structure Orderly (s : Resolver) : Prop where
  single : ∀ (i j : Nat) (p q : Point), s.calls[i]? = some p → s.calls[j]? = some q →
    p.isReturned = false → q.isReturned = false → i = j
  fits : ∀ (i : Nat) (p : Point), s.calls[i]? = some p → p.Fits s.cache
  accounts : ∀ client < s.cache.dialled, s.cache.client = some client ∨ client ∈ s.cache.closed ∨
    ∃ (i : Nat) (p : Point), s.calls[i]? = some p ∧ p.own = some client

theorem Resolver.isReturned_of_quiescent (h : s.quiescent = true) {i : Nat} {p : Point}
    (hp : s.calls[i]? = some p) : p.isReturned = true :=
  all_eq_true.mp h p (mem_of_getElem? hp)

/-- A call that begins while no other one is under way. -/
theorem Orderly.begin (h : Orderly s) (hquiescent : s.quiescent = true)
    (hfits : ∀ cache, point.Fits cache)
    (hown : point.own = none) : Orderly { s with calls := s.calls ++ [point] } := by
  have hcalls : ∀ (i : Nat) (p : Point), (s.calls ++ [point])[i]? = some p →
      s.calls[i]? = some p ∨ i = s.calls.length ∧ p = point := by
    intro i p hp
    rw [List.getElem?_append] at hp
    split at hp
    · exact .inl hp
    · rename_i hlt
      obtain ⟨hi, rfl⟩ := List.getElem?_eq_some_iff.mp hp
      simp only [List.length_singleton] at hi
      exact .inr ⟨by omega, by simp⟩
  refine ⟨fun i j p q hp hq hpr hqr => ?_, fun i p hp => ?_, fun client hclient => ?_⟩
  · rcases hcalls i p hp with hp | ⟨rfl, -⟩
    · rw [Resolver.isReturned_of_quiescent hquiescent hp] at hpr
      cases hpr
    rcases hcalls j q hq with hq | ⟨rfl, -⟩
    · rw [Resolver.isReturned_of_quiescent hquiescent hq] at hqr
      cases hqr
    · rfl
  · rcases hcalls i p hp with hp | ⟨-, rfl⟩
    · exact h.fits i p hp
    · exact hfits _
  · rcases h.accounts client hclient with hcached | hclosed | ⟨i, p, hp, howns⟩
    · exact .inl hcached
    · exact .inr (.inl hclosed)
    · rw [Point.own_of_isReturned (Resolver.isReturned_of_quiescent hquiescent hp)] at howns
      cases howns

theorem Orderly.cleanupClient (h : Orderly s) :
    Orderly { s with cache := s.cache.cleanupClient } := by
  unfold Cache.cleanupClient
  split
  · rename_i client hclient
    refine ⟨h.single, fun i p _ => p.fits_of_none rfl, fun other hother => ?_⟩
    rcases h.accounts other hother with hcached | hclosed | howner
    · rw [hclient] at hcached
      exact .inr (.inl (some.inj hcached ▸ (.head _)))
    · exact .inr (.inl (.tail _ hclosed))
    · exact .inr (.inr howner)
  · exact h

/-- A step of the call that is under way. -/
theorem Orderly.advance (h : Orderly s) {call : Nat} (hpoint : s.calls[call]? = some point)
    (hnext : point.next err s.cache = some (point', after)) :
    Orderly ⟨after, s.calls.set call point'⟩ := by
  have hrunning : point.isReturned = false := by
    cases point <;> first | rfl | cases hnext
  -- Every other call has returned.
  have hothers : ∀ (i : Nat) (p : Point), i ≠ call → s.calls[i]? = some p →
      p.isReturned = true := by
    intro i p hne hp
    cases hreturned : p.isReturned with
    | true => rfl
    | false => exact absurd (h.single i call p point hp hpoint hreturned hrunning) hne
  have hcalls : ∀ (i : Nat) (p : Point), (s.calls.set call point')[i]? = some p →
      i = call ∧ p = point' ∨ p.isReturned = true := by
    intro i p hp
    by_cases hi : i = call
    · subst hi
      have hlt : i < s.calls.length := (List.getElem?_eq_some_iff.mp hpoint).1
      rw [List.getElem?_set_self hlt] at hp
      exact .inl ⟨rfl, (some.inj hp).symm⟩
    · rw [List.getElem?_set_ne (Ne.symm hi)] at hp
      exact .inr (hothers i p hi hp)
  have haccounts : s.cache.Accounts point.own := by
    intro client hclient
    rcases h.accounts client hclient with hcached | hclosed | ⟨i, p, hp, howns⟩
    · exact .inl hcached
    · exact .inr (.inl hclosed)
    · by_cases hi : i = call
      · subst hi
        exact .inr (.inr (some.inj (hpoint.symm.trans hp) ▸ howns))
      · rw [Point.own_of_isReturned (hothers i p hi hp)] at howns
        cases howns
  obtain ⟨hfits, haccounts⟩ := Point.next_fits (h.fits call point hpoint) haccounts hnext
  refine ⟨fun i j p q hp hq hpr hqr => ?_, fun i p hp => ?_, fun client hclient => ?_⟩
  · rcases hcalls i p hp with ⟨rfl, -⟩ | hreturned
    · rcases hcalls j q hq with ⟨rfl, -⟩ | hreturned
      · rfl
      · rw [hreturned] at hqr
        cases hqr
    · rw [hreturned] at hpr
      cases hpr
  · rcases hcalls i p hp with ⟨-, rfl⟩ | hreturned
    · exact hfits
    · exact Point.fits_of_isReturned hreturned _
  · rcases haccounts client hclient with hcached | hclosed | howns
    · exact .inl hcached
    · exact .inr (.inl hclosed)
    · have hlt : call < s.calls.length := (List.getElem?_eq_some_iff.mp hpoint).1
      exact .inr (.inr ⟨call, point', List.getElem?_set_self hlt, howns⟩)

theorem Orderly.step {a : Action} (h : Orderly s) (hserial : Serial s a)
    (hstep : Resolver.step s a = some next) : Orderly next := by
  cases a with
  | getRemoteProvider runtime =>
    obtain rfl := some.inj hstep
    cases hready : notReady runtime with
    | some err | none => exact h.begin hserial (fun _ => trivial) rfl
  | step call err =>
    obtain ⟨point, hpoint, hstep⟩ := bind_eq_some_iff.mp hstep
    obtain ⟨⟨point', after⟩, hnext, hstep⟩ := bind_eq_some_iff.mp hstep
    obtain rfl := some.inj hstep
    exact h.advance hpoint hnext
  | cleanupClient =>
    obtain rfl := some.inj hstep
    exact h.cleanupClient

theorem orderly_start : Orderly {} :=
  ⟨fun _ _ _ _ h => (nomatch h), fun _ _ h => (nomatch h), fun client h =>
    absurd h (Nat.not_lt_zero client)⟩

/-- If calls of `getRemoteProvider` for the Provider do not overlap, no client is lost, and a
call evicts no client but its own. -/
theorem clients_cached_or_closed (h : Resolver.step.Reach Serial {} s) :
    (s.quiescent = true → s.cache.Settled) ∧ s.EvictsOwn := by
  have horderly : Orderly s := h.invariant orderly_start
    fun _ _ _ hbefore hserial hstep => hbefore.step hserial hstep
  refine ⟨fun hquiescent client hclient => ?_, fun client hevict => ?_⟩
  · rcases horderly.accounts client hclient with hcached | hclosed | ⟨i, p, hp, howns⟩
    · exact .inl hcached
    · exact .inr hclosed
    · rw [Point.own_of_isReturned (Resolver.isReturned_of_quiescent hquiescent hp)] at howns
      cases howns
  · obtain ⟨i, hi⟩ := mem_iff_getElem?.mp hevict
    exact horderly.fits i _ hi

namespace Sample

def ready : Action := .getRemoteProvider (some { endpoint := "kvm:9443", phase := "Running" })

/-- So many steps of a call without an error. -/
def steps (call n : Nat) : List Action := replicate n (.step call none)

/-- Two calls find no client, and both dial and store one. -/
def racing : List Action := [ready, ready, .step 0 none, .step 1 none] ++ steps 0 4 ++ steps 1 4

/-- Two calls find the client of the first one broken; the second replaces it. -/
def replacing : List Action :=
  [ready] ++ steps 0 5 ++ [ready, ready, .step 1 none, .step 2 none,
    .step 1 (some (errorf "connection refused")), .step 2 (some (errorf "connection refused"))] ++
    steps 2 5

def evicting (client : Nat) : Point → Bool
  | .evict found => found = client
  | _ => false

end Sample

open Sample

/-- A client that was overwritten in the cache is never closed, and a call whose client failed
its validation evicts the one that another call has stored. -/
theorem client_lost_or_evicted :
    (∃ s, Resolver.step.Reach Machine.free {} s ∧ s.quiescent = true ∧ ¬ s.cache.Settled) ∧
    ∃ s, Resolver.step.Reach Machine.free {} s ∧ ¬ s.EvictsOwn := by
  constructor
  · refine Machine.exists_reach (P := fun s => s.quiescent = true ∧
      s.cache = { client := some 1, dialled := 2, closed := [] }) racing
      (fun s _ hsee => ⟨hsee.1, fun hsettled => ?_⟩) (by decide +kernel)
    rw [hsee.2] at hsettled
    exact absurd (hsettled 0 (by decide)) (by decide)
  · refine Machine.exists_reach (P := fun s => s.cache.client = some 1 ∧
      ∃ point ∈ s.calls, evicting 0 point = true)
      replacing (fun s _ hsee => ?_) (by decide +kernel)
    obtain ⟨hcache, point, hmem, hpoint⟩ := hsee
    intro hown
    have heq : point = .evict 0 := by
      unfold evicting at hpoint
      split at hpoint
      · rw [of_decide_eq_true hpoint]
      · cases hpoint
    have hclient := hown 0 (heq ▸ hmem)
    rw [hcache] at hclient
    exact absurd hclient (by decide)

namespace Sample

def serial (s : Resolver) : Action → Bool
  | .getRemoteProvider _ => s.quiescent
  | _ => true

theorem serial_of_check (s : Resolver) (a : Action) (h : serial s a = true) : Serial s a := by
  cases a with
  | getRemoteProvider => exact h
  | step | cleanupClient => trivial

/-- The second call finds the client broken, which a clean-up closes before it is evicted. -/
def replaced : List Action :=
  [ready] ++ steps 0 5 ++ [ready, .step 1 none, .step 1 (some (errorf "connection refused")),
    .cleanupClient] ++ steps 1 5

end Sample

theorem clients_cached_or_closed_sample : ∃ s, Resolver.step.Reach Serial {} s ∧
    s.cache.dialled = 2 ∧ s.cache.Settled := by
  obtain ⟨s, hreach, hquiescent, hdialled⟩ := Machine.exists_reach_of_run (m := Resolver.step)
    (P := fun s => s.quiescent = true ∧ s.cache.dialled = 2) {} replaced
    serial_of_check (by decide +kernel)
  exact ⟨s, hreach, hdialled, (clients_cached_or_closed hreach).1 hquiescent⟩

end Virtrigaud.Runtime
