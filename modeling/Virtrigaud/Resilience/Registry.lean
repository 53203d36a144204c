import Mathlib.Logic.Function.Basic
import Virtrigaud.Api.Objects
import Virtrigaud.Go.Strings
import Virtrigaud.Resilience.CircuitBreaker

/-!
# One breaker per Provider

The resolver takes the breaker of a client from a registry that all clients share. Its key is
made of the type and the name of the Provider, without the namespace.
-/

namespace Virtrigaud.Resilience

open Effects CircuitBreaker List Option

/-- `string(provider.Spec.Type)`. -/
def typeText : ProviderType → String
  | .vsphere => "vsphere"
  | .libvirt => "libvirt"
  | .firecracker => "firecracker"
  | .qemu => "qemu"
  | .proxmox => "proxmox"

/-- The breakers of the process by their addresses, and the map of the registry. -/
structure Registry where
  config : Config
  heap : List CircuitBreaker := []
  breakers : String → Option Nat := fun _ => none

variable (r : Registry)

namespace Registry

def key (name providerType provider : String) : String :=
  providerType ++ ":" ++ provider ++ ":" ++ name

/-- The registry with a new breaker under the key. -/
def create (name providerType provider : String) : Registry :=
  { r with
    heap := r.heap ++ [newCircuitBreaker name providerType provider (some r.config)]
    breakers := Function.update r.breakers (key name providerType provider) (some r.heap.length) }

/-- `GetOrCreate`; the lookup is made again under the lock that the breaker is stored under. -/
def getOrCreate (name providerType provider : String) : Nat × Registry :=
  match r.breakers (key name providerType provider) with
  | some breaker => (breaker, r)
  | none => (r.heap.length, r.create name providerType provider)

def get (name providerType provider : String) : Option Nat :=
  r.breakers (key name providerType provider)

def remove (name providerType provider : String) : Registry :=
  { r with breakers := Function.update r.breakers (key name providerType provider) none }

end Registry

def circuitBreakerName : String := "rpc"

/-- The part of `getRemoteProvider` that takes the breaker for a new client. -/
def Registry.breakerOf (provider : Provider) : Nat × Registry :=
  r.getOrCreate circuitBreakerName (typeText provider.type) provider.objectMeta.name

/-- The breaker that the registry has for a Provider. -/
def Registry.found (provider : Provider) : Option Nat :=
  r.get circuitBreakerName (typeText provider.type) provider.objectMeta.name

/-- The part of `CleanupClient` that removes the breaker. -/
def Registry.cleanup (provider : Provider) : Registry :=
  r.remove circuitBreakerName (typeText provider.type) provider.objectMeta.name

/-- A client is made, a Provider is cleaned up, or an RPC goes through the breaker of a client. -/
inductive ClientAction
  | getRemoteProvider (provider : Provider)
  | cleanupClient (provider : Provider)
  | allowCall (provider : Provider) (breaker : Nat) (now : Time)
  | recordResult (provider : Provider) (breaker : Nat) (err : Option GoError) (now : Time)
  deriving DecidableEq

def ClientAction.provider : ClientAction → Provider
  | .getRemoteProvider provider => provider
  | .cleanupClient provider => provider
  | .allowCall provider _ _ => provider
  | .recordResult provider _ _ _ => provider

/-- The registry, the breaker of every client that was made, and the actions so far. -/
structure Clients where
  registry : Registry
  held : List (Provider × Nat) := []
  trace : List ClientAction := []

/-- Change the breaker at an address. -/
def Registry.alter (breaker : Nat) (f : CircuitBreaker → CircuitBreaker) : Registry :=
  { r with heap := r.heap.modify breaker f }

def Clients.step : Machine Clients ClientAction := fun s action =>
  match action with
  | .getRemoteProvider provider =>
    some {
      registry := (s.registry.breakerOf provider).2
      held := (provider, (s.registry.breakerOf provider).1) :: s.held
      trace := action :: s.trace }
  | .cleanupClient provider =>
    some { s with registry := s.registry.cleanup provider, trace := action :: s.trace }
  | .allowCall provider breaker now =>
    if s.held.contains (provider, breaker) then
      some { s with
        registry := s.registry.alter breaker fun cb => (cb.allowCall now).2
        trace := action :: s.trace }
    else none
  | .recordResult provider breaker err now =>
    if s.held.contains (provider, breaker) then
      some { s with
        registry := s.registry.alter breaker fun cb => cb.recordResult err now
        trace := action :: s.trace }
    else none

/-- The next call of a client is let in. -/
def Clients.admits (s : Clients) (breaker : Nat) (now : Time) : Bool :=
  s.registry.heap[breaker]?.any fun cb => (cb.allowCall now).1

theorem typeText_inj {t u : ProviderType} (h : typeText t = typeText u) : t = u := by
  cases t <;> cases u <;> first | rfl | exact absurd h (by decide)

theorem colon_not_mem_typeText (t : ProviderType) : ':' ∉ (typeText t).toList := by
  cases t <;> decide

/-- The key determines the type and the name. -/
theorem key_inj {name : String} {t u : ProviderType} {provider other : String}
    (h : Registry.key name (typeText t) provider = Registry.key name (typeText u) other) :
    t = u ∧ provider = other := by
  have hchars : (typeText t).toList ++ ':' :: (provider.toList ++ ':' :: name.toList) =
      (typeText u).toList ++ ':' :: (other.toList ++ ':' :: name.toList) := by
    simpa [Registry.key] using congrArg String.toList h
  obtain ⟨htype, hrest⟩ := Go.append_cons_inj (colon_not_mem_typeText t)
    (colon_not_mem_typeText u) hchars
  exact ⟨typeText_inj (String.toList_inj.mp htype),
    String.toList_inj.mp (append_cancel_right hrest)⟩

def labelsOf (provider : Provider) : String × String :=
  (typeText provider.type, provider.objectMeta.name)

/-- The breaker at the address was made for the type and the name of the Provider. -/
def Registry.Labelled (breaker : Nat) (provider : Provider) : Prop :=
  ∃ cb, r.heap[breaker]? = some cb ∧ cb.labels = labelsOf provider

/-- A failure of a Provider with these labels was recorded. -/
def FailedAs (trace : List ClientAction) (labels : String × String) : Prop :=
  ∃ provider breaker err now,
    .recordResult provider breaker (some err) now ∈ trace ∧ labelsOf provider = labels

/-- Breakers have the labels of the Providers that use them, and one that has seen no failure
is closed. -/
structure Owned (s : Clients) : Prop where
  registered : ∀ provider breaker, s.registry.found provider = some breaker →
    s.registry.Labelled breaker provider
  held : ∀ provider breaker, (provider, breaker) ∈ s.held → s.registry.Labelled breaker provider
  calm : ∀ (breaker : Nat) (cb : CircuitBreaker), s.registry.heap[breaker]? = some cb →
    cb.state = .stateClosed ∨ FailedAs s.trace cb.labels

variable {trace : List ClientAction}

section Steps

variable {s next : Clients} {provider : Provider} {breaker : Nat} {now : Time}
  {err : Option GoError}

theorem FailedAs.cons {labels : String × String} (h : FailedAs trace labels)
    (action : ClientAction) :
    FailedAs (action :: trace) labels := by
  obtain ⟨provider, breaker, err, now, hmem, hlabels⟩ := h
  exact ⟨provider, breaker, err, now, .tail _ hmem, hlabels⟩

/-- The registry with a new breaker for the Provider. -/
def Registry.created (provider : Provider) : Registry :=
  r.create circuitBreakerName (typeText provider.type) provider.objectMeta.name

theorem Registry.breakerOf_cases (r : Registry) (provider : Provider) :
    (∃ breaker, r.found provider = some breaker ∧ r.breakerOf provider = (breaker, r)) ∨
      r.breakerOf provider = (r.heap.length, r.created provider) := by
  unfold Registry.breakerOf Registry.getOrCreate
  split
  · rename_i breaker hfound
    exact .inl ⟨breaker, hfound, rfl⟩
  · exact .inr rfl

theorem Registry.labelled_created (r : Registry) (provider : Provider) :
    (r.created provider).Labelled r.heap.length provider :=
  ⟨_, getElem?_concat_length, rfl⟩

variable {r : Registry}

/-- A new breaker leaves the others at their addresses. -/
theorem Registry.Labelled.created (h : r.Labelled breaker provider) (other : Provider) :
    (r.created other).Labelled breaker provider := by
  obtain ⟨found, hfound, hlabels⟩ := h
  have hlt : breaker < r.heap.length := (List.getElem?_eq_some_iff.mp hfound).1
  exact ⟨found, (List.getElem?_append_left hlt).trans hfound, hlabels⟩

/-- What the registry finds after an update is the new value for the same labels, and otherwise
what it found before. -/
theorem Registry.found_update {other : Provider} {value : Option Nat} {heap : List CircuitBreaker}
    (h : Registry.found { r with
      heap := heap
      breakers := Function.update r.breakers (Registry.key circuitBreakerName (typeText other.type)
        other.objectMeta.name) value } provider = some breaker) :
    (labelsOf provider = labelsOf other ∧ value = some breaker) ∨
      r.found provider = some breaker := by
  by_cases hkey :
    Registry.key circuitBreakerName (typeText provider.type) provider.objectMeta.name =
      Registry.key circuitBreakerName (typeText other.type) other.objectMeta.name
  · obtain ⟨htype, hname⟩ := key_inj hkey
    refine .inl ⟨by rw [labelsOf, labelsOf, htype, hname], ?_⟩
    unfold Registry.found Registry.get at h
    dsimp only at h
    rw [hkey, Function.update_self] at h
    exact h
  · exact .inr ((Function.update_of_ne hkey _ _).symm.trans h)

theorem Registry.heap_alter (r : Registry) (other : Nat) (f : CircuitBreaker → CircuitBreaker)
    (breaker : Nat) : (r.alter other f).heap[breaker]? =
      r.heap[breaker]?.map fun cb => if other = breaker then f cb else cb :=
  getElem?_modify f other r.heap breaker

variable {f : CircuitBreaker → CircuitBreaker}

/-- A change that keeps the labels of every breaker. -/
theorem Registry.Labelled.alter (hf : ∀ cb, (f cb).labels = cb.labels)
    (h : r.Labelled breaker provider) (other : Nat) :
    (r.alter other f).Labelled breaker provider := by
  obtain ⟨found, hfound, hlabels⟩ := h
  refine ⟨_, by rw [Registry.heap_alter, hfound]; rfl, ?_⟩
  split
  · exact (hf found).trans hlabels
  · exact hlabels

section

variable (h : Owned s)
include h

theorem Owned.getRemoteProvider (hstep : Clients.step s (.getRemoteProvider provider) = some next) :
    Owned next := by
  obtain rfl := some.inj hstep
  rcases s.registry.breakerOf_cases provider with ⟨breaker, hfound, heq⟩ | heq
  · rw [heq]
    refine ⟨h.registered, fun p b hmem => ?_,
      fun b cb hcb => (h.calm b cb hcb).imp_right (·.cons _)⟩
    rcases mem_cons.mp hmem with heq | hmem
    · cases heq
      exact h.registered _ _ hfound
    · exact h.held p b hmem
  · rw [heq]
    have hnew := s.registry.labelled_created provider
    refine ⟨fun p b hfound => ?_, fun p b hmem => ?_, fun b cb hcb => ?_⟩
    · rcases Registry.found_update hfound with ⟨hlabels, hvalue⟩ | hfound
      · obtain ⟨cb, hcb, hcbl⟩ := hnew
        exact ⟨cb, some.inj hvalue ▸ hcb, hcbl.trans hlabels.symm⟩
      · exact (h.registered p b hfound).created _
    · rcases mem_cons.mp hmem with heq | hmem
      · cases heq
        exact hnew
      · exact (h.held p b hmem).created _
    · rcases mem_append.mp (mem_of_getElem? hcb) with hold | hlast
      · obtain ⟨i, hi⟩ := mem_iff_getElem?.mp hold
        exact (h.calm i cb hi).imp_right (·.cons _)
      · obtain rfl := mem_singleton.mp hlast
        exact .inl rfl

theorem Owned.cleanupClient (hstep : Clients.step s (.cleanupClient provider) = some next) :
    Owned next := by
  obtain rfl := some.inj hstep
  refine ⟨fun p b hfound => ?_, h.held, fun b cb hcb => (h.calm b cb hcb).imp_right (·.cons _)⟩
  rcases Registry.found_update hfound with ⟨-, hvalue⟩ | hfound
  · cases hvalue
  · exact h.registered p b hfound

/-- A change of one breaker that keeps the labels, and after which it is closed or has failed. -/
theorem Owned.alter {action : ClientAction} (hlabels : ∀ cb, (f cb).labels = cb.labels)
    (hcalm : ∀ cb, s.registry.heap[breaker]? = some cb →
      cb.state = .stateClosed ∨ FailedAs s.trace cb.labels →
        (f cb).state = .stateClosed ∨ FailedAs (action :: s.trace) cb.labels) :
    Owned { s with registry := s.registry.alter breaker f, trace := action :: s.trace } := by
  refine ⟨fun p b hfound => (h.registered p b hfound).alter hlabels _,
    fun p b hmem => (h.held p b hmem).alter hlabels _, fun b cb hcb => ?_⟩
  rw [Registry.heap_alter] at hcb
  obtain ⟨old, hold, rfl⟩ := map_eq_some_iff.mp hcb
  split
  · rename_i heq
    rw [hlabels]
    exact hcalm old (heq ▸ hold) (h.calm b old hold)
  · exact (h.calm b old hold).imp_right (·.cons _)

theorem Owned.allowCall (hstep : Clients.step s (.allowCall provider breaker now) = some next) :
    Owned next := by
  rw [Clients.step] at hstep
  split at hstep
  swap
  · cases hstep
  obtain rfl := some.inj hstep
  refine h.alter (fun cb => (cb.allowCall_asks now).labels) fun cb _ hcb => ?_
  rcases hcb with hclosed | hfailed
  · exact .inl (by rw [CircuitBreaker.allowCall, hclosed]; exact hclosed)
  · exact .inr (hfailed.cons _)

theorem Owned.recordResult
    (hstep : Clients.step s (.recordResult provider breaker err now) = some next) : Owned next := by
  rw [Clients.step] at hstep
  split at hstep
  swap
  · cases hstep
  rename_i hheld
  obtain rfl := some.inj hstep
  refine h.alter (fun cb => (cb.recordResult_records err now).labels) fun cb hcb hbefore => ?_
  cases err with
  | some err =>
    obtain ⟨found, hfound, hlabels⟩ := h.held provider breaker (contains_iff_mem.mp hheld)
    obtain rfl := some.inj (hfound.symm.trans hcb)
    exact .inr ⟨provider, breaker, err, now, .head _, hlabels.symm⟩
  | none =>
    rcases hbefore with hclosed | hfailed
    · refine .inl ?_
      change cb.recordSuccess.state = _
      rw [CircuitBreaker.recordSuccess, hclosed]
    · exact .inr (hfailed.cons _)

theorem Owned.step {a : ClientAction} (hstep : Clients.step s a = some next) : Owned next := by
  cases a with
  | getRemoteProvider => exact h.getRemoteProvider hstep
  | cleanupClient => exact h.cleanupClient hstep
  | allowCall => exact h.allowCall hstep
  | recordResult => exact h.recordResult hstep

end

/-- Only the action's Provider gets a breaker, and the action is added to the trace. -/
theorem trace_step {a : ClientAction} (hstep : Clients.step s a = some next) :
    next.trace = a :: s.trace ∧ ∀ entry ∈ next.held, entry ∈ s.held ∨ entry.1 = a.provider := by
  cases a with
  | getRemoteProvider provider =>
    obtain rfl := some.inj hstep
    refine ⟨rfl, fun entry hentry => ?_⟩
    rcases mem_cons.mp hentry with rfl | hentry
    · exact .inr rfl
    · exact .inl hentry
  | cleanupClient =>
    obtain rfl := some.inj hstep
    exact ⟨rfl, fun entry hentry => .inl hentry⟩
  | allowCall | recordResult =>
    rw [Clients.step] at hstep
    split at hstep
    · obtain rfl := some.inj hstep
      exact ⟨rfl, fun entry hentry => .inl hentry⟩
    · cases hstep

end Steps

theorem owned_start (config : Config) : Owned { registry := { config } } :=
  ⟨fun _ _ h => (nomatch h), fun _ _ h => (nomatch h), fun _ _ h => (nomatch h)⟩

/-- The actions of Providers of the cluster. -/
def Among (cluster : Provider → Prop) (_ : Clients) (a : ClientAction) : Prop := cluster a.provider

/-- If no two Providers of the cluster have the same type and name, then the breakers of
different ones are different, a Provider without failures is never rejected, and cleaning up
another one leaves its breaker in the registry. -/
theorem breakers_isolated {cluster : Provider → Prop}
    (hdistinct : ∀ p q, cluster p → cluster q → p.type = q.type →
      p.objectMeta.name = q.objectMeta.name → p.objectMeta.key = q.objectMeta.key)
    {config : Config} {s : Clients}
    (h : Clients.step.Reach (Among cluster) { registry := { config } } s) :
    (∀ p i q j, (p, i) ∈ s.held → (q, j) ∈ s.held → p.objectMeta.key ≠ q.objectMeta.key → i ≠ j) ∧
    (∀ q j, (q, j) ∈ s.held →
      (∀ p i err now, .recordResult p i (some err) now ∈ s.trace →
        p.objectMeta.key ≠ q.objectMeta.key) →
      ∀ now, s.admits j now = true) ∧
    ∀ p q, cluster p → cluster q → p.objectMeta.key ≠ q.objectMeta.key →
      (s.registry.cleanup p).found q = s.registry.found q := by
  have howned : Owned s := h.invariant (owned_start config)
    fun _ _ _ hbefore _ hstep => hbefore.step hstep
  have hcluster : (∀ a ∈ s.trace, cluster a.provider) ∧ ∀ entry ∈ s.held, cluster entry.1 := by
    refine h.invariant (I := fun s : Clients => (∀ a ∈ s.trace, cluster a.provider) ∧
      ∀ entry ∈ s.held, cluster entry.1) ⟨by simp, by simp⟩
      fun before a after hbefore ha hstep => ?_
    obtain ⟨htrace, hheld⟩ := trace_step hstep
    refine ⟨htrace ▸ forall_mem_cons.mpr ⟨ha, hbefore.1⟩, fun entry hentry => ?_⟩
    rcases hheld entry hentry with hentry | heq
    · exact hbefore.2 entry hentry
    · exact heq ▸ ha
  have hlabels : ∀ p q, cluster p → cluster q → labelsOf p = labelsOf q →
      p.objectMeta.key = q.objectMeta.key := fun p q hp hq heq =>
    hdistinct p q hp hq (typeText_inj (congrArg Prod.fst heq)) (congrArg Prod.snd heq)
  refine ⟨fun p i q j hp hq hkey heq => ?_, fun q j hq hcalm now => ?_, fun p q hp hq hkey => ?_⟩
  · obtain ⟨cb, hcb, hcbp⟩ := howned.held p i hp
    obtain ⟨cb', hcb', hcbq⟩ := howned.held q j hq
    subst heq
    obtain rfl := some.inj (hcb.symm.trans hcb')
    exact hkey (hlabels p q (hcluster.2 _ hp) (hcluster.2 _ hq) (hcbp.symm.trans hcbq))
  · obtain ⟨cb, hcb, hcbq⟩ := howned.held q j hq
    have hclosed : cb.state = .stateClosed := by
      rcases howned.calm j cb hcb with hclosed | ⟨p, i, err, now, hmem, hp⟩
      · exact hclosed
      · exact absurd (hlabels p q (hcluster.1 _ hmem) (hcluster.2 _ hq) (hp.trans hcbq))
          (hcalm p i err now hmem)
    rw [Clients.admits, hcb, any_some, CircuitBreaker.allowCall, hclosed]
  · have hne : Registry.key circuitBreakerName (typeText q.type) q.objectMeta.name ≠
        Registry.key circuitBreakerName (typeText p.type) p.objectMeta.name := by
      intro heq
      obtain ⟨htype, hname⟩ := key_inj heq
      exact hkey (hdistinct p q hp hq htype.symm hname.symm)
    exact Function.update_of_ne hne _ _

namespace Sample

def provider (ns name : String) : Provider := { objectMeta := { ns, name } }

def empty : Clients := { registry := { config := defaultConfig } }

def refused : Option GoError := some (errorf "connection refused")

/-- Clients for two Providers; ten calls of the first one fail. -/
def outage (p q : Provider) : List ClientAction :=
  [.getRemoteProvider p, .getRemoteProvider q] ++
    replicate 10 (.recordResult p 0 refused 0)

/-- The failures are all those of one Provider. -/
def failuresOf (p : Provider) : ClientAction → Bool
  | .recordResult provider _ err _ => decide (provider = p) || err.isNone
  | _ => true

theorem provider_of_failuresOf {p : Provider} (h : ∀ a ∈ trace, failuresOf p a = true) :
    ∀ provider breaker err now, .recordResult provider breaker (some err) now ∈ trace →
      provider = p := by
  intro provider breaker err now hmem
  simpa [failuresOf] using h _ hmem

end Sample

open Sample

/-- Two Providers of one name and type share a breaker: the failures of one reject the calls of
the other, and its clean-up removes the breaker of the other. -/
theorem breaker_shared : ∃ s, Clients.step.Reach Machine.free empty s ∧
    (Sample.provider "prod" "kvm", 0) ∈ s.held ∧ (Sample.provider "dr" "kvm", 0) ∈ s.held ∧
    (∀ provider breaker err now, .recordResult provider breaker (some err) now ∈ s.trace →
      provider = Sample.provider "prod" "kvm") ∧
    s.admits 0 1 = false ∧
    s.registry.found (Sample.provider "prod" "kvm") = some 0 ∧
    (s.registry.cleanup (Sample.provider "dr" "kvm")).found (Sample.provider "prod" "kvm") =
      none := by
  let p := Sample.provider "prod" "kvm"
  let q := Sample.provider "dr" "kvm"
  refine Machine.exists_reach (P := fun s => (p, 0) ∈ s.held ∧ (q, 0) ∈ s.held ∧
      (∀ a ∈ s.trace, failuresOf p a = true) ∧ s.admits 0 1 = false ∧
      s.registry.found p = some 0 ∧ (s.registry.cleanup q).found p = none)
    (outage p q) (fun s _ hsee => ?_) (by decide +kernel)
  obtain ⟨hp, hq, hfailures, hrest⟩ := hsee
  exact ⟨hp, hq, provider_of_failuresOf hfailures, hrest⟩

namespace Sample

def pair (p q : Provider) (provider : Provider) : Prop := provider = p ∨ provider = q

def checkPair (p q : Provider) (_ : Clients) (a : ClientAction) : Bool :=
  decide (a.provider = p) || decide (a.provider = q)

theorem among_of_check (p q : Provider) (s : Clients) (a : ClientAction)
    (h : checkPair p q s a = true) : Among (pair p q) s a := by
  simpa [checkPair, Among, pair] using h

end Sample

theorem breakers_isolated_sample : ∃ s, Clients.step.Reach
      (Among (pair (provider "prod" "kvm") (provider "prod" "lab")))
      empty s ∧ (provider "prod" "lab", 1) ∈ s.held ∧ s.admits 1 1 = true := by
  obtain ⟨s, hreach, hheld, hfailures⟩ := Machine.exists_reach_of_run (m := Clients.step)
    (P := fun s => (provider "prod" "lab", 1) ∈ s.held ∧
      ∀ a ∈ s.trace, failuresOf (provider "prod" "kvm") a = true) empty
    (outage (provider "prod" "kvm") (provider "prod" "lab"))
    (among_of_check (provider "prod" "kvm") (provider "prod" "lab"))
    (by decide +kernel)
  have hdistinct : ∀ p q,
      pair (provider "prod" "kvm") (provider "prod" "lab") p →
      pair (provider "prod" "kvm") (provider "prod" "lab") q →
      p.type = q.type → p.objectMeta.name = q.objectMeta.name →
      p.objectMeta.key = q.objectMeta.key := by
    rintro p q (rfl | rfl) (rfl | rfl) - hname <;> first | rfl | exact absurd hname (by decide)
  refine ⟨s, hreach, hheld, (breakers_isolated hdistinct hreach).2.1 _ _ hheld ?_ 1⟩
  intro p i err now hmem
  rw [provider_of_failuresOf hfailures p i err now hmem]
  decide

end Virtrigaud.Resilience
