import Virtrigaud.Runtime.Health

/-!
# Two controllers and one status

The Provider controller and the adoption controller write the status of the same object. The
adoption controller updates the version it has read, and is refused when there is a newer one. The
Provider controller copies the status it has read onto the newest version, with an adoption that
may be out of date. The VirtualMachine controller reads any version, also one from before the first
status of the Provider controller.
-/

namespace Virtrigaud.Runtime.Ownership

open Health Option Health.Sample

structure AdoptionStatus where
  lastDiscoveryTime : Option Time := none
  (discoveredVMs adoptedVMs failedAdoptions : Nat := 0)
  message : String := ""
  deriving DecidableEq, Repr

/-- The status of a Provider; `runtime` is the phase of the runtime, when there is one. -/
structure Status where
  runtime : Option RuntimePhase := none
  conditions : List Condition := []
  healthy : Bool := false
  adoption : Option AdoptionStatus := none
  deriving DecidableEq, Repr

/-- What the Provider controller starts from: a runtime that is not there is made. -/
def Status.own (status : Status) : ProviderStatus where
  phase := status.runtime.getD .unset
  conditions := status.conditions
  healthy := status.healthy

def Status.withOwn (status : Status) (own : ProviderStatus) : Status where
  runtime := some own.phase
  conditions := own.conditions
  healthy := own.healthy
  adoption := status.adoption

/-- What a reconcile of the adoption controller finds: the annotation, the error of the filter, the
VMs that are not managed with the error of their adoption, and the time. -/
structure AdoptionRequest where
  adoptVMs : String
  filter : Option GoError := none
  unmanagedVMs : Except GoError (List (Option GoError))
  now : Time

/-- The adoption status that a reconcile of the adoption controller writes, if it writes one. -/
def reconcileAdoption (req : AdoptionRequest) (status : Status) : Option (Option AdoptionStatus) :=
  if req.adoptVMs ≠ "true" then
    if status.adoption.isSome then some none else none
  else
  let adoption := status.adoption.getD {}
  if ¬ isConditionTrue status.conditions "ProviderAvailable" then
    some (some { adoption with message := "Provider not ready" })
  else match req.filter, req.unmanagedVMs with
    | some err, _ => some (some { adoption with message := "Invalid filter: " ++ err.text })
    | none, .error err => some (some { adoption with message := "Discovery failed: " ++ err.text })
    | none, .ok vms =>
      if adoption.lastDiscoveryTime.any (req.now - · < 5 * minute) then none
      else
      let failed := (vms.filter isSome).length
      let adopted := (vms.filter isNone).length
      some (some {
        lastDiscoveryTime := some req.now
        discoveredVMs := vms.length
        adoptedVMs := adopted
        failedAdoptions := failed
        message :=
          if failed > 0 then
            "Adopted " ++ toString adopted ++ " VMs, " ++ toString failed ++ " failed"
          else "Successfully adopted " ++ toString adopted ++ " VMs" })

inductive Author
  | user
  | provider
  | adoption
  deriving DecidableEq, Repr

structure Version where
  author : Author
  status : Status
  deriving DecidableEq, Repr

/-- The versions of a Provider, newest first. A write is given with the version its reconcile has
read, so every interleaving of the reads is covered; `cond` is asked of the versions that a write
of the Provider controller passes over. -/
inductive Run (cond : List Version → Prop) : List Version → Prop
  | created : Run cond [⟨.user, {}⟩]
  | edited {v older} : Run cond (v :: older) → Run cond (⟨.user, v.status⟩ :: v :: older)
  -- `latest.Status = provider.Status`, retried until there is no conflict.
  | reconciled (newer) {read older} (seen : Observation) {written} :
      Run cond (newer ++ read :: older) → cond newer → seen.provider.status = read.status.own →
      seen.provider.runtime.isSome → reconcile seen = some written →
      Run cond (⟨.provider, read.status.withOwn written⟩ :: (newer ++ read :: older))
  | missingRuntime {read older} (seen : Observation) {written} : Run cond (read :: older) →
      seen.provider.status = read.status.own → seen.provider.runtime = none →
      reconcile seen = some written →
      Run cond (⟨.provider, read.status.withOwn written⟩ :: read :: older)
  | adopted {read older} (req : AdoptionRequest) {adoption} : Run cond (read :: older) →
      reconcileAdoption req read.status = some adoption →
      Run cond (⟨.adoption, { read.status with adoption }⟩ :: read :: older)

/-- The adoption status that the adoption controller has persisted last. -/
def lastAdoption : List Version → Option AdoptionStatus
  | [] => none
  | v :: older => if v.author = .adoption then v.status.adoption else lastAdoption older

/-- What the Provider controller has persisted last of its own fields. -/
def lastOwn : List Version → ProviderStatus
  | [] => {}
  | v :: older => if v.author = .provider then v.status.own else lastOwn older

section Versions

variable {cond : List Version → Prop} {v : Version} {newer older versions : List Version}

theorem Run.of_cons (h : Run cond (v :: older)) (hne : older ≠ []) : Run cond older := by
  cases h with
  | created => exact absurd rfl hne
  | edited h | reconciled _ _ h | missingRuntime _ h | adopted _ h => exact h

/-- A version was the newest one once. -/
theorem Run.of_append (h : Run cond (newer ++ v :: older)) : Run cond (v :: older) := by
  induction newer with
  | nil => exact h
  | cons _ newer ih => exact ih (h.of_cons (by simp))

/-- An adoption leaves the fields of the Provider controller as they are. -/
theorem own_eq_lastOwn (h : Run cond (v :: older)) : v.status.own = lastOwn (v :: older) := by
  generalize hversions : v :: older = versions at h
  induction h generalizing v older with
  | created => cases hversions; rfl
  | edited _ ih | adopted _ _ _ ih =>
    cases hversions
    rw [lastOwn, if_neg nofun]
    have hkept := ih rfl
    exact hkept
  | reconciled | missingRuntime =>
    cases hversions
    rw [lastOwn, if_pos rfl]

/-- The adoption controller has written none of the versions passed over. -/
def Undisturbed (newer : List Version) : Prop := ∀ v ∈ newer, v.author ≠ .adoption

theorem lastAdoption_append (h : Undisturbed newer) :
    lastAdoption (newer ++ versions) = lastAdoption versions := by
  induction newer with
  | nil => rfl
  | cons v newer ih =>
    obtain ⟨hv, hnewer⟩ := List.forall_mem_cons.mp h
    rw [List.cons_append, lastAdoption, if_neg hv, ih hnewer]

theorem adoption_eq_lastAdoption (h : Run Undisturbed (v :: older)) :
    v.status.adoption = lastAdoption (v :: older) := by
  generalize hlength : (v :: older).length = n
  induction n using Nat.strongRecOn generalizing v older with
  | ind n ih =>
    cases h with
    | created => rfl
    | edited h | missingRuntime _ h =>
      rw [lastAdoption, if_neg nofun]
      exact ih _ (by simp [← hlength]) h rfl
    | adopted => rw [lastAdoption, if_pos rfl]
    | reconciled newer _ h hnewer =>
      rw [lastAdoption, if_neg nofun, lastAdoption_append hnewer]
      exact ih _ (by grind) h.of_append rfl

/-- In every run in which no adoption is persisted between a read and the write of the Provider
controller, the newest version has the fields of each controller as it has persisted them last. -/
theorem no_status_reverted (h : Run Undisturbed (v :: older)) :
    v.status.adoption = lastAdoption (v :: older) ∧ v.status.own = lastOwn (v :: older) :=
  ⟨adoption_eq_lastAdoption h, own_eq_lastOwn h⟩

end Versions

namespace Sample

/-- The adoption of two VMs, one of which fails. -/
def request : AdoptionRequest where
  adoptVMs := "true"
  unmanagedVMs := .ok [none, some (errorf "boom")]
  now := 100

def ready : Status := ({} : Status).withOwn running

def adopting : Status := { ready with adoption := (reconcileAdoption request ready).getD none }

section

variable (cond : List Version → Prop) (h : cond [])
include cond h

theorem run_ready :
    Run cond [⟨.provider, ready⟩, ⟨.user, {}⟩] :=
  .reconciled [] (seen {} 1) .created h rfl rfl rfl

theorem run_adopting :
    Run cond [⟨.adoption, adopting⟩, ⟨.provider, ready⟩, ⟨.user, {}⟩] :=
  .adopted request (run_ready cond h) (by decide +kernel)

/-- The next reconcile sees the adoption, and the replica is gone. -/
theorem run_lost :
    Run cond [⟨.provider, adopting.withOwn ((reconcile (seen adopting.own 0)).getD {})⟩,
      ⟨.adoption, adopting⟩, ⟨.provider, ready⟩, ⟨.user, {}⟩] :=
  .reconciled [] (seen adopting.own 0) (run_adopting cond h) h rfl rfl rfl

end

end Sample

open Ownership.Sample

/-- The Provider controller reads the Provider after the adoption. -/
theorem no_status_reverted_sample : ∃ v older, Run Undisturbed (v :: older) ∧
    v.author = .provider ∧ v.status.adoption = lastAdoption older ∧
    (lastAdoption older).isSome := by
  have hrun := run_lost Undisturbed nofun
  have hkept := no_status_reverted hrun
  exact ⟨_, _, hrun, rfl, hkept.1, by decide +kernel⟩

/-- The Provider controller has read the Provider before the adoption: its write takes the adoption
back. -/
theorem adoption_reverted : ∃ v older, Run (fun _ => True) (v :: older) ∧
    v.author = .provider ∧ v.status.adoption = none ∧ (lastAdoption older).isSome :=
  ⟨_, _, .reconciled [⟨.adoption, adopting⟩]
    (seen ready.own 1) (run_adopting _ trivial) trivial rfl rfl rfl, rfl,
    by decide +kernel, by decide +kernel⟩

inductive Handled
  | panicked
  | waiting
  | resolved
  deriving DecidableEq, Repr

/-- How `reconcileVM` gets past the Provider it has read: the phase of the runtime is logged before
the provider is resolved. `unresolved` is any other error of the resolver. -/
def getProviderInstance (status : Status) (unresolved : Option GoError) : Handled :=
  match status.runtime with
  | none => .panicked
  | some phase => if phase ≠ .running ∨ unresolved.isSome then .waiting else .resolved

/-- From its first status on, the Provider has a runtime. -/
theorem Run.runtime_isSome {cond : List Version → Prop} {versions : List Version}
    (h : Run cond versions) (hwritten : ∃ w ∈ versions, w.author = .provider) :
    ∀ v ∈ versions.head?, v.status.runtime.isSome := by
  induction h with
  | created => simp at hwritten
  | edited _ ih | adopted _ _ _ ih =>
    intro v hv
    cases hv
    obtain ⟨w, hmem, hauthor⟩ := hwritten
    rcases List.mem_cons.mp hmem with rfl | hmem
    · cases hauthor
    · have hkept := ih ⟨w, hmem, hauthor⟩ _ rfl
      exact hkept
  | reconciled | missingRuntime =>
    intro v hv
    cases hv
    rfl

/-- In every run, a VirtualMachine that has read a version not older than the first status of the
Provider controller waits for a runtime that is not there. -/
theorem missing_runtime_waits {cond : List Version → Prop} (newer : List Version) {v : Version}
    {older : List Version} (h : Run cond (newer ++ v :: older))
    (hwritten : ∃ w ∈ v :: older, w.author = .provider) (unresolved : Option GoError) :
    getProviderInstance v.status unresolved ≠ .panicked ∧
      (v.status.runtime ≠ some .running →
        getProviderInstance v.status unresolved = .waiting) := by
  obtain ⟨phase, hphase⟩ := isSome_iff_exists.mp
    (h.of_append.runtime_isSome hwritten v rfl)
  rw [getProviderInstance, hphase]
  dsimp only
  constructor
  · split <;> nofun
  · intro hdown
    exact if_pos (.inl fun hrunning => hdown (hrunning ▸ rfl))

theorem missing_runtime_waits_sample :
    getProviderInstance ready (some (errorf "no connection")) ≠ .panicked :=
  (missing_runtime_waits [] (run_ready (fun _ => True) trivial)
    ⟨_, .head _, rfl⟩ _).1

/-- The Provider was just created. -/
theorem missing_runtime_panics : ∃ v older, Run (fun _ => True) (v :: older) ∧
    getProviderInstance v.status none = .panicked :=
  ⟨_, _, .created, rfl⟩

end Virtrigaud.Runtime.Ownership
