import Virtrigaud.Api.Meta

/-!
# The health of a provider

`Reconcile` of the Provider controller with `reconcileRemoteRuntime`, as far as conditions and
health go. The condition ProviderAvailable is only ever set to True, when the Deployment has a
ready replica, and Healthy is computed from it: both outlive the replica they were set for.
-/

namespace Virtrigaud.Runtime.Health

inductive RuntimePhase
  | unset
  | pending
  | running
  | failed
  deriving DecidableEq, Repr

structure ProviderStatus where
  phase : RuntimePhase := .unset
  conditions : List Condition := []
  healthy : Bool := false
  deriving DecidableEq, Repr

structure TLSSpec where
  enabled : Bool := false
  secretRef : String := ""
  deriving DecidableEq, Repr

structure RemoteSpec where
  image : String := ""
  tls : Option TLSSpec := none
  deriving DecidableEq, Repr

structure ProviderObject where
  deletionTimestamp : Option Time := none
  runtime : Option RemoteSpec := none
  status : ProviderStatus := {}
  deriving DecidableEq, Repr

/-- What one reconcile reads, and how its Service, its Deployment and the query of the
capabilities are answered: an error, the ready replicas, and why there are no capabilities. -/
structure Observation where
  provider : ProviderObject
  service : Option GoError := none
  deployment : Except GoError Int
  capabilities : Option String := none

section

variable (seen : Observation) (status : ProviderStatus)

def ProviderStatus.setCondition (conditionType : String) (value : ConditionStatus)
    (reason message : String) : ProviderStatus :=
  { status with conditions :=
      Virtrigaud.setCondition status.conditions conditionType value reason message }

def ProviderStatus.notReady (phase : RuntimePhase) (reason message : String) : ProviderStatus :=
  { status with phase }.setCondition "ProviderRuntimeReady" .conditionFalse reason message

def tlsBlockMissingMessage : String :=
  "TLS is on-by-default in v0.3.7. To proceed: (a) provision a Secret with " ++
  "tls.crt/tls.key/ca.crt and set spec.runtime.service.tls.enabled=true with secretRef pointing " ++
  "at it, OR (b) explicitly set spec.runtime.service.tls.enabled=false to keep plaintext (lab / " ++
  "migration scenarios). See umbrella #156 for the runbook."

/-- Whether the provider may be deployed, and the condition that says so. -/
def evaluateTLSPosture (tls : Option TLSSpec) : Bool × ConditionStatus × String × String :=
  match tls with
  | none => (false, .conditionFalse, "TLSBlockMissing", tlsBlockMissingMessage)
  | some tls =>
    if ¬ tls.enabled then (true, .conditionFalse, "ExplicitlyDisabled",
      "TLS is explicitly disabled (tls.enabled=false); manager↔provider gRPC traffic will be " ++
      "plaintext. Compensating controls (NetworkPolicy + encrypted CNI) are the operator's " ++
      "responsibility.")
    else if tls.secretRef = "" then (false, .conditionFalse, "SecretRefMissing",
      "spec.runtime.service.tls.enabled=true but secretRef is missing. Set secretRef.name to a " ++
      "Secret containing tls.crt / tls.key / ca.crt.")
    else (true, .conditionTrue, "Enabled",
      "TLS enabled; using Secret \"" ++ tls.secretRef ++ "\"")

def reconcileRemoteRuntime (remote : RemoteSpec) (seen : Observation) (status : ProviderStatus) :
    ProviderStatus :=
  if remote.image = "" then
    status.notReady .failed "InvalidConfiguration" "image is required for remote runtime"
  else
  let (decided, value, reason, message) := evaluateTLSPosture remote.tls
  let status := status.setCondition "TLSConfigured" value reason message
  if ¬ decided then
    status.notReady .failed "TLSNotConfigured"
      "Refusing to deploy provider runtime without an explicit TLS decision"
  else
  match seen.service, seen.deployment with
  | some err, _ => status.notReady .failed "ServiceError" ("Failed to create service: " ++ err.text)
  | none, .error err =>
    status.notReady .failed "DeploymentError" ("Failed to create deployment: " ++ err.text)
  | none, .ok readyReplicas =>
    if readyReplicas > 0 then
      ({ status with phase := .running }.setCondition "ProviderRuntimeReady" .conditionTrue
        "DeploymentReady"
        ("Deployment has " ++ toString readyReplicas ++ " ready replicas")).setCondition
        "ProviderAvailable" .conditionTrue "RemoteAvailable" "Remote provider is available"
    else status.notReady .pending "DeploymentNotReady" "Deployment pods are not ready yet"

def available : Bool :=
  isConditionTrue status.conditions "ProviderAvailable"

/-- The capabilities are asked for once the runtime is there; an error is only reported. -/
def reconcileReportedCapabilities : ProviderStatus :=
  if status.healthy ∧ status.phase = .running then
    match seen.capabilities with
    | some message => status.setCondition "CapabilitiesReported" .conditionFalse
        "CapabilitiesUnavailable" message
    | none => status.setCondition "CapabilitiesReported" .conditionTrue "CapabilitiesFetched"
        "Provider capabilities reported"
  else status

/-- The status a reconcile writes; a Provider that is being deleted gets none. -/
def reconcile : Option ProviderStatus :=
  let status := seen.provider.status
  if seen.provider.deletionTimestamp.isSome then none
  else match seen.provider.runtime with
    | none => some (status.setCondition "ProviderRuntimeReady" .conditionFalse "MissingRuntime"
        "runtime configuration is required")
    | some remote =>
      let status := reconcileRemoteRuntime remote seen status
      some (reconcileReportedCapabilities seen { status with healthy := available status })

/-- The status says that the provider can be used. -/
def marked : Bool := status.healthy || available status

/-- The reconcile saw the Deployment with a ready replica. -/
def Observation.ready : Bool :=
  seen.provider.runtime.any (fun remote => decide (remote.image ≠ "") &&
    (evaluateTLSPosture remote.tls).1) && seen.service.isNone &&
      seen.deployment.toOption.any (· > 0)

end

section Marks

variable {status : ProviderStatus} {seen : Observation}

@[simp] theorem available_setCondition (status : ProviderStatus) {conditionType : String}
    (value : ConditionStatus)
    (reason message : String) (h : conditionType ≠ "ProviderAvailable") :
    available (status.setCondition conditionType value reason message) = available status := by
  simp [available, isConditionTrue, ProviderStatus.setCondition, getCondition_setCondition, h]

@[simp] theorem available_notReady (phase : RuntimePhase) (reason message : String) :
    available (status.notReady phase reason message) = available status :=
  available_setCondition _ _ _ _ (by decide)

/-- Without a ready replica the condition is left as it was. -/
theorem available_reconcileRemoteRuntime (status : ProviderStatus) {remote : RemoteSpec}
    (hremote : seen.provider.runtime = some remote) (hready : seen.ready = false) :
    available (reconcileRemoteRuntime remote seen status) = available status := by
  unfold reconcileRemoteRuntime
  split
  · exact available_notReady _ _ _
  rename_i himage
  have htls := available_setCondition status (evaluateTLSPosture remote.tls).2.1
    (evaluateTLSPosture remote.tls).2.2.1 (evaluateTLSPosture remote.tls).2.2.2
    (show "TLSConfigured" ≠ "ProviderAvailable" by decide)
  dsimp only
  split
  · exact (available_notReady _ _ _).trans htls
  rename_i hdecided
  split
  · exact (available_notReady _ _ _).trans htls
  · exact (available_notReady _ _ _).trans htls
  · rename_i readyReplicas hservice hdeployment
    split
    · rename_i hpositive
      simp [Observation.ready, hremote, himage, not_not.mp hdecided, hservice, hdeployment,
        Except.toOption, hpositive] at hready
    · exact (available_notReady _ _ _).trans htls

theorem marked_reconcileReportedCapabilities :
    marked (reconcileReportedCapabilities seen status) = marked status := by
  unfold reconcileReportedCapabilities
  repeat' first
    | rfl
    | exact congrArg (_ || ·) (available_setCondition _ _ _ _ (by decide))
    | split

/-- A reconcile that sees no ready replica writes a mark only if it found one. -/
theorem marked_of_reconcile {written : ProviderStatus} (h : reconcile seen = some written)
    (hready : seen.ready = false) (hmarked : marked written = true) :
    marked seen.provider.status = true := by
  unfold reconcile at h
  split at h
  · cases h
  split at h
  · cases h
    rw [← hmarked]
    exact (congrArg (_ || ·) (available_setCondition _ _ _ _ (by decide))).symm
  · rename_i remote hremote
    cases h
    rw [marked_reconcileReportedCapabilities] at hmarked
    have hkept := available_reconcileRemoteRuntime seen.provider.status hremote hready
    rw [marked, ← hkept]
    have havailable := (Bool.or_self _).symm.trans hmarked
    rw [show available (reconcileRemoteRuntime remote seen seen.provider.status) = true
      from havailable, Bool.or_true]

end Marks

/-- The statuses that were persisted, newest first, and what the reconciles saw. A read may lag
behind, and a write be refused. -/
inductive Run : List ProviderStatus → List Observation → Prop
  | init : Run [{}] []
  | lost {versions trace} (seen) : Run versions trace → seen.provider.status ∈ versions →
      Run versions (seen :: trace)
  | persisted {versions trace} (seen) {written} : Run versions trace →
      seen.provider.status ∈ versions → reconcile seen = some written →
      Run (written :: versions) (seen :: trace)

/-- A provider that has had a ready replica is found so ever after. -/
def StaysReady (trace : List Observation) : Prop :=
  trace.Pairwise fun later earlier => earlier.ready = true → later.ready = true

/-- In a run that stays ready, every mark that was persisted is younger than a ready replica. -/
theorem ready_of_marked {versions : List ProviderStatus} {trace : List Observation}
    (h : Run versions trace) (hready : StaysReady trace) :
    ∀ status ∈ versions, marked status = true → ∃ seen ∈ trace, seen.ready = true := by
  induction h with
  | init =>
    exact fun status hmem hmarked => by
      simp_all [marked, available, isConditionTrue, getCondition]
  | lost seen _ _ ih =>
    intro status hmem hmarked
    obtain ⟨earlier, hmem', hearlier⟩ := ih hready.of_cons status hmem hmarked
    exact ⟨earlier, .tail _ hmem', hearlier⟩
  | @persisted versions trace seen written _ hread hwritten ih =>
    intro status hmem hmarked
    by_cases hseen : seen.ready = true
    · exact ⟨seen, .head _, hseen⟩
    have hold : ∃ status ∈ versions, marked status = true := by
      rcases List.mem_cons.mp hmem with rfl | hold
      · exact ⟨_, hread, marked_of_reconcile hwritten (Bool.not_eq_true _ ▸ hseen) hmarked⟩
      · exact ⟨status, hold, hmarked⟩
    obtain ⟨status', hmem', hmarked'⟩ := hold
    obtain ⟨earlier, hmem'', hearlier⟩ := ih hready.of_cons status' hmem' hmarked'
    exact ⟨earlier, .tail _ hmem'', hearlier⟩

/-- In every run in which a provider that has had a ready replica is found so ever after, a status
that marks the provider as available is written only by a reconcile that has seen one. -/
theorem available_is_observed {versions : List ProviderStatus} {trace : List Observation}
    {seen : Observation} {written : ProviderStatus} (hrun : Run versions trace)
    (hread : seen.provider.status ∈ versions) (hready : StaysReady (seen :: trace))
    (hwritten : reconcile seen = some written) (hmarked : marked written = true) :
    seen.ready = true := by
  by_contra hseen
  have hfound := marked_of_reconcile hwritten (Bool.not_eq_true _ ▸ hseen) hmarked
  obtain ⟨earlier, hmem, hearlier⟩ :=
    ready_of_marked hrun (List.Pairwise.of_cons hready) _ hread hfound
  exact hseen (List.rel_of_pairwise_cons hready hmem hearlier)

namespace Sample

/-- A provider without TLS, read with this status. -/
def seen (status : ProviderStatus) (readyReplicas : Int) : Observation where
  provider := { runtime := some { image := "libvirt", tls := some {} }, status }
  deployment := .ok readyReplicas

/-- The status of a provider with a ready replica. -/
def running : ProviderStatus := (reconcile (seen {} 1)).getD {}

theorem run_running : Run [running, {}] [seen {} 1] :=
  .persisted _ .init (by decide) rfl

end Sample

open Health.Sample

/-- The provider still has its replica in the second reconcile. -/
theorem available_is_observed_sample : (seen running 1).ready = true :=
  available_is_observed run_running (.head _)
    (List.pairwise_pair.mpr fun _ => rfl) rfl
    (by decide +kernel)

/-- A provider loses its ready replica, and the next reconcile marks it as available. -/
theorem lost_replica_stays_available : ∃ versions trace seen written, Run versions trace ∧
    seen.provider.status ∈ versions ∧ reconcile seen = some written ∧
    written.healthy = true ∧ available written = true ∧ seen.deployment.toOption = some 0 :=
  ⟨_, _, seen running 0, _, run_running, .head _, rfl, by decide +kernel,
    by decide +kernel, rfl⟩

end Virtrigaud.Runtime.Health
