import Virtrigaud.Effects.Machine
import Virtrigaud.Migration.Reconcile
import Virtrigaud.Runtime.Deployment

/-!
# Waiting for the mounts

A migration that stages on a claim stays in Validating until the pods of both providers mount
it. The Provider controller mounts the claims it discovers, the Deployment controller rolls the
pods, and the migration controller looks at the result, with a deadline. `Cluster` has what the
three read and write, and `machine` lets them act in any order.
-/

namespace Virtrigaud.Migration.Mounting

open Effects Program Virtrigaud.Runtime Option

/-- The claims of the cluster; a key names one object. -/
structure Claims where
  items : List PersistentVolumeClaim
  distinct : (items.map (·.objectMeta.key)).Nodup

def Claims.find (claims : Claims) (key : ObjectKey) : Option PersistentVolumeClaim :=
  claims.items.find? (·.objectMeta.key = key)

/-- What the label selector of the Provider controller selects. -/
def Claims.labelled (claims : Claims) (ns : String) : List PersistentVolumeClaim :=
  claims.items.filter fun pvc => pvc.objectMeta.ns = ns ∧
    pvc.objectMeta.labels.lookup migrationPVCLabelKey = some migrationPVCLabelValue

/-- The claims that are mounted into the pods of the namespace. -/
def Claims.discovered (claims : Claims) (ns : String) : List PersistentVolumeClaim :=
  (claims.labelled ns).filter migrationPVCIsMountable

/-- One migration with the objects it waits for. Deployments are kept under their own keys,
pods under the keys of their Providers. -/
structure Cluster where
  clock : Time
  migration : VMMigration
  sourceVM : VirtualMachine
  sourcePower : ReportedPower
  providers : List Provider
  runtime : ObjectKey → RuntimeSpec
  claims : Claims
  deployments : ObjectKey → Option ProviderDeployment
  pods : ObjectKey → List Pod

namespace Cluster

def findProvider (s : Cluster) (key : ObjectKey) : Option Provider :=
  s.providers.find? (·.objectMeta.key = key)

def setDeployment (s : Cluster) (key : ObjectKey) (deployment : ProviderDeployment) :
    Cluster :=
  { s with deployments := fun k => if k = key then some deployment else s.deployments k }

/-- The stored migration after a status write. -/
def write (s : Cluster) (status : VMMigrationStatus) : Cluster :=
  { s with migration := { s.migration with
      status
      objectMeta := { s.migration.objectMeta with
        resourceVersion := s.migration.objectMeta.resourceVersion + 1 } } }

/-- The source VirtualMachine after the patch of its desired power state. -/
def patchOff (s : Cluster) : Cluster :=
  { s with sourceVM := { s.sourceVM with spec := { s.sourceVM.spec with powerState := .off } } }

end Cluster

/-- The API server to the Provider controller: it accepts valid templates only. -/
def serveProvider : Handler Runtime.Call Runtime.Answer Cluster
  | s, .listClaims ns labelKey labelValue =>
    (.ok (s.claims.items.filter fun pvc => pvc.objectMeta.ns = ns ∧
      pvc.objectMeta.labels.lookup labelKey = some labelValue), s)
  | s, .getDeployment key =>
    match s.deployments key with
    | some deployment => (.ok deployment, s)
    | none => (.error ⟨.notFound, "deployment not found"⟩, s)
  | s, .createDeployment key deployment =>
    if deployment.template.valid then (none, s.setDeployment key deployment)
    else (some (errorf "Deployment is invalid"), s)
  | s, .updateDeployment key deployment =>
    if deployment.template.valid then (none, s.setDeployment key deployment)
    else (some (errorf "Deployment is invalid"), s)

section

variable (deployment : ProviderDeployment)

/-- The Deployment as the migration controller reads it. -/
def viewed : Deployment where
  claims := deployment.template.volumes.filterMap Volume.claimName
  replicas := some deployment.replicas
  updatedReplicas := deployment.updatedReplicas
  readyReplicas := deployment.readyReplicas

/-- How the surroundings meet one reconcile of the migration: the API server takes its status
writes or refuses them, and what is not about the wait has any answer. -/
structure Weather where
  refusal : Option GoError := none
  others : (c : Call) → Answer c

/-- Cluster and providers to the migration controller. -/
def serve (weather : Weather) : Handler Call Answer Cluster
  | s, .getMigration key =>
    (if key = s.migration.objectMeta.key then .ok s.migration
      else weather.others (.getMigration key), s)
  | s, .statusUpdate migration =>
    match weather.refusal with
    | some err => (.error err, s)
    | none =>
      if migration.objectMeta.key = s.migration.objectMeta.key ∧
          migration.objectMeta.resourceVersion = s.migration.objectMeta.resourceVersion then
        let stored := s.write migration.status
        (.ok (stored.migration.objectMeta, stored.migration.spec), stored)
      else (.error ⟨.conflict, "the object has been modified"⟩, s)
  | s, .getVirtualMachine key =>
    (if key = s.sourceVM.objectMeta.key then .ok s.sourceVM
      else weather.others (.getVirtualMachine key), s)
  | s, .patchPowerOff vm =>
    if vm.objectMeta.key = s.sourceVM.objectMeta.key then (.ok s.patchOff.sourceVM, s.patchOff)
    else (weather.others (.patchPowerOff vm), s)
  | s, .getProvider key =>
    match s.findProvider key with
    | some provider => (.ok provider, s)
    | none => (.error ⟨.notFound, "provider not found"⟩, s)
  | s, .getPVC key =>
    match s.claims.find key with
    | some pvc => (.ok pvc, s)
    | none => (.error ⟨.notFound, "claim not found"⟩, s)
  | s, .getDeployment key =>
    match s.deployments key with
    | some deployment => (.ok (viewed deployment), s)
    | none => (.error ⟨.notFound, "deployment not found"⟩, s)
  | s, .listPods ns app => (.ok (s.pods ⟨ns, app⟩), s)
  | s, .getProviderInstance _ => (none, s)
  | s, .describe provider id =>
    (if id = s.sourceVM.status.id then .ok { powerState := s.sourcePower }
      else weather.others (.describe provider id), s)
  | s, .power provider id op =>
    (if id = s.sourceVM.status.id then .ok "" else weather.others (.power provider id op), s)
  | s, .now => (s.clock, s)
  | s, c => (weather.others c, s)

/-- The pods of a finished rollout. -/
def podsOf : List Pod :=
  List.replicate deployment.replicas.toNat
    { claims := (viewed deployment).claims, running := true, conditions := [("Ready", true)] }

inductive Action
  | tick (elapsed : Nat)
  /-- Claims come and go. -/
  | changeClaims (claims : Claims)
  | reconcileProvider (provider : ObjectKey)
  /-- The Deployment controller begins to roll a template the pods do not have. -/
  | startRollout (provider : ObjectKey)
  /-- It has replaced the pods, which it cannot before their claims are bound. -/
  | finishRollout (provider : ObjectKey)
  | stopSource
  | reconcileMigration (weather : Weather)

def afterRolloutStart (s : Cluster) (provider : ObjectKey) : Cluster :=
  match s.deployments (deploymentKey provider) with
  | none => s
  | some deployment =>
    if s.pods provider = podsOf deployment then s
    else s.setDeployment (deploymentKey provider) { deployment with updatedReplicas := 0 }

def rolledOut : ProviderDeployment :=
  { deployment with
    updatedReplicas := deployment.replicas, readyReplicas := deployment.replicas }

end

def afterRollout (s : Cluster) (provider : ObjectKey) : Cluster :=
  match s.deployments (deploymentKey provider) with
  | none => s
  | some deployment =>
    { s.setDeployment (deploymentKey provider) (rolledOut deployment) with
      pods := fun k => if k = provider then podsOf deployment else s.pods k }

def afterProviderReconcile (s : Cluster) (key : ObjectKey) : Cluster :=
  match s.findProvider key with
  | none => s
  | some provider =>
    ((Runtime.reconcileDeployment provider (s.runtime key)).eval serveProvider s).2

def afterReconcile (r : Reconciler) (weather : Weather) (s : Cluster) : Cluster :=
  ((r.reconcile s.migration.objectMeta.key).eval (serve weather) s).2

def machine (r : Reconciler) : Machine Cluster Action
  | s, .tick elapsed => some { s with clock := s.clock + elapsed }
  | s, .changeClaims claims => some { s with claims }
  | s, .reconcileProvider key => some (afterProviderReconcile s key)
  | s, .startRollout key => some (afterRolloutStart s key)
  | s, .finishRollout key => some (afterRollout s key)
  | s, .stopSource => some { s with sourcePower := .off }
  | s, .reconcileMigration weather => some (afterReconcile r weather s)

section Provider

variable {s : Cluster}

/-- What the Provider controller makes of the Deployment it finds. -/
def applied (provider : Provider) (spec : RuntimeSpec)
    (claims : List PersistentVolumeClaim) (old : Option ProviderDeployment) :
    ProviderDeployment where
  replicas := spec.replicas.getD 1
  template := podTemplate provider spec claims
  updatedReplicas := (old.map (·.updatedReplicas)).getD 0
  readyReplicas := (old.map (·.readyReplicas)).getD 0

/-- One Deployment is created or updated, unless its template is refused. -/
theorem eval_reconcileDeployment (provider : Provider) (spec : RuntimeSpec) :
    ((reconcileDeployment provider spec).eval serveProvider s).2 =
      if (podTemplate provider spec
          (s.claims.discovered provider.objectMeta.ns)).valid = true then
        s.setDeployment (deploymentKey provider.objectMeta.key)
          (applied provider spec (s.claims.discovered provider.objectMeta.ns)
            (s.deployments (deploymentKey provider.objectMeta.key)))
      else s := by
  have hmounts : (buildProviderContainer provider spec).eval serveProvider s =
      ((podTemplate provider spec (s.claims.discovered provider.objectMeta.ns)).mounts,
        s) := rfl
  have hvolumes : (buildPodVolumes provider spec).eval serveProvider s =
      ((podTemplate provider spec (s.claims.discovered provider.objectMeta.ns)).volumes,
        s) := rfl
  unfold reconcileDeployment
  rw [eval_bind_of hmounts, eval_bind_of hvolumes]
  generalize deploymentKey provider.objectMeta.key = key
  cases hold : s.deployments key with
  | none =>
    have hget : (Runtime.ask (.getDeployment key)).eval serveProvider s =
        (.error ⟨.notFound, "deployment not found"⟩, s) := by
      simp [Runtime.ask, perform, serveProvider, hold]
    rw [eval_bind_of hget]
    by_cases hvalid : (podTemplate provider spec
        (s.claims.discovered provider.objectMeta.ns)).valid = true
    · simp [Runtime.ask, perform, serveProvider, hvalid, applied]
    · simp [Runtime.ask, perform, serveProvider, hvalid]
  | some old =>
    have hget : (Runtime.ask (.getDeployment key)).eval serveProvider s = (.ok old, s) := by
      simp [Runtime.ask, perform, serveProvider, hold]
    rw [eval_bind_of hget]
    by_cases hvalid : (podTemplate provider spec
        (s.claims.discovered provider.objectMeta.ns)).valid = true
    · simp [updateDeployment, Runtime.ask, perform, serveProvider, hold, hvalid, applied]
    · simp [updateDeployment, Runtime.ask, perform, serveProvider, hold, hvalid, errorf]

end Provider

section Writes

variable {weather : Weather} {s : Cluster} {v : VMMigration}

/-- A status write of the object as it is stored. -/
theorem eval_updateStatus (hmeta : v.objectMeta = s.migration.objectMeta)
    (hspec : v.spec = s.migration.spec) :
    (updateStatus v).eval (serve weather) s =
      match weather.refusal with
      | some err => ((v, some err), s)
      | none => (((s.write v.status).migration, none), s.write v.status) := by
  have hsame : ({ s.migration with status := v.status } : VMMigration) = v := by
    cases v
    simp_all
  have hkey : s.migration.objectMeta.key = v.objectMeta.key := by rw [hmeta]
  cases hrefusal : weather.refusal with
  | none =>
    simp [updateStatus, updateStatusLoop, ask, perform, serve, hrefusal, hmeta]
    rfl
  | some err =>
    by_cases hconflict : err.reason = .conflict
    · simp [updateStatus, updateStatusLoop, ask, perform, serve, hrefusal, hkey, hsame, hconflict]
    · simp [updateStatus, updateStatusLoop, ask, perform, serve, hrefusal, hconflict]

/-- The state a persisted status leaves. -/
def landed (weather : Weather) (s : Cluster) (status : VMMigrationStatus) : Cluster :=
  if weather.refusal.isSome then s else s.write status

variable (hmeta : v.objectMeta = s.migration.objectMeta) (hspec : v.spec = s.migration.spec)
include hmeta hspec

theorem eval_persist (status : VMMigrationStatus) (result : Result) :
    ((persist v status result).eval (serve weather) s).2 = landed weather s status := by
  have hwrite := @eval_updateStatus weather s { v with status } hmeta hspec
  unfold persist
  rw [eval_bind, hwrite, landed]
  cases weather.refusal with
  | none | some err => rfl

theorem eval_transitionToFailed (message : String) :
    ((transitionToFailed v message).eval (serve weather) s).2 =
      landed weather s (failed v.status message s.clock) :=
  eval_persist hmeta hspec _ _

end Writes

/-- What the migration controller sees of the pods of a provider. -/
def Cluster.mountReady (s : Cluster) (provider : ObjectKey) (claim : String) : Bool :=
  (s.deployments (deploymentKey provider)).any fun deployment =>
    (viewed deployment).claims.contains claim &&
      decide (deployment.replicas ≤ deployment.updatedReplicas ∧
        deployment.replicas ≤ deployment.readyReplicas) &&
      (s.pods provider).any fun pod => !pod.terminating && pod.claims.contains claim &&
        pod.running && podConditionTrue pod "Ready"

/-- A pod of the provider runs with the claim. -/
def Mounts (s : Cluster) (provider : ObjectKey) (claim : String) : Prop :=
  ∃ pod ∈ s.pods provider, pod.terminating = false ∧ pod.running = true ∧ claim ∈ pod.claims

theorem mounts_of_mountReady {s : Cluster} {provider : ObjectKey} {claim : String}
    (h : s.mountReady provider claim = true) : Mounts s provider claim := by
  unfold Cluster.mountReady at h
  cases hget : s.deployments (deploymentKey provider) with
  | none =>
    rw [hget] at h
    cases h
  | some deployment =>
    rw [hget, any_some, Bool.and_eq_true] at h
    obtain ⟨pod, hpod, h⟩ := List.any_eq_true.mp h.2
    simp only [Bool.and_eq_true, Bool.not_eq_true'] at h
    exact ⟨pod, hpod, h.1.1.1, h.1.2, by simpa using h.1.1.2⟩

section Looks

variable {weather : Weather} {s : Cluster}

theorem eval_providerMountReady (provider : Provider) (claim : String) :
    ∃ reason, (providerMountReady provider claim).eval (serve weather) s =
      (.ok (s.mountReady provider.objectMeta.key claim, reason), s) := by
  have hkey : deploymentKey provider.objectMeta.key = ⟨provider.objectMeta.ns,
    "virtrigaud-provider-" ++ provider.objectMeta.ns ++ "-" ++ provider.objectMeta.name⟩ := rfl
  have hpods : provider.objectMeta.key = ⟨provider.objectMeta.ns, provider.objectMeta.name⟩ := rfl
  unfold providerMountReady Cluster.mountReady
  rw [hkey, hpods]
  generalize "virtrigaud-provider-" ++ provider.objectMeta.ns ++ "-" ++ provider.objectMeta.name =
    deploymentName
  cases hget : s.deployments ⟨provider.objectMeta.ns, deploymentName⟩ with
  | none =>
    simp only [ask, perform_bind, eval_call, serve, hget]
    exact ⟨_, rfl⟩
  | some deployment =>
    simp only [ask, perform_bind, eval_call, serve, hget, any_some]
    cases hclaim : (viewed deployment).claims.contains claim with
    | false => exact ⟨_, rfl⟩
    | true =>
      by_cases hrolled : deployment.replicas ≤ deployment.updatedReplicas ∧
          deployment.replicas ≤ deployment.readyReplicas
      · have hdone : ¬ (deployment.updatedReplicas < deployment.replicas ∨
            deployment.readyReplicas < deployment.replicas) := by omega
        rw [decide_eq_true hrolled]
        simp only [viewed, getD_some, hdone, not_true_eq_false, if_false, eval_call, serve]
        cases (s.pods ⟨provider.objectMeta.ns, provider.objectMeta.name⟩).any fun pod =>
            !pod.terminating && pod.claims.contains claim && pod.running &&
              podConditionTrue pod "Ready" with
        | false | true => exact ⟨_, rfl⟩
      · have hrolling : deployment.updatedReplicas < deployment.replicas ∨
            deployment.readyReplicas < deployment.replicas := by omega
        rw [decide_eq_false hrolled]
        simp only [viewed, getD_some, hrolling]
        exact ⟨_, rfl⟩

theorem eval_migrationProvidersMounted (source target : Provider) (claim : String) :
    ∃ reason, (migrationProvidersMounted source target claim).eval (serve weather) s =
      (.ok (s.mountReady source.objectMeta.key claim && s.mountReady target.objectMeta.key claim,
        reason), s) := by
  obtain ⟨sourceReason, hsource⟩ := @eval_providerMountReady weather s source claim
  obtain ⟨targetReason, htarget⟩ := @eval_providerMountReady weather s target claim
  unfold migrationProvidersMounted
  rw [eval_bind_of hsource]
  cases s.mountReady source.objectMeta.key claim with
  | false => exact ⟨_, rfl⟩
  | true =>
    rw [eval_bind_of htarget]
    cases s.mountReady target.objectMeta.key claim with
    | false | true => exact ⟨_, rfl⟩

theorem eval_migrationMountDeadlineExceeded {v : VMMigration} {claim : String}
    {pvc : PersistentVolumeClaim} (hfind : s.claims.find ⟨v.objectMeta.ns, claim⟩ = some pvc) :
    (migrationMountDeadlineExceeded v claim).eval (serve weather) s =
      (.ok (decide (s.clock - pvc.objectMeta.creationTimestamp > migrationMountTimeout)), s) := by
  unfold migrationMountDeadlineExceeded
  simp only [ask, perform_bind, eval_call, serve, hfind]
  rfl

theorem eval_ensureMigrationPVC {r : Reconciler} {v : VMMigration} {storage : MigrationStorage}
    {config : PVCStorageConfig} {pvc : PersistentVolumeClaim}
    (hstorage : v.spec.storage = some storage) (hconfig : storage.pvc = some config)
    (hnamed : config.name ≠ "")
    (hfind : s.claims.find ⟨v.objectMeta.ns, config.name⟩ = some pvc) :
    (r.ensureMigrationPVC v).eval (serve weather) s = (.ok config.name, s) := by
  simp [Reconciler.ensureMigrationPVC, ask, perform, serve, hfind, hstorage, hconfig, hnamed]

/-- The state once the claim is in the status. -/
def recorded (s : Cluster) (claim : String) : Cluster :=
  if s.migration.status.storagePVCName = "" then
    s.write (storageRecorded s.migration.status claim)
  else s

/-- Only the status of the migration changes. -/
theorem recorded_induct {P : Cluster → Prop} {claim : String} (h : P s)
    (hwrite : P (s.write (storageRecorded s.migration.status claim))) : P (recorded s claim) := by
  unfold recorded
  split
  · exact hwrite
  · exact h

theorem eval_recordClaim (claim : String) :
    (weather.refusal ≠ none ∧ ∃ err,
      (recordClaim s.migration claim).eval (serve weather) s = (err, s) ∧ err.2 ≠ none) ∨
    (recordClaim s.migration claim).eval (serve weather) s =
      (((recorded s claim).migration, none), recorded s claim) := by
  unfold recordClaim recorded
  split
  · have hwrite := @eval_updateStatus weather s
      { s.migration with status := storageRecorded s.migration.status claim } rfl rfl
    rw [hwrite]
    cases weather.refusal with
    | none => exact .inr rfl
    | some err => exact .inl ⟨nofun, _, rfl, nofun⟩
  · exact .inr rfl

variable {r : Reconciler} {source target : Provider} {storage : MigrationStorage}
  {config : PVCStorageConfig} {pvc : PersistentVolumeClaim}

/-- Validation of the claim: a refused write, both providers mount it, or the wait goes on or
comes to its end. -/
theorem eval_validateClaim
    (htogether : source.objectMeta.ns = s.migration.objectMeta.ns ∧
      target.objectMeta.ns = s.migration.objectMeta.ns)
    (hstorage : s.migration.spec.storage = some storage) (hconfig : storage.pvc = some config)
    (hnamed : config.name ≠ "")
    (hfind : s.claims.find ⟨s.migration.objectMeta.ns, config.name⟩ = some pvc) :
    (weather.refusal ≠ none ∧ ∃ result,
      (r.validateClaim s.migration source target).eval (serve weather) s = (.stop result, s)) ∨
    (s.mountReady source.objectMeta.key config.name = true ∧
      s.mountReady target.objectMeta.key config.name = true ∧
      (r.validateClaim s.migration source target).eval (serve weather) s =
        (.next (recorded s config.name).migration, recorded s config.name)) ∨
    ((s.mountReady source.objectMeta.key config.name &&
        s.mountReady target.objectMeta.key config.name) = false ∧ ∃ result reason,
      (r.validateClaim s.migration source target).eval (serve weather) s =
        (.stop result, landed weather (recorded s config.name)
          (if s.clock - pvc.objectMeta.creationTimestamp > migrationMountTimeout then
            failed (recorded s config.name).migration.status reason s.clock
          else mountWaits (recorded s config.name).migration.status reason))) := by
  have hns : ¬ (source.objectMeta.ns ≠ s.migration.objectMeta.ns ∨
      target.objectMeta.ns ≠ s.migration.objectMeta.ns) := by simp [htogether]
  unfold Reconciler.validateClaim
  simp only [hns, if_false]
  rw [eval_bind_of (eval_ensureMigrationPVC hstorage hconfig hnamed hfind)]
  rcases @eval_recordClaim weather s config.name with ⟨hrefusal, err, hrecord, herr⟩ | hrecord
  · left
    rw [eval_bind_of hrecord]
    obtain ⟨_, err | err⟩ := err
    · exact absurd rfl herr
    · exact ⟨hrefusal, _, rfl⟩
  · right
    rw [eval_bind_of hrecord]
    have hready : ∀ key, (recorded s config.name).mountReady key config.name =
        s.mountReady key config.name := fun key =>
      recorded_induct (P := (·.mountReady key config.name = s.mountReady key config.name)) rfl rfl
    have hclock : (recorded s config.name).clock = s.clock :=
      recorded_induct (P := (·.clock = s.clock)) rfl rfl
    have hfound : (recorded s config.name).claims.find
        ⟨(recorded s config.name).migration.objectMeta.ns, config.name⟩ = some pvc :=
      recorded_induct (P := fun s => s.claims.find ⟨s.migration.objectMeta.ns, _⟩ = _) hfind hfind
    rw [← hready source.objectMeta.key, ← hready target.objectMeta.key, ← hclock]
    generalize recorded s config.name = s' at hfound
    obtain ⟨reason, hmounted⟩ :=
      @eval_migrationProvidersMounted weather s' source target config.name
    have hdeadline := @eval_migrationMountDeadlineExceeded weather s' s'.migration config.name pvc
      hfound
    rw [eval_bind_of hmounted]
    cases hboth : s'.mountReady source.objectMeta.key config.name &&
        s'.mountReady target.objectMeta.key config.name with
    | true =>
      rw [Bool.and_eq_true] at hboth
      exact .inl ⟨hboth.1, hboth.2, rfl⟩
    | false =>
      refine .inr ⟨rfl, ?_⟩
      rw [eval_bind_of hdeadline]
      by_cases hexceeded : s'.clock - pvc.objectMeta.creationTimestamp > migrationMountTimeout
      · simp only [decide_eq_true hexceeded, if_pos hexceeded]
        have hfailed := fun message =>
          @eval_transitionToFailed weather s' s'.migration rfl rfl message
        rw [eval_bind]
        exact ⟨_, _, Prod.ext rfl (hfailed _)⟩
      · simp only [decide_eq_false hexceeded, if_neg hexceeded]
        have hwaits := @eval_persist weather s' s'.migration rfl rfl
        rw [eval_bind]
        exact ⟨_, _, Prod.ext rfl (hwaits _ _)⟩

/-- The migration is on its way to the export. -/
def towardsExport (v : VMMigration) : Prop :=
  v.status.phase = .snapshotting ∨ v.status.phase = .exporting

theorem towardsExport_validated (s : Cluster) (status : VMMigrationStatus) (snapshot : Bool) :
    towardsExport (s.write (validated status snapshot)).migration := by
  cases snapshot with
  | false => exact .inr rfl
  | true => exact .inl rfl

section

variable {provider : Provider} (hvm : s.sourceVM.objectMeta.key = sourceKey s.migration)
  (hprovisioned : s.sourceVM.status.id ≠ "")
  (hprovider : s.findProvider (s.sourceVM.spec.providerRef.key s.migration.objectMeta.ns) =
    some provider)
include hvm hprovisioned hprovider

/-- The state of the source is looked up, and a running source is asked to stop. -/
theorem eval_ensureSourcePoweredOff :
    (ensureSourcePoweredOff s.migration).eval (serve weather) s =
      if s.sourcePower = .off then ((s.migration, .ok true), s.patchOff)
      else match weather.refusal with
        | some err => (({ s.migration with status := poweringOff s.migration.status },
            .error err), s.patchOff)
        | none => (((s.patchOff.write (poweringOff s.migration.status)).migration, .ok false),
            s.patchOff.write (poweringOff s.migration.status)) := by
  have hget : (getSourceVM s.migration).eval (serve weather) s = (.ok s.sourceVM, s) := by
    simp [getSourceVM, ask, perform, serve, hvm]
  have hpatch : (desirePowerOff s.sourceVM).eval (serve weather) s =
      (.ok s.patchOff.sourceVM, s.patchOff) := by
    unfold desirePowerOff
    split
    · simp [ask, perform, serve]
    · rename_i hoff
      have hsame : s.patchOff = s := by
        unfold Cluster.patchOff
        rw [← not_not.mp hoff]
      rw [hsame]
      rfl
  have hwrite := @eval_updateStatus weather s.patchOff
    { s.migration with status := poweringOff s.migration.status } rfl rfl
  have hfound : (getProvider s.patchOff.sourceVM.spec.providerRef s.migration.objectMeta.ns).eval
      (serve weather) s.patchOff = (.ok provider, s.patchOff) := by
    have hlookup : s.patchOff.findProvider (s.patchOff.sourceVM.spec.providerRef.key
      s.migration.objectMeta.ns) = some provider := hprovider
    simp [getProvider, ask, perform, serve, hlookup]
  have hinstance : (getProviderInstance provider).eval (serve weather) s.patchOff =
      (none, s.patchOff) := rfl
  have hdescribe : (ask (.describe provider.objectMeta.key s.patchOff.sourceVM.status.id)).eval
      (serve weather) s.patchOff = (.ok { powerState := s.sourcePower }, s.patchOff) := by
    simp [ask, perform, serve]
    rfl
  unfold ensureSourcePoweredOff
  rw [eval_bind_of hget]
  dsimp only
  rw [if_neg hprovisioned, eval_bind_of hpatch]
  rw [eval_bind_of hfound]
  rw [eval_bind_of hinstance]
  rw [eval_bind_of hdescribe]
  dsimp only
  split
  · rfl
  · have hpower : ∃ task, (requestPowerOff provider.objectMeta.key s.patchOff.sourceVM.status.id
        { powerState := s.sourcePower }).eval (serve weather) s.patchOff =
        (.ok task, s.patchOff) := by
      unfold requestPowerOff
      split
      · exact ⟨"", by simp [ask, perform, serve]⟩
      · exact ⟨"", rfl⟩
    obtain ⟨task, hpower⟩ := hpower
    rw [eval_bind_of hpower]
    rw [eval_bind, hwrite]
    cases weather.refusal with
    | none | some err => rfl

/-- The end of validation leaves the phase as it is, or leaves it for the export. -/
theorem eval_finishValidation {s' : Cluster}
    (heq : ((finishValidation s.migration).eval (serve weather) s).2 = s') :
    (s'.migration.status.phase = s.migration.status.phase ∨ towardsExport s'.migration) ∧
      (weather.refusal = none → s.sourcePower = .off → towardsExport s'.migration) := by
  have hcomplete : ∀ s₁ : Cluster, s₁.migration = s.migration →
      ((persist s.migration (validated s.migration.status
        s.migration.spec.source.createSnapshot) .again).eval (serve weather) s₁).2 = s' →
      (s'.migration.status.phase = s.migration.status.phase ∨ towardsExport s'.migration) ∧
        (weather.refusal = none → s.sourcePower = .off → towardsExport s'.migration) := by
    intro s₁ hsame hpersist
    rw [eval_persist (by rw [hsame]) (by rw [hsame]), landed] at hpersist
    subst hpersist
    cases hrefusal : weather.refusal with
    | none =>
      have hleft := towardsExport_validated s₁ s.migration.status
        s.migration.spec.source.createSnapshot
      exact ⟨.inr hleft, fun _ _ => hleft⟩
    | some err => exact ⟨.inl (congrArg (·.status.phase) hsame), nofun⟩
  unfold finishValidation at heq
  split at heq
  · have hpowered := @eval_ensureSourcePoweredOff weather s provider hvm hprovisioned hprovider
    by_cases hpower : s.sourcePower = .off
    · rw [if_pos hpower] at hpowered
      rw [eval_bind_of hpowered] at heq
      exact hcomplete s.patchOff rfl heq
    · rw [if_neg hpower] at hpowered
      refine ⟨.inl ?_, fun _ hoff => absurd hoff hpower⟩
      cases hrefusal : weather.refusal with
      | none =>
        simp only [hrefusal] at hpowered
        rw [eval_bind_of hpowered] at heq
        subst heq
        rfl
      | some err =>
        simp only [hrefusal] at hpowered
        rw [eval_bind_of hpowered] at heq
        have hend := heq.symm.trans (eval_transitionToFailed (s := s.patchOff) rfl rfl _)
        rw [landed, hrefusal] at hend
        rw [hend]
        rfl
  · exact hcomplete s rfl heq

end

end Looks

/-- A migration in good order that stages on the claim: both providers are there and support
the backend, and the source is provisioned. -/
structure Prepared (r : Reconciler) (s : Cluster) (source target : Provider) (claim : String) :
    Prop where
  alive : s.migration.objectMeta.deletionTimestamp = none
  finalized : s.migration.objectMeta.containsFinalizer finalizerName = true
  vm : s.sourceVM.objectMeta.key = sourceKey s.migration
  provisioned : s.sourceVM.status.id ≠ ""
  vmProvider : ∃ provider,
    s.findProvider (s.sourceVM.spec.providerRef.key s.migration.objectMeta.ns) = some provider
  sourceFound : s.findProvider ((sourceProviderRef s.migration s.sourceVM).key
    s.migration.objectMeta.ns) = some source
  targetFound : s.findProvider (s.migration.spec.target.providerRef.key
    s.migration.objectMeta.ns) = some target
  ready : isProviderReady source = true ∧ isProviderReady target = true
  together : source.objectMeta.ns = s.migration.objectMeta.ns ∧
    target.objectMeta.ns = s.migration.objectMeta.ns
  gate : gateMigrationStorageBackend s.migration source target = ""
  storage : ∃ storage config, s.migration.spec.storage = some storage ∧
    r.validateStorageConfig storage = none ∧ migrationBackendType s.migration = backendPVC ∧
    storage.pvc = some config ∧ config.name = claim
  named : claim ≠ ""

section Validating

variable {r : Reconciler} {weather : Weather} {s : Cluster} {source target : Provider}
  {claim : String} {pvc : PersistentVolumeClaim}

theorem Prepared.recorded (h : Prepared r s source target claim) (name : String) :
    Prepared r (recorded s name) source target claim :=
  recorded_induct (P := (Prepared r · source target claim)) h
    ⟨h.alive, h.finalized, h.vm, h.provisioned, h.vmProvider, h.sourceFound, h.targetFound, h.ready,
      h.together, h.gate, h.storage, h.named⟩

/-- How a reconcile can leave a migration that waits for its mounts. -/
structure Waited (weather : Weather) (s : Cluster) (source target : Provider) (claim : String)
    (pvc : PersistentVolumeClaim) (s' : Cluster) : Prop where
  cases : s'.migration.status.phase = .validating ∨
    s.mountReady source.objectMeta.key claim = true ∧
      s.mountReady target.objectMeta.key claim = true ∧ towardsExport s'.migration ∨
    (s.mountReady source.objectMeta.key claim && s.mountReady target.objectMeta.key claim) = false ∧
      s.clock - pvc.objectMeta.creationTimestamp > migrationMountTimeout ∧
      s'.migration.status.phase = .failed
  leaves : weather.refusal = none → s.sourcePower = .off →
    s.mountReady source.objectMeta.key claim = true →
    s.mountReady target.objectMeta.key claim = true → towardsExport s'.migration

/-- Validating is handled by its phase handler. -/
theorem afterReconcile_eq (h : Prepared r s source target claim)
    (hphase : s.migration.status.phase = .validating) :
    afterReconcile r weather s =
      ((r.handleValidatingPhase s.migration).eval (serve weather) s).2 := by
  have hget : (ask (.getMigration s.migration.objectMeta.key)).eval (serve weather) s =
      (.ok s.migration, s) := by simp [ask, perform, serve]
  have hopen : permanentlyFailed s.migration = false := by simp [permanentlyFailed, hphase]
  unfold afterReconcile Reconciler.reconcile
  rw [eval_bind_of hget]
  simp only [h.alive, h.finalized, hphase, hopen, Reconciler.handlePhase]
  rfl

/-- What the handler does after the storage checks. -/
def finish : Flow → M Return
  | .stop result => pure result
  | .next migration => finishValidation migration

/-- Everything before the claim passes. -/
theorem eval_handleValidatingPhase (h : Prepared r s source target claim) :
    (r.handleValidatingPhase s.migration).eval (serve weather) s =
      (r.validateClaim s.migration source target >>= finish).eval (serve weather) s := by
  obtain ⟨storage, config, hstorage, hvalid, hbackend, hconfig, hname⟩ := h.storage
  have hvm : (getSourceVM s.migration).eval (serve weather) s = (.ok s.sourceVM, s) := by
    simp [getSourceVM, ask, perform, serve, h.vm]
  have hsource : (getProvider (sourceProviderRef s.migration s.sourceVM)
      s.migration.objectMeta.ns).eval (serve weather) s = (.ok source, s) := by
    simp [getProvider, ask, perform, serve, h.sourceFound]
  have htarget : (getTargetProvider s.migration).eval (serve weather) s = (.ok target, s) := by
    simp [getTargetProvider, getProvider, ask, perform, serve, h.targetFound]
  have hclaim : r.validateStorage s.migration source target =
      r.validateClaim s.migration source target := by
    unfold Reconciler.validateStorage
    simp only [hstorage, hvalid, hbackend]
    rfl
  unfold Reconciler.handleValidatingPhase
  rw [eval_bind_of hvm]
  dsimp only
  rw [if_neg h.provisioned, eval_bind_of hsource]
  rw [eval_bind_of htarget]
  dsimp only
  rw [if_neg (by simp [h.ready.1]), if_neg (by simp [h.ready.2]), if_neg (by simp [h.gate]),
    ← hclaim]
  exact congrArg (fun rest => (r.validateStorage s.migration source target >>= rest).eval
    (serve weather) s) (funext fun flow => by cases flow <;> rfl)

theorem waited_afterReconcile (h : Prepared r s source target claim)
    (hphase : s.migration.status.phase = .validating)
    (hfind : s.claims.find ⟨s.migration.objectMeta.ns, claim⟩ = some pvc) :
    Waited weather s source target claim pvc (afterReconcile r weather s) := by
  obtain ⟨storage, config, hstorage, -, -, hconfig, rfl⟩ := h.storage
  generalize hafter : afterReconcile r weather s = s'
  rw [afterReconcile_eq h hphase, eval_handleValidatingPhase h] at hafter
  have hrecorded : (recorded s config.name).migration.status.phase = .validating :=
    recorded_induct (P := (·.migration.status.phase = .validating)) hphase hphase
  rcases @eval_validateClaim weather s r source target storage config pvc h.together hstorage
    hconfig h.named hfind with
    ⟨hrefusal, result, hstop⟩ | ⟨hsource, htarget, hnext⟩ | ⟨hwait, result, reason, hstop⟩
  · rw [eval_bind_of hstop] at hafter
    subst hafter
    exact ⟨.inl hphase, fun haccept => absurd haccept hrefusal⟩
  · rw [eval_bind_of hnext] at hafter
    have hrec := h.recorded config.name
    obtain ⟨provider, hprovider⟩ := hrec.vmProvider
    have hpower : (recorded s config.name).sourcePower = s.sourcePower :=
      recorded_induct (P := (·.sourcePower = s.sourcePower)) rfl rfl
    obtain ⟨hphases, hleaves⟩ := eval_finishValidation hrec.vm hrec.provisioned hprovider hafter
    refine ⟨?_, fun haccept hoff _ _ => hleaves haccept (hpower.trans hoff)⟩
    rcases hphases with hsame | hleft
    · exact .inl (hsame.trans hrecorded)
    · exact .inr (.inl ⟨hsource, htarget, hleft⟩)
  · rw [eval_bind_of hstop] at hafter
    refine ⟨?_, fun _ _ hsource htarget => by simp [hsource, htarget] at hwait⟩
    subst hafter
    unfold landed
    split
    · exact .inl hrecorded
    · by_cases hexceeded : s.clock - pvc.objectMeta.creationTimestamp > migrationMountTimeout
      · rw [if_pos hexceeded]
        exact .inr (.inr ⟨hwait, hexceeded, rfl⟩)
      · rw [if_neg hexceeded]
        exact .inl hrecorded

end Validating

end Virtrigaud.Migration.Mounting
