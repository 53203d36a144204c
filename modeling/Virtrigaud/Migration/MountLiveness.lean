import Virtrigaud.Migration.Mounting

/-!
# The wait comes to its end

The claim is mounted by a chain of steps that belong to other controllers: the Provider
controller writes the template, the Deployment controller rolls the pods. Each link of the chain
stays once it is made, as long as the claims do not change, so in a fair run all of them are
made at last, and the next reconcile of the migration leaves Validating.
-/

namespace Virtrigaud.Migration.Mounting

open Effects Program Virtrigaud.Runtime Machine.Execution List

variable {a : Action} {key : ObjectKey}

section Keeping

variable {r : Reconciler} {s s' : Cluster} {source target : Provider} {claim : String}

/-- Nothing but the status of the migration and the desired power state of the source differs. -/
def Unmoved (s s' : Cluster) : Prop :=
  ∃ version status power, s' = { s with
    migration := { s.migration with
      status := status
      objectMeta := { s.migration.objectMeta with resourceVersion := version } }
    sourceVM := { s.sourceVM with spec := { s.sourceVM.spec with powerState := power } } }

theorem serve_state (weather : Weather) (s : Cluster) (c : Call) :
    (serve weather s c).2 = s ∨ (∃ status, (serve weather s c).2 = s.write status) ∨
      (serve weather s c).2 = s.patchOff := by
  unfold serve
  split
  case h_2 =>
    split
    · exact .inl rfl
    · split
      · exact .inr (.inl ⟨_, rfl⟩)
      · exact .inl rfl
  case h_4 =>
    split
    · exact .inr (.inr rfl)
    · exact .inl rfl
  all_goals
    first
    | exact .inl rfl
    | (split <;> exact .inl rfl)

theorem unmoved_afterReconcile (r : Reconciler) (weather : Weather) (s : Cluster) :
    Unmoved s (afterReconcile r weather s) := by
  have hstart : Unmoved s s := ⟨_, _, _, rfl⟩
  refine eval_keeps (I := Unmoved s) (fun s₁ c hs₁ => ?_) _ hstart
  obtain ⟨version, status, power, rfl⟩ := hs₁
  rcases serve_state weather _ c with hsame | ⟨status, hwrite⟩ | hpatch
  · rw [hsame]
    exact ⟨_, _, _, rfl⟩
  · rw [hwrite]
    exact ⟨_, _, _, rfl⟩
  · rw [hpatch]
    exact ⟨_, _, _, rfl⟩

theorem deploymentKey_inj {key' : ObjectKey} (h : deploymentKey key = deploymentKey key') :
    key = key' := by
  obtain ⟨ns, name⟩ := key
  obtain ⟨ns', name'⟩ := key'
  simp only [deploymentKey, ObjectKey.mk.injEq] at h
  obtain ⟨rfl, hname⟩ := h
  rw [String.append_right_inj] at hname
  rw [hname]

theorem setDeployment_self (s : Cluster) (key : ObjectKey)
    (deployment : ProviderDeployment) :
    (s.setDeployment key deployment).deployments key = some deployment := if_pos rfl

theorem setDeployment_other {key' : ObjectKey} (hne : key ≠ key')
    (deployment : ProviderDeployment) :
    (s.setDeployment (deploymentKey key') deployment).deployments
      (deploymentKey key) = s.deployments (deploymentKey key) :=
  if_neg fun heq => hne (deploymentKey_inj heq)

/-- What a step makes of the Deployment of a Provider and of its pods. -/
inductive Deploys (s : Cluster) (key : ObjectKey) :
    Option ProviderDeployment → List Pod → Prop
  | kept : Deploys s key (s.deployments (deploymentKey key)) (s.pods key)
  | applied {provider : Provider} : s.findProvider key = some provider →
      Deploys s key (some (applied provider (s.runtime key)
        (s.claims.discovered provider.objectMeta.ns) (s.deployments (deploymentKey key))))
        (s.pods key)
  | started {deployment : ProviderDeployment} :
      s.deployments (deploymentKey key) = some deployment →
      s.pods key ≠ podsOf deployment →
      Deploys s key (some { deployment with updatedReplicas := 0 }) (s.pods key)
  | finished {deployment : ProviderDeployment} :
      s.deployments (deploymentKey key) = some deployment →
      Deploys s key (some (rolledOut deployment)) (podsOf deployment)

/-- What a step leaves alone. Only the migration controller writes the migration, and only its
status; of the source it writes the desired power state. -/
structure Framed (a : Action) (s s' : Cluster) : Prop where
  migration : ∃ status version, s'.migration = { s.migration with
    status := status
    objectMeta := { s.migration.objectMeta with resourceVersion := version } }
  sourceVM : ∃ power,
    s'.sourceVM = { s.sourceVM with spec := { s.sourceVM.spec with powerState := power } }
  providers : s'.providers = s.providers
  runtime : s'.runtime = s.runtime
  deploys : ∀ key, Deploys s key (s'.deployments (deploymentKey key)) (s'.pods key)
  off : s.sourcePower = .off → s'.sourcePower = .off
  claims : (∀ claims, a ≠ .changeClaims claims) → s'.claims = s.claims
  clock : (∀ elapsed, a ≠ .tick elapsed) → s'.clock = s.clock
  others : (∀ weather, a ≠ .reconcileMigration weather) → s'.migration = s.migration

theorem Framed.refl (a : Action) (s : Cluster) : Framed a s s :=
  ⟨⟨_, _, rfl⟩, ⟨_, rfl⟩, rfl, rfl, fun _ => .kept, id, fun _ => rfl, fun _ => rfl, fun _ => rfl⟩

theorem step_framed (hstep : machine r s a = some s') : Framed a s s' := by
  cases a with
  | tick elapsed =>
    cases hstep
    exact { Framed.refl _ s with clock := fun h => absurd rfl (h elapsed) }
  | changeClaims claims =>
    cases hstep
    exact { Framed.refl _ s with claims := fun h => absurd rfl (h claims) }
  | reconcileProvider other =>
    cases hstep
    unfold afterProviderReconcile
    split
    · exact .refl _ s
    rename_i provider hfind
    have hother : provider.objectMeta.key = other := by simpa using find?_some hfind
    rw [eval_reconcileDeployment, hother]
    split
    · refine { Framed.refl _ s with deploys := fun key => ?_ }
      by_cases hkey : key = other
      · subst hkey
        rw [setDeployment_self]
        exact .applied hfind
      · rw [setDeployment_other hkey]
        exact .kept
    · exact .refl _ s
  | startRollout other =>
    cases hstep
    unfold afterRolloutStart
    split
    · exact .refl _ s
    split
    · exact .refl _ s
    · refine { Framed.refl _ s with deploys := fun key => ?_ }
      by_cases hkey : key = other
      · subst hkey
        rw [setDeployment_self]
        exact .started ‹_› ‹_›
      · rw [setDeployment_other hkey]
        exact .kept
  | finishRollout other =>
    cases hstep
    unfold afterRollout
    split
    · exact .refl _ s
    · refine { Framed.refl _ s with deploys := fun key => ?_ }
      by_cases hkey : key = other
      · subst hkey
        simp only [setDeployment_self, if_true]
        exact .finished ‹_›
      · simp only [setDeployment_other hkey, if_neg hkey]
        exact .kept
  | stopSource =>
    cases hstep
    exact { Framed.refl _ s with off := fun _ => rfl }
  | reconcileMigration weather =>
    cases hstep
    obtain ⟨version, status, power, heq⟩ := unmoved_afterReconcile r weather s
    rw [heq]
    exact { Framed.refl _ s with
      migration := ⟨_, _, rfl⟩, sourceVM := ⟨_, rfl⟩, others := fun h => absurd rfl (h weather) }

theorem Prepared.step (h : Prepared r s source target claim) (hstep : machine r s a = some s') :
    Prepared r s' source target claim := by
  have hframed := step_framed hstep
  obtain ⟨clock, migration, sourceVM, power, providers, runtime, claims, deployments, pods⟩ := s'
  obtain ⟨⟨_, _, rfl⟩, ⟨_, rfl⟩, rfl, rfl, -⟩ := hframed
  exact ⟨h.alive, h.finalized, h.vm, h.provisioned, h.vmProvider, h.sourceFound, h.targetFound,
    h.ready, h.together, h.gate, h.storage, h.named⟩

end Keeping

variable {pvc : PersistentVolumeClaim}

section Links

variable {r : Reconciler} {s s' : Cluster} {provider : Provider}

/-- The Deployment has the template that belongs to the claims. -/
structure Desired (provider : Provider) (spec : RuntimeSpec) (claims : Claims)
    (deployment : ProviderDeployment) : Prop where
  replicas : deployment.replicas = spec.replicas.getD 1
  template : deployment.template =
    podTemplate provider spec (claims.discovered provider.objectMeta.ns)

/-- The Provider controller has seen the claims. -/
def Current (s : Cluster) (provider : Provider) : Prop :=
  ∃ deployment, s.deployments (deploymentKey provider.objectMeta.key) = some deployment ∧
    Desired provider (s.runtime provider.objectMeta.key) s.claims deployment

/-- The pods have the template as well. -/
def Rolled (s : Cluster) (provider : Provider) : Prop :=
  ∃ deployment, s.deployments (deploymentKey provider.objectMeta.key) =
      some (rolledOut deployment) ∧
    Desired provider (s.runtime provider.objectMeta.key) s.claims deployment ∧
    s.pods provider.objectMeta.key = podsOf deployment

/-- The Provider is there, and the API server accepts its template. -/
structure Deployable (s : Cluster) (provider : Provider) : Prop where
  found : s.findProvider provider.objectMeta.key = some provider
  valid : (podTemplate provider (s.runtime provider.objectMeta.key)
    (s.claims.discovered provider.objectMeta.ns)).valid = true

theorem current_afterProviderReconcile (h : Deployable s provider) :
    Current (afterProviderReconcile s provider.objectMeta.key) provider := by
  unfold afterProviderReconcile
  rw [h.found]
  dsimp only
  rw [eval_reconcileDeployment, if_pos h.valid]
  exact ⟨_, setDeployment_self _ _ _, rfl, rfl⟩

/-- Once the template is there it stays, while the claims do not change. -/
theorem Current.step (h : Current s provider) (hdeployable : Deployable s provider)
    (hclaims : s'.claims = s.claims) (hstep : machine r s a = some s') : Current s' provider := by
  obtain ⟨old, hold, hdesired⟩ := h
  have hdeploys := (step_framed hstep).deploys provider.objectMeta.key
  unfold Current
  rw [(step_framed hstep).runtime, hclaims]
  generalize s'.deployments _ = deployment, s'.pods _ = pods at hdeploys
  cases hdeploys with
  | kept => exact ⟨old, hold, hdesired⟩
  | applied hfind =>
    obtain rfl := Option.some.inj (hdeployable.found.symm.trans hfind)
    exact ⟨_, rfl, rfl, rfl⟩
  | started hget | finished hget =>
    cases hget.symm.trans hold
    exact ⟨_, rfl, hdesired.1, hdesired.2⟩

theorem rolled_afterRollout (h : Current s provider) :
    Rolled (afterRollout s provider.objectMeta.key) provider := by
  obtain ⟨deployment, hget, hdesired⟩ := h
  unfold afterRollout
  rw [hget]
  exact ⟨deployment, setDeployment_self s _ _, hdesired, if_pos rfl⟩

/-- A finished rollout stays finished, while the claims do not change. -/
theorem Rolled.step (h : Rolled s provider) (hdeployable : Deployable s provider)
    (hclaims : s'.claims = s.claims) (hstep : machine r s a = some s') : Rolled s' provider := by
  obtain ⟨old, hold, hdesired, hpods⟩ := h
  have hdeploys := (step_framed hstep).deploys provider.objectMeta.key
  unfold Rolled
  rw [(step_framed hstep).runtime, hclaims]
  generalize s'.deployments _ = deployment, s'.pods _ = pods at hdeploys
  cases hdeploys with
  | kept => exact ⟨old, hold, hdesired, hpods⟩
  | applied hfind =>
    obtain rfl := Option.some.inj (hdeployable.found.symm.trans hfind)
    -- The same template again, over the status of the finished rollout.
    have hsame : applied provider (s.runtime provider.objectMeta.key)
        (s.claims.discovered provider.objectMeta.ns) (some (rolledOut old)) = rolledOut old := by
      unfold applied rolledOut
      rw [← hdesired.replicas, ← hdesired.template]
      rfl
    rw [hold, hsame]
    exact ⟨old, rfl, hdesired, hpods⟩
  | started hget hstale =>
    obtain rfl := Option.some.inj (hget.symm.trans hold)
    exact absurd hpods hstale
  | finished hget =>
    obtain rfl := Option.some.inj (hget.symm.trans hold)
    exact ⟨old, rfl, hdesired, rfl⟩

/-- The migration controller sees the end of the rollout. -/
theorem mountReady_of_rolled (h : Rolled s provider)
    (hreplicas : 1 ≤ (s.runtime provider.objectMeta.key).replicas.getD 1)
    (hpvc : pvc ∈ s.claims.discovered provider.objectMeta.ns) :
    s.mountReady provider.objectMeta.key pvc.objectMeta.name = true := by
  obtain ⟨deployment, hget, hdesired, hpods⟩ := h
  have hclaim : (viewed deployment).claims.contains pvc.objectMeta.name = true := by
    rw [contains_iff_mem]
    unfold viewed
    rw [hdesired.template, podTemplate_claims]
    exact mem_map_of_mem hpvc
  have hpositive : deployment.replicas.toNat ≠ 0 := by
    have := hdesired.replicas
    omega
  unfold Cluster.mountReady
  rw [hget, Option.any_some, hpods]
  have hcount : decide ((rolledOut deployment).replicas ≤ (rolledOut deployment).updatedReplicas ∧
      (rolledOut deployment).replicas ≤ (rolledOut deployment).readyReplicas) = true :=
    decide_eq_true ⟨Int.le_refl _, Int.le_refl _⟩
  have hview : (viewed (rolledOut deployment)).claims = (viewed deployment).claims := rfl
  rw [hcount, hview, hclaim]
  simp only [podsOf, any_replicate, hpositive, if_false, Bool.not_false, Bool.true_and,
    Bool.and_true]
  rw [hclaim]
  rfl

end Links

/-- The claim carries the label and is not being deleted, and the pods of its namespace can
mount it: the claims that are discovered have names that make names of volumes. -/
structure Mountable (s : Cluster) (claim : String) : Prop where
  discovered : ∃ pvc ∈ s.claims.discovered s.migration.objectMeta.ns, pvc.objectMeta.name = claim
  labels : ∀ pvc ∈ s.claims.discovered s.migration.objectMeta.ns,
    isDNSLabel (volumeName pvc) = true

theorem discovered_distinct (claims : Claims) (ns : String) :
    ((claims.discovered ns).map (·.objectMeta.name)).Nodup := by
  have hkeys : ((claims.discovered ns).map (·.objectMeta.key)).Nodup :=
    claims.distinct.sublist ((filter_sublist.trans filter_sublist).map _)
  have hsame : (claims.discovered ns).map (·.objectMeta.key) =
      ((claims.discovered ns).map (·.objectMeta.name)).map (ObjectKey.mk ns) := by
    rw [map_map]
    refine map_congr_left fun pvc hpvc => ?_
    have hns := (mem_filter.mp (mem_filter.mp hpvc).1).2
    simp only [decide_eq_true_eq] at hns
    exact congrArg (ObjectKey.mk · pvc.objectMeta.name) hns.1
  exact (hsame ▸ hkeys).of_map _

theorem find_of_discovered {claims : Claims} {ns : String} (h : pvc ∈ claims.discovered ns) :
    claims.find ⟨ns, pvc.objectMeta.name⟩ = some pvc := by
  obtain ⟨hitem, hselected⟩ := mem_filter.mp (mem_filter.mp h).1
  simp only [decide_eq_true_eq] at hselected
  have hkey : pvc.objectMeta.key = ⟨ns, pvc.objectMeta.name⟩ :=
    congrArg (ObjectKey.mk · pvc.objectMeta.name) hselected.1
  unfold Claims.find
  cases hfound : claims.items.find? (·.objectMeta.key = ⟨ns, pvc.objectMeta.name⟩) with
  | none => exact absurd hkey (by simpa using find?_eq_none.mp hfound pvc hitem)
  | some found =>
    have hfoundKey : found.objectMeta.key = ⟨ns, pvc.objectMeta.name⟩ := by
      simpa using find?_some hfound
    have hsame := inj_on_of_nodup_map claims.distinct (mem_of_find?_eq_some hfound) hitem
      (hfoundKey.trans hkey.symm)
    rw [hsame]

/-- All controllers keep running, the source stops when it is asked to, and the claims of the
cluster change only finitely often. -/
structure Fair {r : Reconciler} (e : Machine.Execution (machine r)) (source target : ObjectKey) :
    Prop where
  providers : ∀ key, key = source ∨ key = target → e.often (· = .reconcileProvider key)
  rollouts : ∀ key, key = source ∨ key = target → e.often (· = .finishRollout key)
  stops : e.often (· = .stopSource)
  migrations : e.often fun a => ∃ weather, a = .reconcileMigration weather ∧ weather.refusal = none
  quiet : ∃ n, ∀ k, n ≤ k → (e.state (k + 1)).claims = (e.state k).claims

variable {s : Cluster}

section Runs

variable {r : Reconciler} {e : Machine.Execution (machine r)} {source target : Provider}
  {claim : String} {n : Nat}

/-- The migration has been in Validating since the run began. -/
def Waiting (e : Machine.Execution (machine r)) (n : Nat) : Prop :=
  ∀ k, k ≤ n → (e.state k).migration.status.phase = .validating

/-- Both providers mount the claim while it is not older than the deadline allows. -/
def Prompt (e : Machine.Execution (machine r)) (source target : Provider) (claim : String) : Prop :=
  ∀ n pvc, Waiting e n → (∃ weather, e.action n = .reconcileMigration weather) →
    (e.state n).claims.find ⟨(e.state n).migration.objectMeta.ns, claim⟩ = some pvc →
    (e.state n).clock - pvc.objectMeta.creationTimestamp > migrationMountTimeout →
    (e.state n).mountReady source.objectMeta.key claim = true ∧
      (e.state n).mountReady target.objectMeta.key claim = true

theorem prepared_always (hstart : Prepared r (e.state 0) source target claim) (n : Nat) :
    Prepared r (e.state n) source target claim :=
  stays (P := fun s => Prepared r s source target claim) hstart
    (fun k _ h => h.step (e.step k)) n.zero_le

theorem state_succ {weather : Weather} (haction : e.action n = .reconcileMigration weather) :
    afterReconcile r weather (e.state n) = e.state (n + 1) :=
  Option.some.inj (step_of_action haction)

/-- A step of the wait, or its end. -/
theorem waits_or_leaves (hstart : Prepared r (e.state 0) source target claim)
    (hmountable : ∀ n, Mountable (e.state n) claim) (hprompt : Prompt e source target claim)
    (hwaiting : Waiting e n) :
    (e.state (n + 1)).migration.status.phase = .validating ∨
      Mounts (e.state n) source.objectMeta.key claim ∧
        Mounts (e.state n) target.objectMeta.key claim ∧
        towardsExport (e.state (n + 1)).migration := by
  have hphase := hwaiting n n.le_refl
  by_cases hreconciles : ∃ weather, e.action n = .reconcileMigration weather
  · obtain ⟨weather, haction⟩ := hreconciles
    obtain ⟨pvc, hpvc, hname⟩ := (hmountable n).discovered
    have hfind : (e.state n).claims.find ⟨(e.state n).migration.objectMeta.ns, claim⟩ = some pvc :=
      hname ▸ find_of_discovered hpvc
    have hwaited := @waited_afterReconcile r weather (e.state n) source target claim pvc
      (prepared_always hstart n) hphase hfind
    rw [state_succ haction] at hwaited
    rcases hwaited.cases with hstays | ⟨hsource, htarget, hleft⟩ | ⟨hwait, hold, -⟩
    · exact .inl hstays
    · exact .inr ⟨mounts_of_mountReady hsource, mounts_of_mountReady htarget, hleft⟩
    · obtain ⟨hsource, htarget⟩ := hprompt n pvc hwaiting ⟨weather, haction⟩ hfind hold
      rw [hsource, htarget] at hwait
      cases hwait
  · rw [(step_framed (e.step n)).others (not_exists.mp hreconciles)]
    exact .inl hphase

variable {provider : Provider}

/-- A Provider that is reconciled and rolled again and again mounts the claims at last. -/
theorem rolled_at_last (hdeployable : ∀ n, Deployable (e.state n) provider)
    (hreconciles : e.often (· = .reconcileProvider provider.objectMeta.key))
    (hrollouts : e.often (· = .finishRollout provider.objectMeta.key))
    (hquiet : ∀ k, n ≤ k → (e.state (k + 1)).claims = (e.state k).claims) :
    ∃ N, n ≤ N ∧ ∀ k, N ≤ k → Rolled (e.state k) provider := by
  obtain ⟨N, hN, hcurrent⟩ := eventually_always
    (P := fun s => Current s provider) hreconciles
    (fun k _ haction => Option.some.inj (step_of_action haction) ▸
      current_afterProviderReconcile (hdeployable k))
    (fun k hk h => h.step (hdeployable k) (hquiet k hk) (e.step k))
  obtain ⟨N', hN', hrolled⟩ := eventually_always
    (P := fun s => Rolled s provider) hrollouts
    (fun k hk haction => Option.some.inj (step_of_action haction) ▸
      rolled_afterRollout (hcurrent k hk))
    (fun k hk h => h.step (hdeployable k) (hquiet k (hN.trans hk)) (e.step k))
  exact ⟨N', hN.trans hN', hrolled⟩

theorem off_at_last (hstops : e.often (· = .stopSource)) :
    ∃ N, ∀ k, N ≤ k → (e.state k).sourcePower = .off := by
  obtain ⟨N, -, hoff⟩ := eventually_always (n := 0)
    (P := fun s => s.sourcePower = .off) hstops
    (fun k _ haction => Option.some.inj (step_of_action haction) ▸ rfl)
    (fun k _ h => (step_framed (e.step k)).off h)
  exact ⟨N, hoff⟩

theorem runtime_always (n : Nat) : (e.state n).runtime = (e.state 0).runtime :=
  stays (P := fun s : Cluster => s.runtime = (e.state 0).runtime) rfl
    (fun k _ h => (step_framed (e.step k)).runtime.trans h) n.zero_le

theorem findProvider_self (h : s.findProvider key = some provider) :
    s.findProvider provider.objectMeta.key = some provider := by
  have hkey : provider.objectMeta.key = key := by simpa using find?_some h
  rw [hkey, h]

/-- A Provider of the migration's namespace. -/
theorem mountReady_at_last
    (hfind : ∀ n, (e.state n).findProvider provider.objectMeta.key = some provider)
    (hns : ∀ n, provider.objectMeta.ns = (e.state n).migration.objectMeta.ns)
    (hreplicas : 1 ≤ ((e.state 0).runtime provider.objectMeta.key).replicas.getD 1)
    (hmountable : ∀ n, Mountable (e.state n) claim)
    (hreconciles : e.often (· = .reconcileProvider provider.objectMeta.key))
    (hrollouts : e.often (· = .finishRollout provider.objectMeta.key))
    (hquiet : ∃ n, ∀ k, n ≤ k → (e.state (k + 1)).claims = (e.state k).claims) :
    ∃ N, ∀ k, N ≤ k → (e.state k).mountReady provider.objectMeta.key claim = true := by
  have hdeployable : ∀ n, Deployable (e.state n) provider := by
    intro n
    refine ⟨hfind n, podTemplate_valid _ _ (discovered_distinct _ _) ?_⟩
    rw [hns n]
    exact (hmountable n).labels
  obtain ⟨n, hquiet⟩ := hquiet
  obtain ⟨N, -, hrolled⟩ := rolled_at_last hdeployable hreconciles hrollouts hquiet
  refine ⟨N, fun k hk => ?_⟩
  obtain ⟨pvc, hpvc, rfl⟩ := (hmountable k).discovered
  rw [← hns k] at hpvc
  exact mountReady_of_rolled (hrolled k hk) (runtime_always (e := e) k ▸ hreplicas) hpvc

/-- In a fair run of all controllers, with a claim that can be mounted and is mounted before it
is older than the deadline, the wait ends with both mounts and never in a failure. -/
theorem wait_ends_with_both_mounts (r : Reconciler) (e : Machine.Execution (machine r))
    {source target : Provider} {claim : String}
    (hstart : Prepared r (e.state 0) source target claim)
    (hphase : (e.state 0).migration.status.phase = .validating)
    (hsource : 1 ≤ ((e.state 0).runtime source.objectMeta.key).replicas.getD 1)
    (htarget : 1 ≤ ((e.state 0).runtime target.objectMeta.key).replicas.getD 1)
    (hfair : Fair e source.objectMeta.key target.objectMeta.key)
    (hmountable : ∀ n, Mountable (e.state n) claim) (hprompt : Prompt e source target claim) :
    (∀ n, Waiting e n → (e.state (n + 1)).migration.status.phase ≠ .failed) ∧
      ∃ n, Waiting e n ∧ Mounts (e.state n) source.objectMeta.key claim ∧
        Mounts (e.state n) target.objectMeta.key claim ∧
        towardsExport (e.state (n + 1)).migration := by
  have hprepared := prepared_always hstart
  refine ⟨fun n hwaiting hfailed => ?_, ?_⟩
  · rcases waits_or_leaves hstart hmountable hprompt hwaiting with hstays | ⟨-, -, hleft⟩
    · rw [hfailed] at hstays
      cases hstays
    · rcases hleft with hleft | hleft <;> (rw [hfailed] at hleft; cases hleft)
  by_cases hall : ∀ n, (e.state n).migration.status.phase = .validating
  · -- The mounts are there at last, and then a reconcile does not stay.
    exfalso
    obtain ⟨N₁, hmounted₁⟩ :=
      mountReady_at_last (fun n => findProvider_self (hprepared n).sourceFound)
      (fun n => (hprepared n).together.1) hsource hmountable (hfair.providers _ (.inl rfl))
      (hfair.rollouts _ (.inl rfl)) hfair.quiet
    obtain ⟨N₂, hmounted₂⟩ :=
      mountReady_at_last (fun n => findProvider_self (hprepared n).targetFound)
      (fun n => (hprepared n).together.2) htarget hmountable (hfair.providers _ (.inr rfl))
      (hfair.rollouts _ (.inr rfl)) hfair.quiet
    obtain ⟨N₃, hoff⟩ := off_at_last hfair.stops
    obtain ⟨k, hk, weather, haction, haccept⟩ := hfair.migrations (max N₁ (max N₂ N₃))
    obtain ⟨pvc, hpvc, hname⟩ := (hmountable k).discovered
    have hwaited := @waited_afterReconcile r weather (e.state k) source target claim pvc
      (hprepared k) (hall k) (hname ▸ find_of_discovered hpvc)
    have hleft := hwaited.leaves haccept (hoff k (by omega)) (hmounted₁ k (by omega))
      (hmounted₂ k (by omega))
    rw [state_succ haction] at hleft
    rcases hleft with hleft | hleft <;> (rw [hall (k + 1)] at hleft; cases hleft)
  · obtain ⟨n, hn⟩ := not_forall.mp hall
    obtain ⟨k, -, hwaiting, hout⟩ := exists_leaving
      (P := fun s : Cluster => s.migration.status.phase = .validating) hphase hn
    rcases waits_or_leaves hstart hmountable hprompt hwaiting with hstays | hleft
    · exact absurd hstays hout
    · exact ⟨k, hwaiting, hleft⟩

end Runs

namespace Sample

def reconciler : Reconciler where
  validateS3Endpoint _ := none
  validateHost _ := none
  marshalS3Options _ := .ok ""
  marshalNFSOptions _ := .ok ""
  nfsURL _ _ := .ok ""
  parseQuantity _ := none

/-- Whatever else is asked for fails. -/
def failing (c : Call) : Answer c := by
  cases c
  all_goals first
    | exact .error (errorf "unavailable")
    | exact some (errorf "unavailable")
    | exact default

def calm : Weather := { others := failing }

def provider (name : String) : Provider where
  objectMeta := { name, ns := "vms" }
  conditions := [⟨"ProviderAvailable", .conditionTrue, "", ""⟩]

def migration : VMMigration where
  objectMeta := { name := "move", ns := "vms", finalizers := [finalizerName] }
  spec := {
    source := { vmRef := ⟨"web"⟩ }
    target := { name := "web", providerRef := { name := "prod" } }
    storage := some { type := "pvc", pvc := some { name := "scratch" } } }
  status := { phase := .validating }

/-- A claim from the beginning of time. -/
def scratch (labels : StringMap) : PersistentVolumeClaim where
  objectMeta := { name := "scratch", ns := "vms", labels }

/-- Nothing is deployed yet, and the claim is as old as the clock shows. -/
def start (clock : Time) (labels : StringMap) : Cluster where
  clock := clock
  migration := migration
  sourceVM := {
    objectMeta := { name := "web", ns := "vms" }
    spec := { providerRef := { name := "lab" } }
    status := { id := "vm-1" } }
  sourcePower := .on
  providers := [provider "lab", provider "prod"]
  runtime _ := {}
  claims := ⟨[scratch labels], nodup_singleton _⟩
  deployments _ := none
  pods _ := []

def label : StringMap := [("virtrigaud.io/component", "migration-storage")]

/-- All controllers by turns. -/
def turns (n : Nat) : Action :=
  match n % 6 with
  | 0 => .reconcileProvider ⟨"vms", "lab"⟩
  | 1 => .reconcileProvider ⟨"vms", "prod"⟩
  | 2 => .finishRollout ⟨"vms", "lab"⟩
  | 3 => .finishRollout ⟨"vms", "prod"⟩
  | 4 => .stopSource
  | _ => .reconcileMigration calm

def next (s : Cluster) (a : Action) : Cluster := (machine reconciler s a).getD s

theorem machine_total (s : Cluster) (a : Action) : machine reconciler s a = some (next s a) := by
  cases a <;> rfl

def run : Machine.Execution (machine reconciler) :=
  .follow next machine_total (start 0 label) turns

theorem prepared_start (clock : Time) (labels : StringMap) :
    Prepared reconciler (start clock labels) (provider "lab") (provider "prod") "scratch" where
  alive := rfl
  finalized := rfl
  vm := rfl
  provisioned := (by decide : "vm-1" ≠ "")
  vmProvider := ⟨provider "lab", rfl⟩
  sourceFound := rfl
  targetFound := rfl
  ready := ⟨rfl, rfl⟩
  together := ⟨rfl, rfl⟩
  gate := rfl
  storage := ⟨_, _, rfl, rfl, rfl, rfl, rfl⟩
  named := by decide

theorem turns_often (i : Nat) (hi : i < 6) (h : turns i = a) : run.often (· = a) := by
  intro n
  refine ⟨6 * n + i, by omega, ?_⟩
  have hmod : (6 * n + i) % 6 = i % 6 := by omega
  change turns (6 * n + i) = a
  rw [← h]
  unfold turns
  rw [hmod]

theorem turns_quiet (n : Nat) :
    (∀ claims, turns n ≠ .changeClaims claims) ∧ ∀ elapsed, turns n ≠ .tick elapsed := by
  unfold turns
  split <;> exact ⟨nofun, nofun⟩

theorem run_fair : Fair run ⟨"vms", "lab"⟩ ⟨"vms", "prod"⟩ where
  providers key hkey := by
    rcases hkey with rfl | rfl
    · exact turns_often 0 (by decide) rfl
    · exact turns_often 1 (by decide) rfl
  rollouts key hkey := by
    rcases hkey with rfl | rfl
    · exact turns_often 2 (by decide) rfl
    · exact turns_often 3 (by decide) rfl
  stops := turns_often 4 (by decide) rfl
  migrations n := by
    obtain ⟨k, hk, haction⟩ := turns_often 5 (by decide) rfl n
    exact ⟨k, hk, calm, haction, rfl⟩
  quiet := ⟨0, fun k _ => (step_framed (run.step k)).claims (turns_quiet k).1⟩

theorem run_claims (n : Nat) : (run.state n).claims = (start 0 label).claims :=
  stays (P := fun s : Cluster => s.claims = (start 0 label).claims) rfl
    (fun k _ h => ((step_framed (run.step k)).claims (turns_quiet k).1).trans h) n.zero_le

theorem run_clock (n : Nat) : (run.state n).clock = 0 :=
  stays (P := fun s : Cluster => s.clock = 0) rfl
    (fun k _ h => ((step_framed (run.step k)).clock (turns_quiet k).2).trans h) n.zero_le

theorem run_ns (n : Nat) : (run.state n).migration.objectMeta.ns = "vms" := by
  have hprepared := prepared_always (e := run) (prepared_start 0 label) n
  exact hprepared.together.1.symm

theorem run_mountable (n : Nat) : Mountable (run.state n) "scratch" := by
  have hstart : Mountable (start 0 label) "scratch" :=
    ⟨⟨scratch label, by decide, rfl⟩, by decide⟩
  constructor
  · rw [run_claims, run_ns]
    exact hstart.discovered
  · rw [run_claims, run_ns]
    exact hstart.labels

theorem run_prompt : Prompt run (provider "lab") (provider "prod") "scratch" := by
  intro n pvc _ _ hfind hold
  rw [run_claims, run_ns] at hfind
  rw [run_clock] at hold
  have hpvc : (start 0 label).claims.find ⟨"vms", "scratch"⟩ = some (scratch label) := rfl
  obtain rfl := Option.some.inj (hpvc.symm.trans hfind)
  exact absurd hold (by decide)

end Sample

open Mounting.Sample

theorem wait_ends_with_both_mounts_sample :
    ∃ n, towardsExport (run.state n).migration := by
  obtain ⟨-, n, -, -, -, hleft⟩ := wait_ends_with_both_mounts reconciler run
    (prepared_start 0 label) rfl (by decide) (by decide) run_fair
    run_mountable run_prompt
  exact ⟨n + 1, hleft⟩

section Unlabelled

variable {r : Reconciler} {s s' : Cluster} {claim : String}

/-- No template and no pod has the claim. -/
def Unmounted (s : Cluster) (claim : String) : Prop :=
  ∀ key, (∀ deployment ∈ s.deployments (deploymentKey key),
      claim ∉ (viewed deployment).claims) ∧ ∀ pod ∈ s.pods key, claim ∉ pod.claims

/-- What is not discovered is mounted by no step. -/
theorem Unmounted.step (h : Unmounted s claim)
    (hhidden : ∀ ns, ∀ pvc ∈ s.claims.discovered ns, pvc.objectMeta.name ≠ claim)
    (hstep : machine r s a = some s') : Unmounted s' claim := by
  intro key
  have hdeploys := (step_framed hstep).deploys key
  generalize s'.deployments _ = deployment, s'.pods _ = pods at hdeploys
  cases hdeploys with
  | kept => exact h key
  | applied =>
    refine ⟨?_, (h key).2⟩
    rintro _ ⟨⟩ hmem
    unfold viewed applied at hmem
    rw [podTemplate_claims] at hmem
    obtain ⟨pvc, hpvc, hname⟩ := mem_map.mp hmem
    exact hhidden _ pvc hpvc hname
  | @started deployment hget =>
    refine ⟨?_, (h key).2⟩
    rintro _ ⟨⟩
    exact (h key).1 deployment hget
  | @finished deployment hget =>
    refine ⟨?_, fun pod hpod => ?_⟩
    · rintro _ ⟨⟩
      exact (h key).1 deployment hget
    · rw [eq_of_mem_replicate hpod]
      exact (h key).1 deployment hget

theorem not_mounts_of_unmounted (h : Unmounted s claim) (key : ObjectKey) :
    ¬ Mounts s key claim := by
  rintro ⟨pod, hpod, -, -, hclaim⟩
  exact (h key).2 pod hpod hclaim

end Unlabelled

/-- A failed migration without retries is left alone. -/
theorem afterReconcile_of_permanentlyFailed {r : Reconciler} {weather : Weather}
    {source target : Provider} {claim : String} (h : Prepared r s source target claim)
    (hphase : s.migration.status.phase = .failed) (hoptions : s.migration.spec.options = none) :
    afterReconcile r weather s = s := by
  have hget : (ask (.getMigration s.migration.objectMeta.key)).eval (serve weather) s =
      (.ok s.migration, s) := by simp [ask, perform, serve]
  have hclosed : permanentlyFailed s.migration = true := by
    simp [permanentlyFailed, hphase, hoptions]
  unfold afterReconcile Reconciler.reconcile
  rw [eval_bind_of hget]
  simp only [h.alive, h.finalized, hphase, hclosed]
  rfl

namespace Sample

/-- What holds of every run with the claim that has no label. -/
structure Stuck (s : Cluster) : Prop where
  prepared : Prepared reconciler s (provider "lab") (provider "prod") "scratch"
  claims : s.claims = (start 0 []).claims
  unmounted : Unmounted s "scratch"
  options : s.migration.spec.options = none
  phase : s.migration.status.phase = .validating ∨ s.migration.status.phase = .failed

theorem hidden (ns : String) :
    ∀ pvc ∈ (start 0 []).claims.discovered ns, pvc.objectMeta.name ≠ "scratch" := by
  intro pvc hpvc
  simp [Claims.discovered, Claims.labelled, start, scratch] at hpvc

theorem Stuck.step {s' : Cluster} (h : Stuck s) (ha : ∀ claims, a ≠ .changeClaims claims)
    (hstep : machine reconciler s a = some s') : Stuck s' := by
  have hprepared := h.prepared.step hstep
  have hframed := step_framed hstep
  have hclaims := (hframed.claims ha).trans h.claims
  have hunmounted := h.unmounted.step (h.claims ▸ hidden) hstep
  have hoptions : s'.migration.spec.options = none := by
    obtain ⟨status, version, heq⟩ := hframed.migration
    rw [heq]
    exact h.options
  refine ⟨hprepared, hclaims, hunmounted, hoptions, ?_⟩
  by_cases hreconciles : ∃ weather, a = .reconcileMigration weather
  · obtain ⟨weather, rfl⟩ := hreconciles
    cases hstep
    rcases h.phase with hvalidating | hfailed
    · have hfind : s.claims.find ⟨s.migration.objectMeta.ns, "scratch"⟩ = some (scratch []) := by
        rw [h.claims, ← h.prepared.together.1]
        rfl
      have hwaited := @waited_afterReconcile reconciler weather s (provider "lab")
        (provider "prod") "scratch" (scratch []) h.prepared hvalidating hfind
      rcases hwaited.cases with hstays | ⟨hmounted, -⟩ | ⟨-, -, hfailed⟩
      · exact .inl hstays
      · exact absurd (mounts_of_mountReady hmounted) (not_mounts_of_unmounted h.unmounted _)
      · exact .inr hfailed
    · rw [afterReconcile_of_permanentlyFailed h.prepared hfailed h.options]
      exact h.phase
  · rw [hframed.others (not_exists.mp hreconciles)]
    exact h.phase

theorem stuck_start : Stuck (start 0 []) :=
  ⟨prepared_start 0 [], rfl, fun _ => ⟨nofun, nofun⟩, rfl, .inl rfl⟩

/-- How the migration of an old claim ends. -/
def timedOut (s : Cluster) : Bool :=
  s.migration.status.phase = .failed &&
    s.migration.status.message = "timed out after 5m0s waiting for providers to mount " ++
      "migration PVC scratch (source: provider deployment virtrigaud-provider-vms-lab not found " ++
      "yet); verify the provider Deployments rolled new pods and that those pods are Ready " ++
      "(kubectl -n vms get deploy,pod -l app.kubernetes.io/name=virtrigaud-provider)"

end Sample

/-- With a claim that is ten minutes old the first look at the mounts is the last one. A claim
without the label is never mounted, whatever the Provider controller does. -/
theorem old_claim_times_out_unlabelled_never_mounts :
    (∃ s, Machine.Reach (machine reconciler)
        (fun _ a => ∃ weather, a = .reconcileMigration weather)
        (start (10 * minute) label) s ∧
      s.clock = (start (10 * minute) label).clock ∧ timedOut s = true) ∧
    ∀ s, Machine.Reach (machine reconciler) (fun _ a => ∀ claims, a ≠ .changeClaims claims)
        (start 0 []) s →
      ¬ Mounts s ⟨"vms", "lab"⟩ "scratch" ∧ ¬ Mounts s ⟨"vms", "prod"⟩ "scratch" ∧
        ¬ towardsExport s.migration := by
  constructor
  · refine ⟨_, .step .refl ⟨calm, rfl⟩ rfl, ?_, ?_⟩
    · rfl
    · decide +kernel
  · intro s hreach
    have hstuck : Stuck s :=
      hreach.invariant stuck_start fun s a next h ha hstep => h.step ha hstep
    refine ⟨not_mounts_of_unmounted hstuck.unmounted _, not_mounts_of_unmounted hstuck.unmounted _,
      fun hleft => ?_⟩
    rcases hstuck.phase with hphase | hphase <;> rcases hleft with hleft | hleft <;>
      (rw [hphase] at hleft; cases hleft)

end Virtrigaud.Migration.Mounting
