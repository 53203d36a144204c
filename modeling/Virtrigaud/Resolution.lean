import Virtrigaud.Clone.Once
import Virtrigaud.Migration.Runs
import Virtrigaud.VM.Reconcile

/-!
# Which Provider a target resolves to

A provider reference without a namespace means another Provider in each namespace. The
migration resolves it beside itself and the clone beside the source, but both write it as
it is into the target VirtualMachine, whose controller resolves it beside the target. The
three agree when the reference has a namespace, or the target is in theirs.
-/

namespace Virtrigaud

open Effects List

theorem ObjectRef.key_eq_key {ref : ObjectRef} {ns other : String} (h : ref.ns ≠ "" ∨ ns = other) :
    ref.key ns = ref.key other := by
  rcases h with hns | rfl
  · rw [key, key, if_neg hns, if_neg hns]
  · rfl

/-- The VirtualMachine controller looks for the object's Provider under the key. -/
def ResolvesTo (vm : VirtualMachine) (provider : ObjectKey) : Prop :=
  ∃ next, VM.getDependencies vm = .call (.getProvider provider) next

variable {provider : ObjectKey} {vm : VirtualMachine}

theorem resolvesTo_iff : ResolvesTo vm provider ↔ provider = VM.providerKey vm := by
  constructor
  · rintro ⟨next, hnext⟩
    cases hnext
    rfl
  · rintro rfl
    exact ⟨_, rfl⟩

/-- One reference, resolved beside its origin and written into a target. -/
theorem resolvesTo_of_ref {ref : ObjectRef} {ns targetNs : String}
    (hns : ref.ns ≠ "" ∨ targetNs = ns)
    (hprovider : provider = ref.key ns) (htarget : VM.providerKey vm = ref.key targetNs) :
    ResolvesTo vm provider := by
  rw [resolvesTo_iff, hprovider, htarget, ObjectRef.key_eq_key hns]

/-- In the trace this Provider gets an import or a clone (`sent`), and a target is created (`made`)
that resolves to the other one. -/
def resolves {Entry : Type} (sent : Entry → Option ObjectKey) (made : Entry → Option VirtualMachine)
    (provider target : ObjectKey) (trace : List Entry) : Bool :=
  trace.any (sent · = some provider) &&
    trace.any fun entry => (made entry).any (VM.providerKey · = target)

theorem exists_of_resolves {Entry : Type} {sent : Entry → Option ObjectKey}
    {made : Entry → Option VirtualMachine} {target : ObjectKey} {trace : List Entry}
    (h : resolves sent made provider target trace = true) :
    (∃ entry ∈ trace, sent entry = some provider) ∧
      ∃ vm, VM.providerKey vm = target ∧ ∃ entry ∈ trace, made entry = some vm := by
  obtain ⟨hsent, hmade⟩ := Bool.and_eq_true_iff.mp h
  obtain ⟨entry, hentry, hprovider⟩ := any_eq_true.mp hsent
  obtain ⟨entry', hentry', htarget⟩ := any_eq_true.mp hmade
  obtain ⟨vm, hvm, hkey⟩ := (Option.any_eq_true _ _).mp htarget
  exact ⟨⟨entry, hentry, of_decide_eq_true hprovider⟩, vm, of_decide_eq_true hkey, entry', hentry',
    hvm⟩

variable {episode : List LogEntry}

namespace Migration

/-- The reconcile reads a migration of the namespace with this target, and each Provider
under its own key. -/
structure Steady (ref : ObjectRef) (ns targetNs : String) (episode : List LogEntry) : Prop where
  migration : ∀ key v, ⟨.getMigration key, .ok v⟩ ∈ episode →
    v.objectMeta.ns = ns ∧ v.spec.target.providerRef = ref ∧ (targetKey v).ns = targetNs
  provider : ∀ key found, ⟨.getProvider key, .ok found⟩ ∈ episode → found.objectMeta.key = key

section

variable {r : Reconciler} {key : ObjectKey} {ref : ObjectRef} {ns targetNs : String}
  {cluster : Cluster} {trace : List LogEntry}

theorem Steady.read {log : List LogEntry} {v : VMMigration} (h : Steady ref ns targetNs episode)
    (hread : Read key log v) (hlog : log ⊆ episode) :
    v.objectMeta.ns = ns ∧ v.spec.target.providerRef = ref ∧ (targetKey v).ns = targetNs :=
  h.migration key v (hlog (mem_of_getLast? hread))

section

variable
  (hrun : (system r key).Reach (fun _ _ _ episode => Steady ref ns targetNs episode) cluster trace)
include hrun

theorem imported_at {req : ImportDiskRequest} {answer : Except GoError ImportDiskResponse}
    (h : ⟨.importDisk provider req, answer⟩ ∈ trace) :
    provider = ref.key ns := by
  obtain ⟨_, _, _, episode, older, hsteady, hsuffix, v, hread, -, -, ⟨found, hfound, rfl⟩, -⟩ :=
    hrun.event_allowed (reconcile_obeys r key) h
  have hlog := ((suffix_cons _ older).trans hsuffix).subset
  obtain ⟨hns, href, -⟩ := hsteady.read hread hlog
  rw [hsteady.provider _ found (hlog hfound), hns, href]

theorem created_with {answer : Option GoError} (h : ⟨.createVirtualMachine vm, answer⟩ ∈ trace) :
    VM.providerKey vm = ref.key targetNs := by
  obtain ⟨_, _, _, episode, older, hsteady, hsuffix, v, hread, -, ⟨diskInfo, -, rfl⟩, -⟩ :=
    hrun.event_allowed (reconcile_obeys r key) h
  obtain ⟨-, href, htarget⟩ := hsteady.read hread ((suffix_cons _ older).trans hsuffix).subset
  rw [← href, ← htarget]
  rfl

end

end

end Migration

namespace Clone

/-- The reconcile reads a clone of the namespace with this source and target namespace, the
source with its provider reference, and each Provider under its own key. -/
structure Steady (source : ObjectKey) (ref : ObjectRef) (targetNs : String)
    (episode : List LogEntry) : Prop where
  clone : ∀ key v, ⟨.getClone key, .ok v⟩ ∈ episode → targetNamespace v = targetNs ∧
    ∀ vmRef, named v.spec.vmRef = some vmRef → ⟨v.objectMeta.ns, vmRef.name⟩ = source
  source : ∀ vm, ⟨.getVirtualMachine source, .ok vm⟩ ∈ episode →
    vm.objectMeta.ns = source.ns ∧ vm.spec.providerRef = ref
  provider : ∀ key found, ⟨.getProvider key, .ok found⟩ ∈ episode → found.objectMeta.key = key

section

variable {r : Reconciler} {key source : ObjectKey} {ref : ObjectRef} {targetNs : String}
  {cluster : Cluster} {trace : List LogEntry}

theorem Steady.found {log : List LogEntry} {v : VMClone} {sourceVM : VirtualMachine}
    (h : Steady source ref targetNs episode) (hread : Read key log v)
    (hsource : FoundSource v log sourceVM provider) (hlog : log ⊆ episode) :
    targetNamespace v = targetNs ∧ sourceVM.spec.providerRef = ref ∧
      provider = ref.key source.ns := by
  obtain ⟨htarget, hvmRef⟩ := h.clone key v (hlog (mem_of_getLast? hread))
  obtain ⟨vmRef, found, hnamed, hvm, hprovider, rfl⟩ := hsource
  rw [hvmRef vmRef hnamed] at hvm
  obtain ⟨hns, href⟩ := h.source sourceVM (hlog hvm)
  refine ⟨htarget, href, ?_⟩
  rw [h.provider _ found (hlog hprovider), providerKey, href, hns]

section

variable (hrun : (system r key).Reach
  (fun _ _ _ episode => Steady source ref targetNs episode) cluster trace)
include hrun

theorem cloned_at {req : CloneRequest} {answer : Except GoError CloneResponse}
    (h : ⟨.clone provider req, answer⟩ ∈ trace) :
    provider = ref.key source.ns := by
  obtain ⟨_, _, _, episode, older, hsteady, hsuffix, v, sourceVM, _, hread, -, -, -, hsource, -⟩ :=
    hrun.event_allowed (reconcile_obeys r key) h
  exact (hsteady.found hread hsource ((suffix_cons _ older).trans hsuffix).subset).2.2

theorem created_with {answer : Option GoError} (h : ⟨.createVirtualMachine vm, answer⟩ ∈ trace) :
    VM.providerKey vm = ref.key targetNs := by
  obtain ⟨_, _, _, episode, older, hsteady, hsuffix, v, sourceVM, _, _, _, hread, -, hsource, -, -,
    rfl, -⟩ := hrun.event_allowed (reconcile_obeys r key) h
  obtain ⟨htarget, href, -⟩ :=
    hsteady.found hread hsource ((suffix_cons _ older).trans hsuffix).subset
  rw [← href, ← htarget]
  rfl

end

end

end Clone

/-- The Provider that a target resolves to is the one its disk was imported into, or the one
that cloned it, if the reference has a namespace or the target is in the namespace of the
migration, or of the clone's source. -/
theorem target_resolves_to_provider (ref : ObjectRef) (targetNs : String) :
    (∀ (r : Migration.Reconciler) (key : ObjectKey) (ns : String) cluster trace,
      (ref.ns ≠ "" ∨ targetNs = ns) → (Migration.system r key).Reach
        (fun _ _ _ episode => Migration.Steady ref ns targetNs episode) cluster trace →
      ∀ provider req answer vm created, ⟨.importDisk provider req, answer⟩ ∈ trace →
        ⟨.createVirtualMachine vm, created⟩ ∈ trace → ResolvesTo vm provider) ∧
    ∀ (r : Clone.Reconciler) (key source : ObjectKey) cluster trace,
      (ref.ns ≠ "" ∨ targetNs = source.ns) → (Clone.system r key).Reach
        (fun _ _ _ episode => Clone.Steady source ref targetNs episode) cluster trace →
      ∀ provider req answer vm created, ⟨.clone provider req, answer⟩ ∈ trace →
        ⟨.createVirtualMachine vm, created⟩ ∈ trace → ResolvesTo vm provider := by
  constructor
  · intro r key ns cluster trace hns hrun provider req answer vm created himport hcreate
    exact resolvesTo_of_ref hns (Migration.imported_at hrun himport)
      (Migration.created_with hrun hcreate)
  · intro r key source cluster trace hns hrun provider req answer vm created hclone hcreate
    exact resolvesTo_of_ref hns (Clone.cloned_at hrun hclone) (Clone.created_with hrun hcreate)

namespace Migration.Sample

/-- The cluster of the migration with its target in the namespace. -/
def clusterInto (ns : String) : Cluster :=
  { cluster [] with migration := ⟨{ migration with
      spec := { migration.spec with target := { migration.spec.target with ns } } }, []⟩ }

theorem fresh_clusterInto (ns : String) : (clusterInto ns).Fresh key := ⟨rfl, rfl, rfl, rfl, rfl⟩

/-- From creation to the Create of the target. -/
def untilCreated : List (List Choice) := untilCreating ++ [[cached 0, cached 0, done]]

/-- The Provider of a successful import. -/
def importedInto : LogEntry → Option ObjectKey
  | ⟨.importDisk provider _, .ok _⟩ => some provider
  | _ => none

def createdVM : LogEntry → Option VirtualMachine
  | ⟨.createVirtualMachine vm, none⟩ => some vm
  | _ => none

/-- A run that was computed, with the import and the target that it shows. -/
theorem exists_imported {holds : List LogEntry → Prop} (check : List LogEntry → Bool)
    (hcheck : ∀ episode, check episode = true → holds episode) (ns : String) (target : ObjectKey)
    (hrun : ((system reconciler key).replay (fun _ _ _ => check) (clusterInto ns) []
      untilCreated).any (resolves importedInto createdVM ⟨"prod", "esx"⟩ target ·.2) = true) :
    ∃ cluster trace req answer vm,
      (system reconciler key).Reach (fun _ _ _ episode => holds episode) cluster trace ∧
      ⟨.importDisk ⟨"prod", "esx"⟩ req, .ok answer⟩ ∈ trace ∧
      ⟨.createVirtualMachine vm, none⟩ ∈ trace ∧ VM.providerKey vm = target := by
  obtain ⟨cluster, trace, hreach, h⟩ := (system reconciler key).exists_reach_of_replay
    (P := fun _ trace => resolves importedInto createdVM _ target trace = true)
    _ _ (fun _ _ _ => hcheck) (fresh_clusterInto ns) (by simpa using hrun)
  obtain ⟨⟨entry, hentry, hsent⟩, vm, hkey, entry', hentry', hmade⟩ := exists_of_resolves h
  unfold importedInto at hsent
  split at hsent
  · cases hsent
    unfold createdVM at hmade
    split at hmade
    · cases hmade
      exact ⟨cluster, trace, _, _, _, hreach, hentry, hentry', hkey⟩
    · cases hmade
  · cases hsent

/-- The reads of the episode are steady, with the target in the migration's namespace. -/
def steady (episode : List LogEntry) : Bool := episode.all fun
  | ⟨.getMigration _, .ok v⟩ => decide (v.objectMeta.ns = "prod") &&
      decide (v.spec.target.providerRef = { name := "esx" }) && decide ((targetKey v).ns = "prod")
  | ⟨.getProvider key, .ok found⟩ => decide (found.objectMeta.key = key)
  | _ => true

theorem steady_of_check (h : steady episode = true) :
    Steady { name := "esx" } "prod" "prod" episode := by
  rw [steady, all_eq_true] at h
  refine ⟨fun key v hmem => ?_, fun key found hmem => of_decide_eq_true (h _ hmem)⟩
  have hv := h _ hmem
  simp only [Bool.and_eq_true, decide_eq_true_eq] at hv
  exact ⟨hv.1.1, hv.1.2, hv.2⟩

end Migration.Sample

namespace Clone.Sample

/-- The cluster of the clone with its target in the namespace. -/
def clusterInto (ns : String) : Cluster :=
  { cluster [] with clone := ⟨{ clone with
      spec := { clone.spec with target := { clone.spec.target with ns } } }, []⟩ }

theorem fresh_clusterInto (ns : String) : (clusterInto ns).Fresh key := ⟨rfl, rfl, rfl, rfl⟩

/-- From creation to Ready. -/
def untilBound : List (List Choice) := [enrol, issue 0 ⟨"vm-1", ""⟩ (done :: bind)]

/-- The Provider of a successful Clone. -/
def clonedInto : LogEntry → Option ObjectKey
  | ⟨.clone provider _, .ok _⟩ => some provider
  | _ => none

def createdVM : LogEntry → Option VirtualMachine
  | ⟨.createVirtualMachine vm, none⟩ => some vm
  | _ => none

theorem exists_cloned {holds : List LogEntry → Prop} (check : List LogEntry → Bool)
    (hcheck : ∀ episode, check episode = true → holds episode) (ns : String) (target : ObjectKey)
    (hrun : ((system reconciler key).replay (fun _ _ _ => check) (clusterInto ns) []
      untilBound).any (resolves clonedInto createdVM ⟨"prod", "kvm"⟩ target ·.2) = true) :
    ∃ cluster trace req answer vm,
      (system reconciler key).Reach (fun _ _ _ episode => holds episode) cluster trace ∧
      ⟨.clone ⟨"prod", "kvm"⟩ req, .ok answer⟩ ∈ trace ∧
      ⟨.createVirtualMachine vm, none⟩ ∈ trace ∧ VM.providerKey vm = target := by
  obtain ⟨cluster, trace, hreach, h⟩ := (system reconciler key).exists_reach_of_replay
    (P := fun _ trace => resolves clonedInto createdVM _ target trace = true)
    _ _ (fun _ _ _ => hcheck) (fresh_clusterInto ns) (by simpa using hrun)
  obtain ⟨⟨entry, hentry, hsent⟩, vm, hkey, entry', hentry', hmade⟩ := exists_of_resolves h
  unfold clonedInto at hsent
  split at hsent
  · cases hsent
    unfold createdVM at hmade
    split at hmade
    · cases hmade
      exact ⟨cluster, trace, _, _, _, hreach, hentry, hentry', hkey⟩
    · cases hmade
  · cases hsent

/-- The reads of the episode are steady, with the target in the source's namespace. -/
def steady (episode : List LogEntry) : Bool := episode.all fun
  | ⟨.getClone _, .ok v⟩ => decide (targetNamespace v = "prod") &&
      (named v.spec.vmRef).all fun vmRef => decide (v.objectMeta.ns = "prod" ∧ vmRef.name = "web")
  | ⟨.getVirtualMachine key, .ok vm⟩ => decide (key = ⟨"prod", "web"⟩ →
      vm.objectMeta.ns = "prod" ∧ vm.spec.providerRef = { name := "kvm" })
  | ⟨.getProvider key, .ok found⟩ => decide (found.objectMeta.key = key)
  | _ => true

theorem steady_of_check (h : steady episode = true) :
    Steady ⟨"prod", "web"⟩ { name := "kvm" } "prod" episode := by
  rw [steady, all_eq_true] at h
  refine ⟨fun key v hmem => ?_, fun vm hmem => of_decide_eq_true (h _ hmem) rfl,
    fun key found hmem => of_decide_eq_true (h _ hmem)⟩
  obtain ⟨htarget, hsource⟩ := Bool.and_eq_true_iff.mp (h _ hmem)
  refine ⟨of_decide_eq_true htarget, fun vmRef hnamed => ?_⟩
  rw [hnamed] at hsource
  obtain ⟨hns, hname⟩ := of_decide_eq_true hsource
  rw [hns, hname]

end Clone.Sample

/-- A target in another namespace resolves to another Provider than the one that holds its
disk, or that cloned it. -/
theorem target_resolves_elsewhere :
    (∃ cluster trace provider req answer vm,
      (Migration.system Migration.Sample.reconciler Migration.Sample.key).Reach
        (fun _ _ _ _ => True) cluster trace ∧
      ⟨.importDisk provider req, .ok answer⟩ ∈ trace ∧
      ⟨.createVirtualMachine vm, none⟩ ∈ trace ∧ ¬ ResolvesTo vm provider) ∧
    ∃ cluster trace provider req answer vm,
      (Clone.system Clone.Sample.reconciler Clone.Sample.key).Reach
        (fun _ _ _ _ => True) cluster trace ∧
      ⟨.clone provider req, .ok answer⟩ ∈ trace ∧
      ⟨.createVirtualMachine vm, none⟩ ∈ trace ∧ ¬ ResolvesTo vm provider := by
  constructor
  · obtain ⟨cluster, trace, req, answer, vm, hreach, himport, hcreate, hkey⟩ :=
      Migration.Sample.exists_imported (fun _ => true) (fun _ _ => trivial) "dr" ⟨"dr", "esx"⟩
        (by decide +kernel)
    refine ⟨cluster, trace, _, req, answer, vm, hreach, himport, hcreate, fun hresolves => ?_⟩
    exact absurd ((resolvesTo_iff.mp hresolves).trans hkey) (by decide)
  · obtain ⟨cluster, trace, req, answer, vm, hreach, hclone, hcreate, hkey⟩ :=
      Clone.Sample.exists_cloned (fun _ => true) (fun _ _ => trivial) "dr" ⟨"dr", "kvm"⟩
        (by decide +kernel)
    refine ⟨cluster, trace, _, req, answer, vm, hreach, hclone, hcreate, fun hresolves => ?_⟩
    exact absurd ((resolvesTo_iff.mp hresolves).trans hkey) (by decide)

/-- Within one namespace both targets resolve as they should. -/
theorem target_resolves_to_provider_sample :
    (∃ cluster trace vm, (Migration.system Migration.Sample.reconciler Migration.Sample.key).Reach
      (fun _ _ _ episode => Migration.Steady { name := "esx" } "prod" "prod" episode)
      cluster trace ∧ ⟨.createVirtualMachine vm, none⟩ ∈ trace ∧
      ResolvesTo vm ⟨"prod", "esx"⟩) ∧
    ∃ cluster trace vm, (Clone.system Clone.Sample.reconciler Clone.Sample.key).Reach
      (fun _ _ _ episode => Clone.Steady ⟨"prod", "web"⟩ { name := "kvm" } "prod" episode)
      cluster trace ∧ ⟨.createVirtualMachine vm, none⟩ ∈ trace ∧
      ResolvesTo vm ⟨"prod", "kvm"⟩ := by
  constructor
  · obtain ⟨cluster, trace, req, answer, vm, hreach, himport, hcreate, -⟩ :=
      Migration.Sample.exists_imported Migration.Sample.steady
        (fun _ => Migration.Sample.steady_of_check) "" ⟨"prod", "esx"⟩ (by decide +kernel)
    exact ⟨cluster, trace, vm, hreach, hcreate,
      (target_resolves_to_provider { name := "esx" } "prod").1 _ _ "prod" cluster trace (.inr rfl)
        hreach _ req _ vm _ himport hcreate⟩
  · obtain ⟨cluster, trace, req, answer, vm, hreach, hclone, hcreate, -⟩ :=
      Clone.Sample.exists_cloned Clone.Sample.steady (fun _ => Clone.Sample.steady_of_check) ""
        ⟨"prod", "kvm"⟩ (by decide +kernel)
    exact ⟨cluster, trace, vm, hreach, hcreate,
      (target_resolves_to_provider { name := "kvm" } "prod").2 _ _ ⟨"prod", "web"⟩ cluster trace
        (.inr rfl) hreach _ req _ vm _ hclone hcreate⟩

end Virtrigaud
