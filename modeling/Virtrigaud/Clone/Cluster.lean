import Virtrigaud.Api.Store
import Virtrigaud.Clone.Reconcile
import Virtrigaud.Effects.System

/-!
# The cluster around one clone

The API server keeps the VMClone and all VirtualMachines with their versions: a Get may
answer any version that was persisted, a write goes through only over the version the
writer saw, is refused, or is applied while its answer is lost. Other clients edit the
clone's metadata and spec and all of the VirtualMachines. Every other answer is arbitrary.
-/

namespace Virtrigaud.Clone

open Effects Option

/-- What other clients do. They never write the clone's status. A client that writes a
VirtualMachine starts from the version it saw. -/
inductive Edit
  | editClone (objectMeta : ObjectMeta) (spec : VMCloneSpec)
  | createVirtualMachine (vm : VirtualMachine)
  | modifyVirtualMachine (key : ObjectKey) (update : VirtualMachine → VirtualMachine)
  | removeVirtualMachine (key : ObjectKey)

structure Cluster where
  clone : History VMClone
  vms : VMStore
  /-- The objects `bindTargetVM` made, as they were stored first. -/
  created : List VirtualMachine := []

/-- The answer to one call, as far as the cluster does not determine it. -/
inductive Reply
  /-- A cached read that lags behind. -/
  | lagging (versions : Nat)
  /-- The call is carried out and answered. -/
  | accept
  /-- The call is not carried out. -/
  | refuse (err : GoError)
  /-- The call is carried out, but its caller sees an error. -/
  | lose (err : GoError)
  /-- Any answer of the providers, the clock and the objects that are not modelled. -/
  | reports (said : (c : Call) → Option (Answer c))

structure Choice where
  /-- What other clients do before the call is answered. -/
  edits : List Edit := []
  /-- The UID of a created object. -/
  uid : String := ""
  reply : Reply

namespace Cluster

section Operations

variable (cluster : Cluster)

def storeClone (clone : VMClone) : Cluster := { cluster with clone := cluster.clone.push clone }

/-- The object as a write of metadata and spec leaves it. -/
def withSpec (old : VMClone) (objectMeta : ObjectMeta) (spec : VMCloneSpec) (changed : Bool) :
    VMClone :=
  { old with objectMeta := old.objectMeta.next objectMeta changed, spec }

/-- The object as a write of the status leaves it. -/
def withStatus (status : VMCloneStatus) (old : VMClone) : VMClone :=
  { old with objectMeta := old.objectMeta.next old.objectMeta false, status }

/-- A VirtualMachine as another client leaves it. -/
def modified (update : VirtualMachine → VirtualMachine) (old : VirtualMachine) : VirtualMachine :=
  { update old with
    objectMeta := old.objectMeta.next (update old).objectMeta (old.spec ≠ (update old).spec) }

def modifyVM (key : ObjectKey) (update : VirtualMachine → VirtualMachine) : Option VMStore :=
  cluster.vms.modify key (fun old => some (modified update old)) fun _ _ h => some.inj h ▸ rfl

/-- The VirtualMachines after an operation, or as they were when it does not apply. -/
def storeVMs (vms : Option VMStore) : Cluster := { cluster with vms := vms.getD cluster.vms }

def applyEdit : Edit → Cluster
  | .editClone objectMeta spec =>
    cluster.storeClone (withSpec cluster.clone.current objectMeta spec true)
  | .createVirtualMachine vm => cluster.storeVMs (cluster.vms.create vm)
  | .modifyVirtualMachine key update => cluster.storeVMs (cluster.modifyVM key update)
  | .removeVirtualMachine key => cluster.storeVMs (cluster.vms.remove key)

def conflictError : GoError := ⟨.conflict, "the object has been modified"⟩

def notFoundError : GoError := ⟨.notFound, "not found"⟩

def alreadyExistsError : GoError := ⟨.alreadyExists, "already exists"⟩

/-- A new VirtualMachine as it is stored; its status subresource starts empty. -/
def newVM (vm : VirtualMachine) (uid : String) : VirtualMachine :=
  { vm with objectMeta := { vm.objectMeta with uid }, status := {} }

/-- The writer of the clone saw its current version. -/
def seen (clone : VMClone) : Bool :=
  cluster.clone.current.objectMeta.resourceVersion = clone.objectMeta.resourceVersion

/-- Carry out a call on the cluster's own objects. -/
def carryOut (choice : Choice) : (c : Call) → Option (Answer c × Cluster)
  | .updateClone clone =>
    if cluster.seen clone then
      some (none, cluster.storeClone
        (withSpec cluster.clone.current clone.objectMeta clone.spec false))
    else some (some conflictError, cluster)
  | .statusUpdate clone =>
    if cluster.seen clone then
      some (.ok (cluster.clone.current.objectMeta.resourceVersion + 1),
        cluster.storeClone (withStatus clone.status cluster.clone.current))
    else some (.error conflictError, cluster)
  | .createVirtualMachine vm =>
    match cluster.vms.create (newVM vm choice.uid) with
    | none => some (some alreadyExistsError, cluster)
    | some vms =>
      some (none, { cluster with vms, created := newVM vm choice.uid :: cluster.created })
  | .vmStatusUpdate vm =>
    match cluster.vms.live vm.objectMeta.key,
      cluster.vms.writeStatus vm.objectMeta.key vm.status with
    | some old, some vms =>
      if old.objectMeta.resourceVersion = vm.objectMeta.resourceVersion then
        some (none, { cluster with vms })
      else some (some conflictError, cluster)
    | _, _ => some (some notFoundError, cluster)
  | _ => none

/-- A cached read of an object the cluster keeps. -/
def readLagging (lag : Nat) : (c : Call) → Option (Answer c)
  | .getClone _ => (cluster.clone.read lag).map .ok
  | .getVirtualMachine key =>
    ((cluster.vms.versions key).read lag).map fun
      | some vm => .ok vm
      | none => .error notFoundError
  | _ => none

/-- How a call on the cluster's objects fails. -/
def failure (err : GoError) : (c : Call) → Option (Answer c)
  | .getClone _ => some (.error err)
  | .getVirtualMachine _ => some (.error err)
  | .updateClone _ => some (some err)
  | .statusUpdate _ => some (.error err)
  | .createVirtualMachine _ => some (some err)
  | .vmStatusUpdate _ => some (some err)
  | _ => none

/-- Calls the cluster does not determine. -/
def outside : Call → Bool
  | .getClone _ | .updateClone _ | .statusUpdate _ | .getVirtualMachine _
  | .createVirtualMachine _ | .vmStatusUpdate _ => false
  | _ => true

end Operations

/-- Answer one call, after the edits of other clients. -/
def answer (cluster : Cluster) (c : Call) (choice : Choice) : Option (Answer c × Cluster) :=
  let edited := choice.edits.foldl applyEdit cluster
  match choice.reply with
  | .lagging lag => (edited.readLagging lag c).map (·, edited)
  | .accept => edited.carryOut choice c
  | .refuse err => (failure err c).map (·, edited)
  | .lose err =>
    match edited.carryOut choice c, failure err c with
    | some (_, next), some lost => some (lost, next)
    | _, _ => none
  | .reports said => if outside c then (said c).map (·, edited) else none

/-- A clone that was just created, in any cluster. -/
def Fresh (key : ObjectKey) (cluster : Cluster) : Prop :=
  cluster.clone.older = [] ∧ cluster.clone.current.objectMeta.key = key ∧
    cluster.clone.current.status = {} ∧ cluster.created = []

/-- One change of the cluster while a call is answered. -/
inductive Step (edits : List Edit) (c : Call) (cluster : Cluster) : Cluster → Prop
  | edited {objectMeta spec} : Edit.editClone objectMeta spec ∈ edits →
      Step edits c cluster
        (cluster.storeClone (withSpec cluster.clone.current objectMeta spec true))
  | createdElsewhere {vm hkey} : Edit.createVirtualMachine vm ∈ edits →
      cluster.vms.live vm.objectMeta.key = none →
      Step edits c cluster
        { cluster with vms := cluster.vms.put vm.objectMeta.key (some vm) hkey }
  | modified {key update old hkey} : Edit.modifyVirtualMachine key update ∈ edits →
      cluster.vms.live key = some old →
      Step edits c cluster
        { cluster with vms := cluster.vms.put key (some (modified update old)) hkey }
  | removed {key old hkey} : Edit.removeVirtualMachine key ∈ edits →
      cluster.vms.live key = some old →
      Step edits c cluster { cluster with vms := cluster.vms.put key none hkey }
  | updated {clone} : c = .updateClone clone → cluster.seen clone = true →
      Step edits c cluster
        (cluster.storeClone (withSpec cluster.clone.current clone.objectMeta clone.spec false))
  | statusWritten {clone} : c = .statusUpdate clone → cluster.seen clone = true →
      Step edits c cluster (cluster.storeClone (withStatus clone.status cluster.clone.current))
  | created {vm uid hkey} : c = .createVirtualMachine vm →
      cluster.vms.live vm.objectMeta.key = none →
      Step edits c cluster { cluster with
        vms := cluster.vms.put vm.objectMeta.key (some (newVM vm uid)) hkey
        created := newVM vm uid :: cluster.created }
  | seeded {vm old hkey} : c = .vmStatusUpdate vm →
      cluster.vms.live vm.objectMeta.key = some old →
      old.objectMeta.resourceVersion = vm.objectMeta.resourceVersion →
      Step edits c cluster { cluster with
        vms := cluster.vms.put vm.objectMeta.key (some (VMStore.withStatus vm.status old)) hkey }

variable {cluster next : Cluster} {c : Call} {choice : Choice} {r : Answer c} {edits : List Edit}

theorem storeVMs_step {vms : Option VMStore}
    (h : ∀ stored, vms = some stored → Step edits c cluster { cluster with vms := stored }) :
    cluster.storeVMs vms = cluster ∨ Step edits c cluster (cluster.storeVMs vms) := by
  cases vms with
  | none => exact .inl rfl
  | some stored => exact .inr (h stored rfl)

theorem applyEdit_step {edit : Edit} (hedit : edit ∈ edits) :
    cluster.applyEdit edit = cluster ∨ Step edits c cluster (cluster.applyEdit edit) := by
  cases edit with
  | editClone objectMeta spec => exact .inr (.edited hedit)
  | createVirtualMachine vm =>
    refine storeVMs_step fun stored hstored => ?_
    obtain ⟨hlive, hkey, rfl⟩ := VMStore.create_eq_some hstored
    exact .createdElsewhere hedit hlive
  | modifyVirtualMachine key update =>
    refine storeVMs_step fun stored hstored => ?_
    obtain ⟨old, hlive, hkey, rfl⟩ := VMStore.modify_eq_some hstored
    exact .modified hedit hlive
  | removeVirtualMachine key =>
    refine storeVMs_step fun stored hstored => ?_
    obtain ⟨old, hlive, hkey, rfl⟩ := VMStore.modify_eq_some hstored
    exact .removed hedit hlive

theorem carryOut_step (h : cluster.carryOut choice c = some (r, next)) :
    next = cluster ∨ Step edits c cluster next := by
  unfold carryOut at h
  split at h
  · split at h
    · cases h
      exact .inr (.updated rfl ‹_›)
    · cases h
      exact .inl rfl
  · split at h
    · cases h
      exact .inr (.statusWritten rfl ‹_›)
    · cases h
      exact .inl rfl
  · split at h
    · cases h
      exact .inl rfl
    · rename_i hcreate
      cases h
      rename_i vm _ _
      obtain ⟨hlive, hkey, rfl⟩ := VMStore.create_eq_some hcreate
      have hstep : Step edits (.createVirtualMachine vm) cluster { cluster with
          vms := cluster.vms.put vm.objectMeta.key (some (newVM vm choice.uid)) hkey
          created := newVM vm choice.uid :: cluster.created } := .created rfl hlive
      exact .inr hstep
  · split at h
    · rename_i old vms hlive hwrite
      split at h
      · rename_i hversion
        cases h
        obtain ⟨old', hlive', hkey, rfl⟩ := VMStore.modify_eq_some hwrite
        obtain rfl := some.inj (hlive.symm.trans hlive')
        exact .inr (.seeded rfl hlive hversion)
      · cases h
        exact .inl rfl
    · cases h
      exact .inl rfl
  · cases h

section

variable (h : cluster.answer c choice = some (r, next))
include h

/-- An answer follows the edits; it carries the call out, or leaves the cluster alone. -/
theorem answer_cases :
    next = choice.edits.foldl applyEdit cluster ∨
      ∃ r', (choice.edits.foldl applyEdit cluster).carryOut choice c = some (r', next) := by
  unfold answer at h
  dsimp only at h
  split at h
  case h_1 | h_3 =>
    obtain ⟨_, _, hnext⟩ := map_eq_some_iff.mp h
    cases hnext
    exact .inl rfl
  · exact .inr ⟨r, h⟩
  · split at h
    · rename_i hcarry _
      cases h
      exact .inr ⟨_, hcarry⟩
    · cases h
  · split at h
    · obtain ⟨_, _, hnext⟩ := map_eq_some_iff.mp h
      cases hnext
      exact .inl rfl
    · cases h

/-- What every change preserves holds after the call. -/
theorem answer_induct {P : Cluster → Prop} (hbase : P cluster)
    (hstep : ∀ before after, P before → Step choice.edits c before after → P after) : P next := by
  have hedited : P (choice.edits.foldl applyEdit cluster) := by
    refine List.foldlRecOn choice.edits applyEdit hbase ?_
    intro last hlast edit hedit
    have hcases : last.applyEdit edit = last ∨ Step choice.edits c last (last.applyEdit edit) :=
      applyEdit_step hedit
    rcases hcases with hsame | hchange
    · rw [hsame]
      exact hlast
    · exact hstep last _ hlast hchange
  rcases answer_cases h with rfl | ⟨r', hcarry⟩
  · exact hedited
  · rcases carryOut_step hcarry with hsame | hchange
    · rw [hsame]
      exact hedited
    · exact hstep _ _ hedited hchange

/-- Versions of the clone are never taken back. -/
theorem answer_subset : cluster.clone.all ⊆ next.clone.all := by
  refine answer_induct (P := fun last => cluster.clone.all ⊆ last.clone.all) h
    (List.Subset.refl _) fun before after hbefore hchange => ?_
  cases hchange with
  | edited | updated | statusWritten =>
    exact List.Subset.trans hbefore (List.subset_cons_self _ _)
  | _ => exact hbefore

end

/-- A read of the clone answers a version that was persisted. -/
theorem answer_read {key : ObjectKey} {v : VMClone}
    (h : cluster.answer (.getClone key) choice = some (.ok v, next)) : v ∈ next.clone.all := by
  unfold answer at h
  split at h
  · obtain ⟨_, hread, hnext⟩ := map_eq_some_iff.mp h
    cases hnext
    obtain ⟨_, hread, hv⟩ := map_eq_some_iff.mp hread
    cases hv
    exact History.mem_of_read hread
  all_goals simp [carryOut, failure, outside] at h

end Cluster

/-- Serialized reconciles of one clone, from its creation. -/
def system (r : Reconciler) (key : ObjectKey) : System Call Answer Cluster Choice Return where
  host := ⟨Cluster.answer⟩
  program := r.reconcile key
  restart cluster := cluster
  init := Cluster.Fresh key

end Virtrigaud.Clone
