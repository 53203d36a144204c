import Virtrigaud.Api.Store
import Virtrigaud.Effects.System
import Virtrigaud.Migration.Reconcile

/-!
# The cluster around one migration

The API server keeps the VMMigration and all VirtualMachines with their versions:
a Get may answer any version that was persisted, a write goes through only over
the version the writer saw, is refused, or is applied while its answer is lost.
Other clients edit spec and metadata of the migration and all of the
VirtualMachines. Every other answer is arbitrary. A lost process loses
`longOpInFlight`.
-/

namespace Virtrigaud.Migration

open Effects History List Option

/-- What other clients do. They never write the migration's status. -/
inductive Edit
  | editMigration (objectMeta : ObjectMeta) (spec : VMMigrationSpec)
  | createVirtualMachine (vm : VirtualMachine)
  | replaceVirtualMachine (vm : VirtualMachine)
  | removeVirtualMachine (key : ObjectKey)

structure Cluster where
  migration : History VMMigration
  vms : VMStore
  /-- The objects `handleCreatingPhase` made, as they were stored first. -/
  created : List VirtualMachine := []
  longOpInFlight : List String := []

namespace Cluster

variable (cluster : Cluster)

def storeMigration (migration : VMMigration) : Cluster :=
  { cluster with migration := cluster.migration.push migration }

/-- The object as a write of metadata and spec leaves it. -/
def withSpec (old : VMMigration) (objectMeta : ObjectMeta) (spec : VMMigrationSpec) :
    VMMigration :=
  { old with objectMeta := old.objectMeta.next objectMeta (old.spec ≠ spec), spec }

/-- The object as a write of the status leaves it. -/
def withStatus (status : VMMigrationStatus) (old : VMMigration) : VMMigration :=
  { old with objectMeta := old.objectMeta.next old.objectMeta false, status }

/-- The VirtualMachines after an operation, or as they were when it does not apply. -/
def storeVMs (vms : Option VMStore) : Cluster := { cluster with vms := vms.getD cluster.vms }

def applyEdit : Edit → Cluster
  | .editMigration objectMeta spec =>
    cluster.storeMigration (withSpec cluster.migration.current objectMeta spec)
  | .createVirtualMachine vm => cluster.storeVMs (cluster.vms.create vm)
  | .replaceVirtualMachine vm => cluster.storeVMs (cluster.vms.replace vm)
  | .removeVirtualMachine key => cluster.storeVMs (cluster.vms.remove key)

end Cluster

/-- The answer to one call, as far as the cluster does not determine it. -/
inductive Reply
  /-- A cached read that lags behind. -/
  | lagging (versions : Nat)
  /-- The call is carried out and answered. -/
  | accept
  /-- The call is not carried out. -/
  | refuse (err : GoError)
  /-- The call is carried out, but its caller sees an error. -/
  | lose (err : GoError)
  /-- Any answer of the providers, the clock and the objects that are not modelled. -/
  | reports (said : (c : Call) → Option (Answer c))

structure Choice where
  /-- What other clients do before the call is answered. -/
  edits : List Edit := []
  /-- The UID of a created object and the time of a deletion. -/
  uid : String := ""
  clock : Time := 0
  reply : Reply

namespace Cluster

variable (cluster : Cluster)

def conflictError : GoError := ⟨.conflict, "the object has been modified"⟩

def notFoundError : GoError := ⟨.notFound, "not found"⟩

def alreadyExistsError : GoError := ⟨.alreadyExists, "already exists"⟩

/-- Write the status over the version the writer saw. -/
def writeStatus (migration : VMMigration) : Option Cluster :=
  (cluster.migration.write (·.objectMeta.resourceVersion)
    migration.objectMeta.resourceVersion (withStatus migration.status)).map
    ({ cluster with migration := · })

/-- Write metadata and spec over the version the writer saw. -/
def writeMigration (migration : VMMigration) : Option Cluster :=
  (cluster.migration.write (·.objectMeta.resourceVersion) migration.objectMeta.resourceVersion
    (withSpec · migration.objectMeta migration.spec)).map ({ cluster with migration := · })

/-- A new VirtualMachine as it is stored; its status subresource starts empty. -/
def newVM (vm : VirtualMachine) (uid : String) : VirtualMachine :=
  { vm with objectMeta := { vm.objectMeta with uid }, status := {} }

/-- `longOpInFlight`, a `sync.Map`, by the keys it holds. -/
def inFlightAnswer (inFlight : List String) : (c : Call) → Option (Answer c × List String)
  | .longOpLoad marker => some (inFlight.contains marker, inFlight)
  | .longOpLoadOrStore marker => some (inFlight.contains marker, marker :: inFlight)
  | .longOpDelete marker => some ((), inFlight.filter (· ≠ marker))
  | _ => none

/-- Carry out a call on the cluster's own objects or on the map in memory. -/
def carryOut (choice : Choice) : (c : Call) → Option (Answer c × Cluster)
  | .updateMigration migration =>
    match cluster.writeMigration migration with
    | some next => some (none, next)
    | none => some (some conflictError, cluster)
  | .statusUpdate migration =>
    match cluster.writeStatus migration with
    | some next =>
      some (.ok (next.migration.current.objectMeta, next.migration.current.spec), next)
    | none => some (.error conflictError, cluster)
  | .createVirtualMachine vm =>
    match cluster.vms.create (newVM vm choice.uid) with
    | none => some (some alreadyExistsError, cluster)
    | some vms =>
      some (none, { cluster with vms, created := newVM vm choice.uid :: cluster.created })
  | .updateVirtualMachine vm =>
    match cluster.vms.live vm.objectMeta.key, cluster.vms.update vm with
    | some old, some vms =>
      if old.objectMeta.resourceVersion = vm.objectMeta.resourceVersion then
        some (none, { cluster with vms })
      else some (some conflictError, cluster)
    | _, _ => some (some notFoundError, cluster)
  | .patchPowerOff vm =>
    match cluster.vms.live vm.objectMeta.key, cluster.vms.powerOff vm.objectMeta.key with
    | some old, some vms => some (.ok (VMStore.poweredOff old), { cluster with vms })
    | _, _ => some (.error notFoundError, cluster)
  | .deleteVirtualMachine vm =>
    match cluster.vms.delete vm.objectMeta.key choice.clock with
    | some vms => some (none, { cluster with vms })
    | none => some (some notFoundError, cluster)
  | c => (inFlightAnswer cluster.longOpInFlight c).map fun (answer, longOpInFlight) =>
      (answer, { cluster with longOpInFlight })

/-- A cached read of an object the cluster keeps. -/
def readLagging (lag : Nat) : (c : Call) → Option (Answer c)
  | .getMigration _ => (cluster.migration.read lag).map .ok
  | .getVirtualMachine key =>
    ((cluster.vms.versions key).read lag).map fun
      | some vm => .ok vm
      | none => .error notFoundError
  | _ => none

/-- How a call on the cluster's objects fails. -/
def failure (err : GoError) : (c : Call) → Option (Answer c)
  | .getMigration _ => some (.error err)
  | .getVirtualMachine _ => some (.error err)
  | .updateMigration _ => some (some err)
  | .statusUpdate _ => some (.error err)
  | .createVirtualMachine _ => some (some err)
  | .updateVirtualMachine _ => some (some err)
  | .patchPowerOff _ => some (.error err)
  | .deleteVirtualMachine _ => some (some err)
  | _ => none

/-- Calls the cluster does not determine. -/
def outside : Call → Bool
  | .getMigration _ | .updateMigration _ | .statusUpdate _ | .getVirtualMachine _
  | .createVirtualMachine _ | .updateVirtualMachine _ | .patchPowerOff _
  | .deleteVirtualMachine _ | .longOpLoad _ | .longOpLoadOrStore _ | .longOpDelete _ => false
  | _ => true

/-- Answer one call, after the edits of other clients. -/
def answer (cluster : Cluster) (c : Call) (choice : Choice) : Option (Answer c × Cluster) :=
  let edited := choice.edits.foldl applyEdit cluster
  match choice.reply with
  | .lagging lag => (edited.readLagging lag c).map (·, edited)
  | .accept => edited.carryOut choice c
  | .refuse err => (failure err c).map (·, edited)
  | .lose err =>
    match edited.carryOut choice c, failure err c with
    | some (_, next), some lost => some (lost, next)
    | _, _ => none
  | .reports said => if outside c then (said c).map (·, edited) else none

/-- A migration that was just created, in any cluster. -/
def Fresh (key : ObjectKey) (cluster : Cluster) : Prop :=
  cluster.migration.older = [] ∧ cluster.migration.current.objectMeta.key = key ∧
    cluster.migration.current.status = {} ∧ cluster.created = [] ∧ cluster.longOpInFlight = []

/-- How the migration gets a new version while a call is answered. -/
inductive Persists (edits : List Edit) (c : Call) (old : VMMigration) : VMMigration → Prop
  | edited {objectMeta spec} : Edit.editMigration objectMeta spec ∈ edits →
      Persists edits c old (withSpec old objectMeta spec)
  | updated {migration} : c = .updateMigration migration →
      Persists edits c old (withSpec old migration.objectMeta migration.spec)
  | statusWritten {migration} : c = .statusUpdate migration →
      Persists edits c old (withStatus migration.status old)

variable {cluster next : Cluster} {c : Call} {choice : Choice} {r : Answer c}

variable {migration : VMMigration}

theorem writeStatus_eq_some (h : cluster.writeStatus migration = some next) :
    next = cluster.storeMigration (withStatus migration.status cluster.migration.current) := by
  obtain ⟨history, hwrite, rfl⟩ := map_eq_some_iff.mp h
  rw [(write_eq_some.mp hwrite).2]
  rfl

theorem writeMigration_eq_some (h : cluster.writeMigration migration = some next) :
    next = cluster.storeMigration
      (withSpec cluster.migration.current migration.objectMeta migration.spec) := by
  obtain ⟨history, hwrite, rfl⟩ := map_eq_some_iff.mp h
  rw [(write_eq_some.mp hwrite).2]
  rfl

/-- An answer follows the edits; it carries the call out, or leaves the cluster alone. -/
theorem answer_cases (h : cluster.answer c choice = some (r, next)) :
    next = choice.edits.foldl applyEdit cluster ∨
      ∃ r', (choice.edits.foldl applyEdit cluster).carryOut choice c = some (r', next) := by
  unfold answer at h
  dsimp only at h
  split at h
  case h_1 | h_3 =>
    obtain ⟨_, _, hnext⟩ := map_eq_some_iff.mp h
    cases hnext
    exact .inl rfl
  · exact .inr ⟨r, h⟩
  · split at h
    · rename_i hcarry _
      cases h
      exact .inr ⟨_, hcarry⟩
    · cases h
  · split at h
    · obtain ⟨_, _, hnext⟩ := map_eq_some_iff.mp h
      cases hnext
      exact .inl rfl
    · cases h

variable {key : ObjectKey}

/-- A read of the migration answers a version that was persisted. -/
theorem answer_read {v : VMMigration}
    (h : cluster.answer (.getMigration key) choice = some (.ok v, next)) :
    v ∈ next.migration.all := by
  unfold answer at h
  split at h
  · obtain ⟨_, hread, hnext⟩ := map_eq_some_iff.mp h
    cases hnext
    obtain ⟨_, hread, hv⟩ := map_eq_some_iff.mp hread
    cases hv
    exact mem_of_read hread
  all_goals simp [carryOut, inFlightAnswer, failure, outside] at h

/-- A status write that succeeds answers metadata and spec of the version it made. -/
theorem answer_written {objectMeta : ObjectMeta} {spec : VMMigrationSpec}
    (h : cluster.answer (.statusUpdate migration) choice = some (.ok (objectMeta, spec), next)) :
    next.migration.current.objectMeta = objectMeta ∧ next.migration.current.spec = spec ∧
      next.migration.current.status = migration.status := by
  unfold answer at h
  split at h
  · cases h
  · unfold carryOut at h
    dsimp only at h
    split at h
    · rename_i hwrite
      cases h
      refine ⟨rfl, rfl, ?_⟩
      rw [writeStatus_eq_some hwrite]
      rfl
    · cases h
  · cases h
  · simp only [failure] at h
    split at h <;> simp_all
  · cases h

/-- How a key of the VirtualMachines changes while a call is answered; `made` are the
objects the controller has created by then. -/
inductive VMChange (choice : Choice) (c : Call) (made : List VirtualMachine) (key : ObjectKey) :
    Option VirtualMachine → Option VirtualMachine → Prop
  | same {old new} : VMStore.SameObject old new → VMChange choice c made key old new
  | createdElsewhere {vm} : Edit.createVirtualMachine vm ∈ choice.edits →
      key = vm.objectMeta.key → VMChange choice c made key none (some vm)
  | removed {old} : Edit.removeVirtualMachine key ∈ choice.edits →
      VMChange choice c made key old none
  | created {vm} : c = .createVirtualMachine vm → key = vm.objectMeta.key →
      newVM vm choice.uid ∈ made → VMChange choice c made key none (some (newVM vm choice.uid))
  | deleted {vm old} : c = .deleteVirtualMachine vm → key = vm.objectMeta.key →
      VMChange choice c made key (some old) (VMStore.deleted choice.clock old)

/-- What the edits and the call make of the cluster. -/
structure Carried (choice : Choice) (c : Call) (made : List VirtualMachine)
    (cluster next : Cluster) : Prop where
  migration : Grows (Persists choice.edits c) cluster.migration next.migration
  vms (key : ObjectKey) : Grows (VMChange choice c made key) (cluster.vms.versions key)
    (next.vms.versions key)
  created : cluster.created ⊆ next.created

namespace Carried

variable {made : List VirtualMachine}

theorem refl (cluster : Cluster) : Carried choice c made cluster cluster :=
  ⟨.refl _, fun _ => .refl _, Subset.refl _⟩

theorem trans {middle : Cluster} (h : Carried choice c made cluster middle)
    (h' : Carried choice c made middle next) : Carried choice c made cluster next :=
  ⟨h.migration.trans h'.migration, fun key => (h.vms key).trans (h'.vms key),
    Subset.trans h.created h'.created⟩

theorem push {v : VMMigration} (h : Persists choice.edits c cluster.migration.current v) :
    Carried choice c made cluster (cluster.storeMigration v) :=
  { refl cluster with migration := (Grows.refl _).push h }

theorem stored {vms : VMStore} (h : ∀ key, Grows (VMChange choice c made key)
    (cluster.vms.versions key) (vms.versions key)) :
    Carried choice c made cluster { cluster with vms } :=
  ⟨.refl _, h, Subset.refl _⟩

theorem storeVMs {vms : Option VMStore}
    (h : ∀ after, vms = some after → ∀ key, Grows (VMChange choice c made key)
      (cluster.vms.versions key) (after.versions key)) :
    Carried choice c made cluster (cluster.storeVMs vms) := by
  cases vms with
  | none => exact refl cluster
  | some after => exact stored (h after rfl)

theorem applyEdit {edit : Edit} (hedit : edit ∈ choice.edits) :
    Carried choice c made cluster (cluster.applyEdit edit) := by
  cases edit with
  | editMigration objectMeta spec => exact push (.edited hedit)
  | createVirtualMachine vm =>
    refine storeVMs fun after hafter key => (VMStore.create_grows hafter key).mono ?_
    rintro _ _ ⟨hkey, rfl, rfl⟩
    exact .createdElsewhere hedit hkey
  | replaceVirtualMachine vm =>
    exact storeVMs fun after hafter key =>
      (VMStore.replace_grows hafter key).mono fun _ _ => .same
  | removeVirtualMachine removed =>
    refine storeVMs fun after hafter key => (VMStore.modify_grows hafter key).mono ?_
    rintro _ _ ⟨rfl, old, rfl, rfl⟩
    exact .removed hedit

theorem edits (choice : Choice) (c : Call) (made : List VirtualMachine) (cluster : Cluster) :
    Carried choice c made cluster (choice.edits.foldl Cluster.applyEdit cluster) :=
  foldlRecOn choice.edits Cluster.applyEdit (motive := Carried choice c made cluster)
    (refl cluster) fun _ hlast _ hedit => hlast.trans (applyEdit hedit)

end Carried

theorem carryOut_carried (h : cluster.carryOut choice c = some (r, next)) :
    Carried choice c next.created cluster next := by
  unfold carryOut at h
  split at h
  · split at h
    · rename_i hwrite
      cases h
      rw [writeMigration_eq_some hwrite]
      exact .push (.updated rfl)
    · cases h
      exact .refl _
  · split at h
    · rename_i hwrite
      cases h
      rw [writeStatus_eq_some hwrite]
      exact .push (.statusWritten rfl)
    · cases h
      exact .refl _
  · split at h
    · cases h
      exact .refl _
    · rename_i hcreate
      cases h
      refine ⟨.refl _, fun key => (VMStore.create_grows hcreate key).mono ?_,
        subset_cons_self _ _⟩
      rintro _ _ ⟨hkey, rfl, rfl⟩
      exact .created rfl hkey (.head _)
  · split at h
    · rename_i hupdate
      split at h <;> cases h
      · exact .stored fun key => (VMStore.update_grows hupdate key).mono fun _ _ => .same
      · exact .refl _
    · cases h
      exact .refl _
  · split at h
    · rename_i hpatch
      cases h
      exact .stored fun key => (VMStore.powerOff_grows hpatch key).mono fun _ _ => .same
    · cases h
      exact .refl _
  · split at h
    · rename_i hdelete
      cases h
      refine .stored fun key => (VMStore.modify_grows hdelete key).mono ?_
      rintro _ _ ⟨hkey, old, rfl, rfl⟩
      exact .deleted rfl hkey
    · cases h
      exact .refl _
  · obtain ⟨_, _, hnext⟩ := map_eq_some_iff.mp h
    cases hnext
    exact { Carried.refl cluster with }

/-- What an answer does. Objects the controller created stay on record. -/
theorem answer_carried (h : cluster.answer c choice = some (r, next)) :
    Carried choice c next.created cluster next := by
  have hedits := Carried.edits choice c next.created cluster
  rcases answer_cases h with rfl | ⟨r', hcarry⟩
  · exact hedits
  · exact hedits.trans (carryOut_carried hcarry)

theorem answer_grows (h : cluster.answer c choice = some (r, next)) :
    Grows (Persists choice.edits c) cluster.migration next.migration :=
  (answer_carried h).migration

/-- A read of a VirtualMachine answers a version that was stored. -/
theorem answer_vm_read {vm : VirtualMachine}
    (h : cluster.answer (.getVirtualMachine key) choice = some (.ok vm, next)) :
    some vm ∈ (next.vms.versions key).all := by
  unfold answer at h
  split at h
  · obtain ⟨_, hread, hnext⟩ := map_eq_some_iff.mp h
    cases hnext
    obtain ⟨found, hread, hvm⟩ := map_eq_some_iff.mp hread
    cases found with
    | none => cases hvm
    | some found =>
      cases hvm
      exact mem_of_read hread
  all_goals simp [carryOut, inFlightAnswer, failure, outside] at h

end Cluster

/-- Serialized reconciles of one migration, from its creation. -/
def system (r : Reconciler) (key : ObjectKey) : System Call Answer Cluster Choice Return where
  host := ⟨Cluster.answer⟩
  program := r.reconcile key
  restart cluster := { cluster with longOpInFlight := [] }
  init := Cluster.Fresh key

end Virtrigaud.Migration
