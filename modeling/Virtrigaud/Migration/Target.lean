import Virtrigaud.Migration.Runs

/-!
# The target of a migration

The target VirtualMachine is looked up by name in three phases. A migration reaches
Ready, and deletes its source, with a target of its own when the target key differs
from the source key, nothing stands under it at the start, and other clients neither
create nor remove objects there. A VirtualMachine that stood under the target key
before is taken for the migrated one.
-/

namespace Virtrigaud.Migration

open Effects Program Cluster List Option

/-- `handleCreatingPhase` made the object, from a disk this migration imported. -/
def CreatedHere (cluster : Cluster) (vm : VirtualMachine) : Prop :=
  ∃ made ∈ cluster.created, made.objectMeta.uid = vm.objectMeta.uid ∧
    ∃ v ∈ cluster.migration.all,
      made.spec.importedDisk.map ImportedDiskRef.diskID = some v.status.importID

/-- Nothing stands under the target key, which is not the source key. -/
def TargetFree (cluster : Cluster) : Prop :=
  targetKey cluster.migration.current ≠ sourceKey cluster.migration.current ∧
    (cluster.vms.versions (targetKey cluster.migration.current)).all = [none] ∧
    cluster.migration.current.objectMeta.deletionTimestamp = none

/-- The edit leaves the target key to the migration, and the migration its names. -/
def leavesTarget (v : VMMigration) : Edit → Bool
  | .editMigration objectMeta spec => objectMeta.deletionTimestamp.isNone &&
      decide (spec.target.name = v.spec.target.name ∧ spec.target.ns = v.spec.target.ns ∧
        spec.source.vmRef = v.spec.source.vmRef)
  | .createVirtualMachine vm => vm.objectMeta.key ≠ targetKey v
  | .replaceVirtualMachine _ => true
  | .removeVirtualMachine key => key ≠ targetKey v

/-- All edits of other clients in an episode leave the target key to the migration. -/
def othersLeaveTarget (cluster : Cluster) (_ : List LogEntry) (choices : List Choice)
    (_ : List LogEntry) : Bool :=
  choices.all fun choice => choice.edits.all (leavesTarget cluster.migration.current)

/-- The names that a migration uses throughout. -/
structure Names (first v : VMMigration) : Prop where
  ns : v.objectMeta.ns = first.objectMeta.ns
  targetName : v.spec.target.name = first.spec.target.name
  targetNs : v.spec.target.ns = first.spec.target.ns
  source : v.spec.source.vmRef = first.spec.source.vmRef
  live : v.objectMeta.deletionTimestamp = none

namespace Names

variable {first v w : VMMigration}

section

variable (h : Names first v)
include h

theorem targetKey : Migration.targetKey v = Migration.targetKey first := by
  unfold Migration.targetKey
  rw [h.ns, h.targetName, h.targetNs, h.source]

theorem sourceKey : Migration.sourceKey v = Migration.sourceKey first := by
  unfold Migration.sourceKey
  rw [h.ns, h.source]

theorem withStatus (status : VMMigrationStatus) :
    Names first (withStatus status v) :=
  ⟨h.ns, h.targetName, h.targetNs, h.source, h.live⟩

/-- A write of metadata and spec that were read from some version. -/
theorem withSpec (hw : Names first w) {objectMeta : ObjectMeta}
    (hlive : objectMeta.deletionTimestamp = w.objectMeta.deletionTimestamp) :
    Names first (withSpec v objectMeta w.spec) :=
  ⟨h.ns, hw.targetName, hw.targetNs, hw.source, hlive.trans hw.live⟩

theorem edited {objectMeta : ObjectMeta} {spec : VMMigrationSpec}
    (hedit : leavesTarget first (.editMigration objectMeta spec) = true) :
    Names first (Cluster.withSpec v objectMeta spec) := by
  simp only [leavesTarget, Bool.and_eq_true, decide_eq_true_eq, isNone_iff_eq_none] at hedit
  exact ⟨h.ns, hedit.2.1, hedit.2.2.1, hedit.2.2.2, hedit.1⟩

end

end Names

/-- What holds throughout of the target key of a migration that started as `first`. -/
structure Guarded (first : VMMigration) (cluster : Cluster) (trace : List LogEntry) : Prop where
  names : ∀ v ∈ cluster.migration.all, Names first v
  made : ∀ vm, some vm ∈ (cluster.vms.versions (targetKey first)).all → CreatedHere cluster vm
  kept : (∃ vm, some vm ∈ (cluster.vms.versions (targetKey first)).all) →
    ∃ vm, cluster.vms.live (targetKey first) = some vm
  phases : ∀ v ∈ cluster.migration.all,
    v.status.phase = .validatingTarget ∨ v.status.phase = .ready →
    ∃ vm, some vm ∈ (cluster.vms.versions (targetKey first)).all
  deletions : ∀ vm answer, ⟨.deleteVirtualMachine vm, answer⟩ ∈ trace →
    ∃ vm, some vm ∈ (cluster.vms.versions (targetKey first)).all

/-- What a reconcile has read so far is in the store. -/
structure Reads (key : ObjectKey) (cluster : Cluster) (log : List LogEntry) : Prop where
  migration : ReadPersisted key cluster.migration log
  vms : ∀ name vm, ⟨.getVirtualMachine name, .ok vm⟩ ∈ log →
    some vm ∈ (cluster.vms.versions name).all

section Step

variable {first : VMMigration} {key : ObjectKey} {cluster next : Cluster}
  {log trace : List LogEntry} {c : Call} {choice : Choice} {answer : Answer c}

theorem CreatedHere.mono {vm : VirtualMachine} (h : CreatedHere cluster vm)
    (hanswer : cluster.answer c choice = some (answer, next)) : CreatedHere next vm := by
  obtain ⟨made, hmade, huid, v, hv, hdisk⟩ := h
  exact ⟨made, (answer_carried hanswer).created hmade, huid, v,
    (answer_grows hanswer).subset hv, hdisk⟩

theorem Reads.step (h : Reads key cluster log)
    (hanswer : cluster.answer c choice = some (answer, next)) :
    Reads key next (⟨c, answer⟩ :: log) := by
  refine ⟨h.migration.step hanswer, fun name vm hvm => ?_⟩
  rcases mem_cons.mp hvm with heq | hold
  · cases heq
    exact answer_vm_read hanswer
  · exact ((answer_carried hanswer).vms name).subset (h.vms name vm hold)

variable (hreads : Reads key cluster log) (hallowed : Allowed key log c)
  (hedits : ∀ edit ∈ choice.edits, leavesTarget first edit = true)
  (hanswer : cluster.answer c choice = some (answer, next))
include hreads hallowed hedits hanswer

theorem Guarded.names_step (h : Guarded first cluster trace) :
    ∀ v ∈ next.migration.all, Names first v := by
  refine (answer_grows hanswer).forall_mem h.names ?_
  intro old new hold hpersists
  cases hpersists with
  | edited hedit => exact hold.edited (hedits _ hedit)
  | updated hcall =>
    subst hcall
    obtain ⟨read, hread, hspec, finalizers, hmeta⟩ := hallowed
    rw [hspec]
    exact hold.withSpec (h.names read (hreads.migration read hread)) (by rw [hmeta])
  | statusWritten => exact hold.withStatus _

/-- Only `handleCreatingPhase` puts an object under the target key, and none is
removed from it. -/
theorem Guarded.target_step (h : Guarded first cluster trace)
    (hkeys : targetKey first ≠ sourceKey first) :
    (∀ vm, some vm ∈ (next.vms.versions (targetKey first)).all → CreatedHere next vm) ∧
      ((∃ vm, some vm ∈ (next.vms.versions (targetKey first)).all) →
        ∃ vm, next.vms.live (targetKey first) = some vm) := by
  refine ((answer_carried hanswer).vms (targetKey first)).induct
    (P := fun history => (∀ vm, some vm ∈ history.all → CreatedHere next vm) ∧
      ((∃ vm, some vm ∈ history.all) → ∃ vm, history.current = some vm))
    ⟨fun vm hvm => (h.made vm hvm).mono hanswer, h.kept⟩ ?_
  rintro history new ⟨hmade, hkept⟩ hchange
  have hpush : ∀ stored, new = some stored → CreatedHere next stored →
      (∀ vm, some vm ∈ (history.push new).all → CreatedHere next vm) ∧
        ((∃ vm, some vm ∈ (history.push new).all) →
          ∃ vm, (history.push new).current = some vm) := by
    rintro stored rfl hstored
    refine ⟨fun vm hvm => ?_, fun _ => ⟨stored, rfl⟩⟩
    rcases History.mem_all_push.mp hvm with heq | hold
    · obtain rfl := some.inj heq
      exact hstored
    · exact hmade vm hold
  generalize hcurrent : history.current = before at hchange
  cases hchange with
  | same hsame =>
    obtain ⟨old, stored, rfl, rfl, huid⟩ := hsame
    obtain ⟨made, hmem, hmadeUid, hdisk⟩ := hmade old (hcurrent ▸ History.current_mem_all history)
    exact hpush stored rfl ⟨made, hmem, hmadeUid.trans huid.symm, hdisk⟩
  | createdElsewhere hedit hkey =>
    have hleaves := hedits _ hedit
    simp only [leavesTarget, ne_eq, decide_not, Bool.not_eq_eq_eq_not, Bool.not_true,
      decide_eq_false_iff_not] at hleaves
    exact absurd hkey.symm hleaves
  | removed hedit =>
    have hleaves := hedits _ hedit
    simp [leavesTarget] at hleaves
  | created hcall hkey hmem =>
    subst hcall
    obtain ⟨v, hread, -, ⟨diskInfo, -, rfl⟩, -⟩ := hallowed
    have hv := (answer_grows hanswer).subset (hreads.migration v hread)
    exact hpush _ rfl ⟨_, hmem, rfl, v, hv, rfl⟩
  | deleted hcall hkey =>
    subst hcall
    obtain ⟨v, hread, ⟨-, -, -, hsource⟩ | ⟨hdeleted, -⟩⟩ := hallowed
    · have hnames := h.names v (hreads.migration v hread)
      have hsourceKey := cluster.vms.keyed _ _ (hreads.vms _ _ hsource)
      rw [hnames.sourceKey] at hsourceKey
      exact absurd (hkey.trans hsourceKey) hkeys
    · rw [(h.names v (hreads.migration v hread)).live] at hdeleted
      cases hdeleted

theorem Guarded.step (h : Guarded first cluster (log ++ trace))
    (hkeys : targetKey first ≠ sourceKey first) :
    Guarded first next (⟨c, answer⟩ :: log ++ trace) := by
  have htarget := h.target_step hreads hallowed hedits hanswer hkeys
  have hpresent : (∃ vm, some vm ∈ (cluster.vms.versions (targetKey first)).all) →
      ∃ vm, some vm ∈ (next.vms.versions (targetKey first)).all := fun ⟨vm, hvm⟩ =>
    ⟨vm, ((answer_carried hanswer).vms _).subset hvm⟩
  refine ⟨h.names_step hreads hallowed hedits hanswer, htarget.1, htarget.2, ?_, ?_⟩
  · refine (answer_grows hanswer).forall_mem
      (fun v hv hphase => hpresent (h.phases v hv hphase)) ?_
    intro old new hold hpersists hphase
    cases hpersists with
    | edited | updated => exact hold hphase
    | statusWritten hcall =>
      subst hcall
      obtain ⟨read, hread, hwrites⟩ := hallowed
      have hmem := hreads.migration read hread
      rcases hwrites.phase_target hphase with hsame | ⟨vm, hvm⟩
      · exact hpresent (h.phases read hmem hsame)
      · rw [(h.names read hmem).targetKey] at hvm
        exact hpresent ⟨vm, hreads.vms _ vm hvm⟩
  · intro vm deleteAnswer hdelete
    rcases mem_cons.mp hdelete with heq | hold
    · cases heq
      obtain ⟨v, hread, ⟨-, hready, -⟩ | ⟨hdeleted, -⟩⟩ := hallowed
      · exact hpresent (h.phases v (hreads.migration v hread) (.inr hready))
      · rw [(h.names v (hreads.migration v hread)).live] at hdeleted
        cases hdeleted
    · exact hpresent (h.deletions vm deleteAnswer hold)

end Step

/-- The edits that leave the target key to the migration are the same throughout. -/
theorem leavesTarget_congr {first v : VMMigration} (h : Names first v) (edit : Edit) :
    leavesTarget v edit = leavesTarget first edit := by
  cases edit with
  | editMigration objectMeta spec =>
    simp only [leavesTarget, h.targetName, h.targetNs, h.source]
  | createVirtualMachine vm | removeVirtualMachine name => simp only [leavesTarget, h.targetKey]
  | replaceVirtualMachine vm => rfl

theorem Guarded.episode {r : Reconciler} {key : ObjectKey} {first : VMMigration}
    {cluster : Cluster} {trace : List LogEntry} {choices : List Choice}
    {out : Outcome Call Answer Cluster Return} (h : Guarded first cluster trace)
    (hkeys : targetKey first ≠ sourceKey first)
    (hrun : (system r key).Episode cluster choices out)
    (hleave : othersLeaveTarget cluster trace choices out.log = true) :
    Guarded first ((system r key).settle out) (out.log ++ trace) := by
  have hnames := h.names _ (History.current_mem_all cluster.migration)
  have hedits : ∀ choice ∈ choices, ∀ edit ∈ choice.edits, leavesTarget first edit = true := by
    intro choice hchoice edit hedit
    rw [← leavesTarget_congr hnames]
    exact all_eq_true.mp (all_eq_true.mp hleave choice hchoice) edit hedit
  have hend : Guarded first out.state (out.log ++ trace) ∧ Reads key out.state out.log := by
    refine ((reconcile_obeys r key).run_induct (I := fun s log =>
      Guarded first s (log ++ trace) ∧ Reads key s log) hrun hedits
      ⟨h, readPersisted_nil _, fun _ _ hvm => by cases hvm⟩ ?_).1
    rintro s log c choice answer next ⟨hguarded, hreads⟩ hallowed hchoice hanswer -
    exact ⟨hguarded.step hreads hallowed hchoice hanswer hkeys, hreads.step hanswer⟩
  -- A lost process loses nothing of what is stored.
  unfold System.settle
  split
  · exact hend.1
  · exact ⟨hend.1.names, hend.1.made, hend.1.kept, hend.1.phases, hend.1.deletions⟩

theorem guarded_of_fresh {key : ObjectKey} {cluster : Cluster} (hfresh : cluster.Fresh key)
    (hfree : TargetFree cluster) : Guarded cluster.migration.current cluster [] := by
  obtain ⟨holder, -, hstatus, -⟩ := hfresh
  obtain ⟨-, hnone, hlive⟩ := hfree
  have habsent : ¬ ∃ vm, some vm ∈
      (cluster.vms.versions (targetKey cluster.migration.current)).all := by
    rintro ⟨vm, hvm⟩
    rw [hnone] at hvm
    cases mem_singleton.mp hvm
  refine ⟨History.forall_mem_of_new holder ⟨rfl, rfl, rfl, rfl, hlive⟩,
    fun vm hvm => absurd ⟨vm, hvm⟩ habsent, fun h => absurd h habsent,
    History.forall_mem_of_new holder fun hphase => ?_, fun vm answer hdelete => by cases hdelete⟩
  rw [hstatus] at hphase
  rcases hphase with h | h <;> cases h

/-- A migration whose target key is free, and is left to it, reaches Ready and deletes
its source only while a VirtualMachine of its own stands there, which is not the source. -/
theorem ready_with_own_target (r : Reconciler) (key : ObjectKey) {cluster : Cluster}
    {trace : List LogEntry}
    (hrun : ((system r key).startingFrom TargetFree).Reach
      (fun cluster trace choices log => othersLeaveTarget cluster trace choices log = true)
      cluster trace)
    (hend : (∃ v ∈ cluster.migration.all, v.status.phase = .ready) ∨
      ∃ vm answer, ⟨.deleteVirtualMachine vm, answer⟩ ∈ trace) :
    ∃ vm, cluster.vms.live (targetKey cluster.migration.current) = some vm ∧
      CreatedHere cluster vm ∧
      targetKey cluster.migration.current ≠ sourceKey cluster.migration.current := by
  have hguarded : ∃ first, targetKey first ≠ sourceKey first ∧ Guarded first cluster trace := by
    refine hrun.invariant (J := fun s trace => ∃ first,
      targetKey first ≠ sourceKey first ∧ Guarded first s trace) ?_ ?_
    · rintro s ⟨hfresh, hfree⟩
      exact ⟨s.migration.current, hfree.1, guarded_of_fresh hfresh hfree⟩
    · rintro s trace choices out ⟨first, hkeys, hguarded⟩ hepisode hleave
      exact ⟨first, hkeys, hguarded.episode hkeys hepisode hleave⟩
  obtain ⟨first, hkeys, hguarded⟩ := hguarded
  have hnames := hguarded.names _ (History.current_mem_all _)
  have hpresent : ∃ vm, some vm ∈ (cluster.vms.versions (targetKey first)).all := by
    rcases hend with ⟨v, hv, hready⟩ | ⟨vm, answer, hdelete⟩
    · exact hguarded.phases v hv (.inr hready)
    · exact hguarded.deletions vm answer hdelete
  obtain ⟨vm, hvm⟩ := hguarded.kept hpresent
  rw [hnames.targetKey, hnames.sourceKey]
  exact ⟨vm, hvm, hguarded.made vm (hvm ▸ History.current_mem_all _), hkeys⟩

open Sample

/-- A VirtualMachine that was running under the target key before the migration is taken
for the migrated one: the migration is Ready without having created anything, and the
source is gone. -/
theorem ready_with_foreign_target : ∃ cluster trace,
    (system reconciler key).Reach (fun _ _ _ _ => True) cluster trace ∧
    (∃ v ∈ cluster.migration.all, v.status.phase = .ready) ∧
    cluster.vms.live (sourceKey migration) = none ∧
    (∃ vm, cluster.vms.live (targetKey migration) = some vm ∧
      ¬ CreatedHere cluster vm) := by
  refine (system reconciler key).exists_reach
    (P := fun cluster _ => (∃ v ∈ cluster.migration.all, v.status.phase = .ready) ∧
      cluster.vms.live (sourceKey migration) = none ∧
      (cluster.vms.live (targetKey migration)).isSome = true ∧ cluster.created = [])
    (untilCreating ++ findTarget ++ [finish])
    (fresh_cluster [runningTarget "vm-9"]) (fun cluster trace _ hshows => ?_)
    (by decide +kernel)
  obtain ⟨hready, hsource, htarget, hcreated⟩ := hshows
  obtain ⟨vm, hvm⟩ := isSome_iff_exists.mp htarget
  refine ⟨hready, hsource, vm, hvm, ?_⟩
  rintro ⟨made, hmade, -⟩
  rw [hcreated] at hmade
  cases hmade

/-- A migration that creates its target, finds it ready and deletes its source. -/
theorem ready_with_own_target_sample : ∃ cluster trace,
    ((system reconciler key).startingFrom TargetFree).Reach
      (fun cluster trace choices log => othersLeaveTarget cluster trace choices log = true)
      cluster trace ∧
    (∃ v ∈ cluster.migration.all, v.status.phase = .ready) ∧
    cluster.vms.live (sourceKey migration) = none ∧
    ∃ vm, cluster.vms.live (targetKey cluster.migration.current) = some vm ∧
      CreatedHere cluster vm := by
  let script := untilCreating ++ [
    [cached 0, cached 0, { uid := "vm-1", reply := .accept }, done],
    -- The VirtualMachine controller brings the target up.
    [{ edits := [.replaceVirtualMachine (runningTarget "")], reply := .lagging 0 },
      cached 0, done],
    [cached 0, cached 0, clock, done, done],
    finish]
  have hfree : TargetFree (cluster []) := by
    unfold TargetFree
    decide +kernel
  refine System.exists_reach _ (P := fun cluster _ =>
      (∃ v ∈ cluster.migration.all, v.status.phase = .ready) ∧
      cluster.vms.live (sourceKey migration) = none) script
    ⟨fresh_cluster [], hfree⟩ (fun cluster trace hreach hshows => ?_) (by decide +kernel)
  obtain ⟨vm, hvm, hcreated, -⟩ := ready_with_own_target reconciler key hreach
    (.inl hshows.1)
  exact ⟨hshows.1, hshows.2, vm, hvm, hcreated⟩

end Virtrigaud.Migration
