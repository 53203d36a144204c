import Virtrigaud.Clone.Once
import Virtrigaud.VM.Reconcile

/-!
# The object a clone binds

`bindTargetVM` takes whatever object it finds under the target key for its own, and a
Create that fails ends the clone. As long as other clients leave the name, the ID and the
label of the target alone and Create fails only because the object exists, the object that
gets the ID is one the controller created, a Ready clone is bound to it, and no other error
on the object fails the clone.
-/

namespace Virtrigaud.Clone

open Effects Program VMStore Cluster List

/-- The key of the target, for a clone in a namespace. -/
def aim (ns : String) (target : VMCloneTarget) : ObjectKey :=
  ⟨if target.ns = "" then ns else target.ns, target.name⟩

theorem targetKey_eq_aim (clone : VMClone) :
    targetKey clone = aim clone.objectMeta.ns clone.spec.target := rfl

/-- The edits that leave the target to the clone: no object comes or goes under its key, its
ID and its label stay, and the clone keeps its target. -/
def Gentle (ns : String) (target : ObjectKey) : Edit → Prop
  | .editClone _ spec => aim ns spec.target = target
  | .createVirtualMachine vm => vm.objectMeta.key ≠ target
  | .modifyVirtualMachine key update => key = target → ∀ vm,
      (update vm).status.id = vm.status.id ∧ VM.vmIsAdopted (update vm) = VM.vmIsAdopted vm
  | .removeVirtualMachine key => key ≠ target

/-- The condition on one answer: a refused call does not claim that the object is absent. -/
def Choice.Gentle (ns : String) (target : ObjectKey) (choice : Choice) : Prop :=
  (∀ edit ∈ choice.edits, Clone.Gentle ns target edit) ∧
    ∀ err, choice.reply = .refuse err → err.reason ≠ .notFound

/-- The condition on a reconcile: gentle answers, and a Create that fails only because the
object exists. -/
structure Undisturbed (ns : String) (target : ObjectKey) (choices : List Choice)
    (episode : List LogEntry) : Prop where
  gentle : ∀ choice ∈ choices, choice.Gentle ns target
  creates : ∀ vm err, ⟨.createVirtualMachine vm, some err⟩ ∈ episode → err.reason = .alreadyExists

/-- The clone aims at the key, and reads of it agree on whether an object was there before. -/
def StartsClear (target : ObjectKey) (cluster : Cluster) : Prop :=
  targetKey cluster.clone.current = target ∧
    ((∀ w ∈ (cluster.vms.versions target).all, w = none) ∨
      ∀ w ∈ (cluster.vms.versions target).all, w ≠ none)

/-- The object is one that `bindTargetVM` created. -/
def Owned (cluster : Cluster) (vm : VirtualMachine) : Prop :=
  ∃ made ∈ cluster.created, made.objectMeta.key = vm.objectMeta.key ∧
    made.objectMeta.uid = vm.objectMeta.uid

variable {vm : VirtualMachine}

namespace Cluster

variable {cluster next : Cluster} {c : Call} {choice : Choice} {r : Answer c}

theorem answer_created (h : cluster.answer c choice = some (r, next)) :
    cluster.created ⊆ next.created := by
  refine answer_induct (P := fun last => cluster.created ⊆ last.created) h
    (Subset.refl _) fun before after hbefore hchange => ?_
  cases hchange with
  | created => exact Subset.trans hbefore (subset_cons_self _ _)
  | _ => exact hbefore

/-- A VirtualMachine that is read is one of its versions. -/
theorem answer_readVM {key : ObjectKey}
    (h : cluster.answer (.getVirtualMachine key) choice = some (.ok vm, next)) :
    some vm ∈ (next.vms.versions key).all := by
  unfold answer at h
  split at h
  · obtain ⟨_, hread, hnext⟩ := Option.map_eq_some_iff.mp h
    cases hnext
    obtain ⟨version, hread, hv⟩ := Option.map_eq_some_iff.mp hread
    cases version with
    | none => cases hv
    | some found =>
      cases hv
      exact History.mem_of_read hread
  all_goals simp [carryOut, failure, outside] at h

/-- One that is said to be absent was so in some version, unless the call was refused. -/
theorem answer_absent {key : ObjectKey} {err : GoError}
    (h : cluster.answer (.getVirtualMachine key) choice = some (.error err, next)) :
    none ∈ (next.vms.versions key).all ∨ choice.reply = .refuse err := by
  unfold answer at h
  split at h
  · obtain ⟨_, hread, hnext⟩ := Option.map_eq_some_iff.mp h
    cases hnext
    obtain ⟨version, hread, hv⟩ := Option.map_eq_some_iff.mp hread
    cases version with
    | none => exact .inl (History.mem_of_read hread)
    | some found => cases hv
  · simp [carryOut] at h
  · rename_i hreply
    cases h
    exact .inr hreply
  · simp [carryOut] at h
  · simp [outside] at h

/-- A status write of a VirtualMachine that is acknowledged is the live status. -/
theorem answer_seeded (h : cluster.answer (.vmStatusUpdate vm) choice = some (none, next)) :
    ∃ live, next.vms.live vm.objectMeta.key = some live ∧ live.status = vm.status := by
  unfold answer at h
  split at h
  · cases h
  · unfold carryOut at h
    dsimp only at h
    split at h
    · rename_i hwrite
      split at h
      · cases h
        obtain ⟨old, -, hkey, rfl⟩ := VMStore.modify_eq_some hwrite
        refine ⟨VMStore.withStatus vm.status old, ?_, rfl⟩
        rw [VMStore.live_put_self]
      · cases h
    · cases h
  · cases h
  · simp only [failure] at h
    split at h <;> simp_all
  · cases h

/-- Versions of a VirtualMachine are never taken back. -/
theorem answer_vms (h : cluster.answer c choice = some (r, next)) (key : ObjectKey) :
    (cluster.vms.versions key).all ⊆ (next.vms.versions key).all := by
  refine answer_induct (P := fun last => (cluster.vms.versions key).all ⊆
    (last.vms.versions key).all) h (Subset.refl _) fun before after hbefore hchange => ?_
  cases hchange with
  | edited | updated | statusWritten => exact hbefore
  | _ => exact Subset.trans hbefore (subset_put (by assumption) key)

end Cluster

section Versions

variable {key target : ObjectKey} {id : String} {cluster next : Cluster} {c : Call}
  {choice : Choice} {r : Answer c}

theorem Owned.mono (h : Owned cluster vm) (hcreated : cluster.created ⊆ next.created) :
    Owned next vm := by
  obtain ⟨made, hmade, hsame⟩ := h
  exact ⟨made, hcreated hmade, hsame⟩

/-- Each version of the target is an object of this clone, and once one has an ID the live
one has it. -/
structure Ours (target : ObjectKey) (id : String) (cluster : Cluster) : Prop where
  versions : ∀ w, some w ∈ (cluster.vms.versions target).all →
    Owned cluster w ∧ VM.vmIsAdopted w = true ∧ (w.status.id = "" ∨ w.status.id = id)
  kept : ∀ w, some w ∈ (cluster.vms.versions target).all →
    ∃ vm, cluster.vms.live target = some vm ∧ (w.status.id ≠ "" → vm.status.id = w.status.id)

theorem Ours.live (h : Ours target id cluster) (hlive : cluster.vms.live target = some vm) :
    Owned cluster vm ∧ VM.vmIsAdopted vm = true ∧ (vm.status.id = "" ∨ vm.status.id = id) :=
  h.versions vm (mem_of_live _ hlive)

/-- A new version of the target that keeps its ID, and any version of another object. -/
theorem Ours.put {other : ObjectKey} {new : Option VirtualMachine} {hkey}
    {created : List VirtualMachine} (h : Ours target id cluster)
    (hcreated : cluster.created ⊆ created)
    (hnew : other = target → ∃ vm, new = some vm ∧
      Owned { cluster with created } vm ∧ VM.vmIsAdopted vm = true ∧
      (vm.status.id = "" ∨ vm.status.id = id) ∧
      ∀ w, some w ∈ (cluster.vms.versions target).all → w.status.id ≠ "" →
        vm.status.id = w.status.id) :
    Ours target id { cluster with vms := cluster.vms.put other new hkey, created } := by
  by_cases hother : other = target
  · subst hother
    obtain ⟨vm, rfl, howned, hadopted, hid, hkeeps⟩ := hnew rfl
    have hlive : (cluster.vms.put other (some vm) hkey).live other = some vm :=
      live_put_self
    refine ⟨fun w hw => ?_, fun w hw => ⟨vm, hlive, fun hne => ?_⟩⟩
    · rcases mem_put hkey hw with ⟨-, heq⟩ | hold
      · cases heq
        exact ⟨howned, hadopted, hid⟩
      · obtain ⟨howned', hrest⟩ := h.versions w hold
        exact ⟨howned'.mono hcreated, hrest⟩
    · rcases mem_put hkey hw with ⟨-, heq⟩ | hold
      · cases heq
        rfl
      · exact hkeeps w hold hne
  · have hsame : (cluster.vms.put other new hkey).versions target = cluster.vms.versions target :=
      put_versions_of_ne (Ne.symm hother)
    refine ⟨fun w hw => ?_, fun w hw => ?_⟩
    · rw [hsame] at hw
      obtain ⟨howned, hrest⟩ := h.versions w hw
      exact ⟨howned.mono hcreated, hrest⟩
    · rw [hsame] at hw
      obtain ⟨vm, hlive, hid⟩ := h.kept w hw
      refine ⟨vm, ?_, hid⟩
      rw [live_put_of_ne (Ne.symm hother), hlive]

/-- What the controller may do to an object: create it adopted, and give it the ID. -/
structure Seeds (id : String) (c : Call) : Prop where
  create : ∀ vm, c = .createVirtualMachine vm → VM.vmIsAdopted vm = true
  seed : ∀ vm, c = .vmStatusUpdate vm → vm.status.id = id ∧ id ≠ ""

theorem Ours.answer {ns : String} (h : Ours target id cluster)
    (hgentle : ∀ edit ∈ choice.edits, Gentle ns target edit) (hseeds : Seeds id c)
    (hanswer : cluster.answer c choice = some (r, next)) : Ours target id next := by
  refine answer_induct (P := Ours target id) hanswer h fun before after h hchange => ?_
  cases hchange with
  | edited | updated | statusWritten => exact ⟨h.versions, h.kept⟩
  | createdElsewhere hedit _ | removed hedit _ =>
    exact h.put (Subset.refl _) fun heq => absurd heq (hgentle _ hedit)
  | @modified key update old _ hedit hlive =>
    refine h.put (Subset.refl _) fun heq => ?_
    obtain ⟨hid, hadopted⟩ := hgentle _ hedit heq old
    rw [heq] at hlive
    obtain ⟨howned, hadopted', hid'⟩ := h.live hlive
    refine ⟨_, rfl, howned, hadopted.trans hadopted', ?_, fun w hw hne => ?_⟩
    · exact hid'.imp hid.trans hid.trans
    · obtain ⟨vm, hlive', hkept⟩ := h.kept w hw
      cases hlive.symm.trans hlive'
      exact hid.trans (hkept hne)
  | @created vm uid _ hcall hlive =>
    refine h.put (subset_cons_self _ _) fun heq => ?_
    refine ⟨_, rfl, ⟨_, .head _, rfl, rfl⟩, hseeds.create vm hcall, .inl rfl, ?_⟩
    intro w hw hne
    obtain ⟨other, hlive', -⟩ := h.kept w hw
    rw [heq] at hlive
    cases hlive.symm.trans hlive'
  | @seeded vm old _ hcall hlive _ =>
    refine h.put (Subset.refl _) fun heq => ?_
    obtain ⟨hid, -⟩ := hseeds.seed vm hcall
    rw [heq] at hlive
    obtain ⟨howned, hadopted, -⟩ := h.live hlive
    refine ⟨_, rfl, howned, hadopted, .inr hid, fun w hw hne => ?_⟩
    exact hid.trans ((h.versions w hw).2.2.resolve_left hne).symm

/-- An object that was there before is still there. -/
theorem present_answer {ns : String} (h : ∀ w ∈ (cluster.vms.versions target).all, w ≠ none)
    (hgentle : ∀ edit ∈ choice.edits, Gentle ns target edit)
    (hanswer : cluster.answer c choice = some (r, next)) :
    ∀ w ∈ (next.vms.versions target).all, w ≠ none := by
  refine answer_induct (P := fun last => ∀ w ∈ (last.vms.versions target).all, w ≠ none)
    hanswer h fun before after h hchange w hw => ?_
  cases hchange with
  | edited | updated | statusWritten => exact h w hw
  | removed hedit _ =>
    rcases mem_put (by assumption) hw with ⟨heq, -⟩ | hold
    · exact absurd heq.symm (hgentle _ hedit)
    · exact h w hold
  | _ =>
    rcases mem_put (by assumption) hw with ⟨-, rfl⟩ | hold
    · exact Option.some_ne_none _
    · exact h w hold

/-- The clone keeps its namespace and its target. -/
theorem aims_answer
    (haims : ∀ w ∈ cluster.clone.all, w.objectMeta.ns = key.ns ∧ targetKey w = target)
    (hgentle : ∀ edit ∈ choice.edits, Gentle key.ns target edit)
    (hupdate : ∀ clone, c = .updateClone clone → ∃ v ∈ cluster.clone.all, clone.spec = v.spec)
    (hanswer : cluster.answer c choice = some (r, next)) :
    ∀ w ∈ next.clone.all, w.objectMeta.ns = key.ns ∧ targetKey w = target := by
  refine answer_induct (P := fun last => ∀ w ∈ last.clone.all,
    w.objectMeta.ns = key.ns ∧ targetKey w = target) hanswer haims fun before after h hchange => ?_
  obtain ⟨hns, htarget⟩ := h _ before.clone.current_mem_all
  cases hchange with
  | edited hedit =>
    refine forall_mem_cons.mpr ⟨⟨hns, ?_⟩, h⟩
    rw [← hgentle _ hedit, ← hns]
    rfl
  | updated hcall _ =>
    obtain ⟨v, hv, hspec⟩ := hupdate _ hcall
    obtain ⟨hns', htarget'⟩ := haims v hv
    refine forall_mem_cons.mpr ⟨⟨hns, ?_⟩, h⟩
    rw [← htarget', targetKey_eq_aim, targetKey_eq_aim, hns', ← hns, ← hspec]
    rfl
  | statusWritten _ _ => exact forall_mem_cons.mpr ⟨⟨hns, htarget⟩, h⟩
  | _ => exact h

end Versions

/-- Some version of the target has the ID. -/
def Seeded (target : ObjectKey) (id : String) (cluster : Cluster) : Prop :=
  ∃ w, some w ∈ (cluster.vms.versions target).all ∧ w.status.id = id

/-- Whose the target is: the clone's own, or that of someone who had it before, and then
nothing is cloned. -/
inductive Side (target : ObjectKey) (cluster : Cluster) (trace : List LogEntry) : Prop
  | ours : Ours target cluster.recorded cluster →
      (∀ vm answer, ⟨.vmStatusUpdate vm, answer⟩ ∈ trace → Owned cluster vm) →
      (∀ vm, ⟨.vmStatusUpdate vm, none⟩ ∈ trace → Seeded target vm.status.id cluster) →
      (cluster.clone.current.status.phase = .ready → cluster.recorded ≠ "" ∧
        Seeded target cluster.recorded cluster) → Side target cluster trace
  | foreign : (∀ w ∈ (cluster.vms.versions target).all, w ≠ none) →
      (∀ w ∈ cluster.clone.all, w.status.targetVMID = "") →
      (∀ entry ∈ trace, cloned entry = none) →
      (∀ vm answer, ⟨.vmStatusUpdate vm, answer⟩ ∉ trace) →
      (∀ err, ⟨.getVirtualMachine target, .error err⟩ ∈ trace → err.reason ≠ .notFound) →
      cluster.clone.current.status.phase ≠ .ready → Side target cluster trace

/-- The clone, its target, and what all calls so far have seen of it. -/
structure Binding (key target : ObjectKey) (cluster : Cluster) (trace : List LogEntry) : Prop where
  aims : ∀ w ∈ cluster.clone.all, w.objectMeta.ns = key.ns ∧ targetKey w = target
  found : ∀ vm, ⟨.getVirtualMachine target, .ok vm⟩ ∈ trace →
    some vm ∈ (cluster.vms.versions target).all
  side : Side target cluster trace

section Episode

variable {key target : ObjectKey} {before : String} {cluster next : Cluster}
  {log trace : List LogEntry} {c : Call} {choice : Choice} {r : Answer c} {id : String}

/-- An ID that is persisted is the recorded one. -/
theorem Tracks.recorded_of_persisted {v : VMClone} (h : Tracks key before cluster log)
    (hread : Read key log v) (hpersisted : Persisted v log id) (hid : id ≠ "") :
    id = cluster.recorded := by
  rcases hpersisted with rfl | ⟨stored, version, hmem, rfl⟩
  · exact (h.settled v (h.read v hread)).resolve_left hid
  · cases h.recording with
    | idle _ _ hstored => exact hstored stored version hmem
    | made _ _ hstored => exact (hstored stored version hmem).2.1

theorem vmIsAdopted_buildTargetVM (clone : VMClone) (sourceVM : VirtualMachine) :
    VM.vmIsAdopted (buildTargetVM clone sourceVM) = true := by
  simp [VM.vmIsAdopted, buildTargetVM, StringMap.set, StringMap.get]

/-- The controller's own calls seed the target with the recorded ID. -/
theorem Tracks.seeds (h : Tracks key before cluster log) (hallowed : Allowed key log c) :
    Seeds cluster.recorded c := by
  constructor
  · rintro vm rfl
    obtain ⟨v, sourceVM, _, _, _, -, -, -, -, -, rfl, -⟩ := hallowed
    exact vmIsAdopted_buildTargetVM v sourceVM
  · rintro vm rfl
    obtain ⟨v, found, id, hread, -, hpersisted, hid, rfl, -⟩ := hallowed
    have hrecorded := h.recorded_of_persisted hread hpersisted hid
    exact ⟨hrecorded, hrecorded ▸ hid⟩

theorem Seeded.answer (h : Seeded target id cluster)
    (hanswer : cluster.answer c choice = some (r, next)) : Seeded target id next := by
  obtain ⟨w, hw, hid⟩ := h
  exact ⟨w, answer_vms hanswer target hw, hid⟩

section

variable (h : Binding key target cluster trace) (htracks : Tracks key before cluster log)
include h htracks

/-- The version that was read aims at the target. -/
theorem Binding.targetKey_of_read {v : VMClone} (hread : Read key log v) : targetKey v = target :=
  (h.aims v (htracks.read v hread)).2

/-- The object that gets an ID is a version of the target. -/
theorem Binding.found_of_seed (hlog : log ⊆ trace)
    (hallowed : Allowed key log (.vmStatusUpdate vm)) :
    ∃ found, some found ∈ (cluster.vms.versions target).all ∧ vm.objectMeta = found.objectMeta := by
  obtain ⟨v, found, id, hread, -, -, -, rfl, hfound⟩ := hallowed
  rw [h.targetKey_of_read htracks hread] at hfound
  exact ⟨found, h.found found (hlog hfound), rfl⟩

end

theorem Ours.rename {id' : String} (h : Ours target id cluster) (hid : id' = id ∨ id = "") :
    Ours target id' cluster := by
  refine ⟨fun w hw => ?_, h.kept⟩
  obtain ⟨howned, hadopted, hw⟩ := h.versions w hw
  refine ⟨howned, hadopted, ?_⟩
  rcases hid with rfl | rfl
  · exact hw
  · exact .inl (or_self_iff.mp hw)

variable (h : Binding key target cluster trace) (htracks : Tracks key before cluster log)
  (hlog : log ⊆ trace) (hchoice : choice.Gentle key.ns target) (hallowed : Allowed key log c)
  (hanswer : cluster.answer c choice = some (r, next))
include h htracks hlog hchoice hallowed hanswer

theorem Binding.ours_step (hours : Ours target cluster.recorded cluster)
    (howned : ∀ vm answer, ⟨.vmStatusUpdate vm, answer⟩ ∈ trace → Owned cluster vm)
    (hseeded : ∀ vm, ⟨.vmStatusUpdate vm, none⟩ ∈ trace → Seeded target vm.status.id cluster)
    (hready : cluster.clone.current.status.phase = .ready → cluster.recorded ≠ "" ∧
      Seeded target cluster.recorded cluster) :
    Side target next (⟨c, r⟩ :: trace) := by
  have hours' : Ours target cluster.recorded next :=
    hours.answer hchoice.1 (htracks.seeds hallowed) hanswer
  refine .ours (hours'.rename (htracks.recorded_or hallowed hanswer)) ?_ ?_ ?_
  · intro vm answer hmem
    rcases mem_cons.mp hmem with heq | hmem
    · cases heq
      obtain ⟨found, hfound, hmeta⟩ := h.found_of_seed htracks hlog hallowed
      have hown := (hours.versions found hfound).1.mono (answer_created hanswer)
      rw [Owned, hmeta]
      exact hown
    · exact (howned vm answer hmem).mono (answer_created hanswer)
  · intro vm hmem
    rcases mem_cons.mp hmem with heq | hmem
    · cases heq
      obtain ⟨found, hfound, hmeta⟩ := h.found_of_seed htracks hlog hallowed
      obtain ⟨live, hlive, hstatus⟩ := answer_seeded hanswer
      rw [hmeta, cluster.vms.keyed target found hfound] at hlive
      exact ⟨live, mem_of_live _ hlive, by rw [hstatus]⟩
    · exact (hseeded vm hmem).answer hanswer
  · intro hphase
    rcases answer_status hanswer with ⟨hsame, -⟩ | ⟨clone, rfl, hover⟩
    · rw [recorded_of_status hsame]
      rw [hsame] at hphase
      exact ⟨(hready hphase).1, (hready hphase).2.answer hanswer⟩
    · obtain ⟨v, hread, hpersists⟩ := hallowed
      rw [hover.1] at hphase
      rw [hover.recorded]
      obtain ⟨hid, vm, hvm, hbound⟩ := hpersists.ready hphase
      rw [h.targetKey_of_read htracks hread] at hvm
      refine ⟨hid, ?_⟩
      rcases hbound with hsame | hset
      · exact ⟨vm, answer_vms hanswer target (h.found vm (hlog hvm)), hsame⟩
      · exact (hseeded _ (hlog hset)).answer hanswer

theorem Binding.foreign_step (hpresent : ∀ w ∈ (cluster.vms.versions target).all, w ≠ none)
    (hblank : ∀ w ∈ cluster.clone.all, w.status.targetVMID = "")
    (hnone : ∀ entry ∈ trace, cloned entry = none)
    (hunseeded : ∀ vm answer, ⟨.vmStatusUpdate vm, answer⟩ ∉ trace)
    (habsent : ∀ err, ⟨.getVirtualMachine target, .error err⟩ ∈ trace → err.reason ≠ .notFound)
    (hphase : cluster.clone.current.status.phase ≠ .ready) :
    Side target next (⟨c, r⟩ :: trace) := by
  have hpresent' := present_answer hpresent hchoice.1 hanswer
  -- with nothing cloned, only the empty ID is written
  have hwritten : ∀ clone, c = .statusUpdate clone → clone.status.targetVMID = "" := by
    rintro clone rfl
    obtain ⟨v, hread, hpersists⟩ := hallowed
    have hrecords := hpersists.records
    generalize clone.status.targetVMID = id at hrecords
    cases hrecords with
    | kept => exact hblank v (htracks.read v hread)
    | made hmem hcloned =>
      rw [hnone _ (hlog hmem)] at hcloned
      cases hcloned
  have hblank' : ∀ w ∈ next.clone.all, w.status.targetVMID = "" := by
    intro w hw
    rcases answer_ids hanswer w hw with ⟨u, hu, hid⟩ | ⟨hid, clone, hcall, hclone⟩
    · exact hid.symm.trans (hblank u hu)
    · exact hid.trans (hclone.symm.trans (hwritten clone hcall))
  refine .foreign hpresent' hblank' ?_ ?_ ?_ ?_
  · refine forall_mem_cons.mpr ⟨?_, hnone⟩
    unfold cloned
    split
    · rename_i heq
      cases heq
      obtain ⟨v, _, _, hread, -, -, -, -, ⟨err, hmem, hreason⟩, -⟩ := hallowed
      rw [h.targetKey_of_read htracks hread] at hmem
      exact absurd hreason (habsent err (hlog hmem))
    · rfl
  · intro vm answer hmem
    rcases mem_cons.mp hmem with heq | hmem
    · cases heq
      obtain ⟨hid, hne⟩ := (htracks.seeds hallowed).seed vm rfl
      exact hne (hblank _ cluster.clone.current_mem_all)
    · exact hunseeded vm answer hmem
  · intro err hmem
    rcases mem_cons.mp hmem with heq | hmem
    · cases heq
      rcases answer_absent hanswer with hgone | hrefused
      · exact absurd rfl (hpresent' none hgone)
      · exact hchoice.2 err hrefused
    · exact habsent err hmem
  · rcases answer_status hanswer with ⟨hsame, -⟩ | ⟨clone, rfl, hover⟩
    · rw [hsame]
      exact hphase
    · rw [hover.1]
      obtain ⟨v, -, hpersists⟩ := hallowed
      exact fun hready => (hpersists.ready hready).1 (hwritten clone rfl)

theorem Binding.step :
    Binding key target next (⟨c, r⟩ :: trace) where
  aims := by
    refine aims_answer h.aims hchoice.1 ?_ hanswer
    rintro clone rfl
    obtain ⟨v, hread, hspec, -⟩ := hallowed
    exact ⟨v, htracks.read v hread, hspec⟩
  found := by
    intro vm hmem
    rcases mem_cons.mp hmem with heq | hmem
    · cases heq
      exact answer_readVM hanswer
    · exact answer_vms hanswer target (h.found vm hmem)
  side := by
    cases h.side with
    | ours hours howned hseeded hready =>
      exact h.ours_step htracks hlog hchoice hallowed hanswer hours howned hseeded hready
    | foreign hpresent hblank hnone hunseeded habsent hphase =>
      exact h.foreign_step htracks hlog hchoice hallowed hanswer hpresent hblank hnone hunseeded
        habsent hphase

end Episode

/-- What holds between reconciles. -/
structure Kept (key target : ObjectKey) (cluster : Cluster) (trace : List LogEntry) : Prop where
  numbered : cluster.Numbered
  settled : Settled cluster
  binding : Binding key target cluster trace

theorem Kept.episode {r : Reconciler} {key target : ObjectKey} {cluster : Cluster}
    {trace : List LogEntry} {choices : List Choice} {out : Outcome Call Answer Cluster Return}
    (h : Kept key target cluster trace)
    (hrun : (system r key).Episode cluster choices out)
    (hgentle : ∀ choice ∈ choices, choice.Gentle key.ns target) :
    Kept key target out.state (out.log ++ trace) := by
  have hstart : Tracks key cluster.recorded cluster [] ∧
      Binding key target cluster ([] ++ trace) :=
    ⟨tracks_nil h.numbered h.settled, h.binding⟩
  obtain ⟨⟨htracks, hbinding⟩, -⟩ := (reconcile_obeys r key).run_induct (I := fun s log =>
    Tracks key cluster.recorded s log ∧ Binding key target s (log ++ trace)) hrun hgentle hstart
    fun s log c choice answer next ⟨htracks, hbinding⟩ hallowed hchoice hanswer _ =>
      ⟨htracks.step hallowed hanswer, hbinding.step htracks (subset_append_left _ _) hchoice
        hallowed hanswer⟩
  exact ⟨htracks.numbered, htracks.settled, hbinding⟩

theorem kept_of_fresh {key target : ObjectKey} {cluster : Cluster} (hfresh : cluster.Fresh key)
    (hclear : StartsClear target cluster) : Kept key target cluster [] := by
  have hnumbered := numbered_of_fresh hfresh
  have hsettled := settled_of_fresh hfresh
  obtain ⟨holder, hkey, hstatus, -⟩ := hfresh
  obtain ⟨htarget, hversions⟩ := hclear
  refine ⟨hnumbered, hsettled, History.forall_mem_of_new holder
    ⟨congrArg ObjectKey.ns hkey, htarget⟩, fun _ hmem => absurd hmem not_mem_nil, ?_⟩
  have hready : cluster.clone.current.status.phase ≠ .ready := by
    rw [hstatus]
    nofun
  rcases hversions with hnone | hsome
  · have habsent : ∀ w, some w ∉ (cluster.vms.versions target).all :=
      fun w hw => Option.some_ne_none w (hnone _ hw)
    exact .ours ⟨fun w hw => absurd hw (habsent w), fun w hw => absurd hw (habsent w)⟩
      (fun _ _ hmem => absurd hmem not_mem_nil) (fun _ hmem => absurd hmem not_mem_nil)
      fun h => absurd h hready
  · refine .foreign hsome (History.forall_mem_of_new holder ?_) (forall_mem_nil _)
      (fun _ _ => not_mem_nil) (fun _ hmem => absurd hmem not_mem_nil) hready
    rw [hstatus]

/-- In every run in which other clients leave the target alone and Create fails only because
the object exists: the controller gives the ID only to an object that it created; a Ready
clone has its target bound, with the label; and in each reconcile an error on a
VirtualMachine is not followed by a Failed status. -/
theorem target_bound_or_retried (r : Reconciler) (key target : ObjectKey) {cluster : Cluster}
    {trace : List LogEntry}
    (hrun : ((system r key).startingFrom (StartsClear target)).Reach
      (fun _ _ choices episode => Undisturbed key.ns target choices episode) cluster trace) :
    (∀ vm answer, ⟨.vmStatusUpdate vm, answer⟩ ∈ trace → Owned cluster vm) ∧
    (cluster.clone.current.status.phase = .ready → ∃ vm, cluster.vms.live target = some vm ∧
      Owned cluster vm ∧ vm.status.id = cluster.clone.current.status.targetVMID ∧
      VM.vmIsAdopted vm = true) ∧
    ∀ choices out, (r.reconcile key).run (system r key).host cluster [] choices = some out →
      Undisturbed key.ns target choices out.log →
      ∀ clone answer older, (⟨.statusUpdate clone, answer⟩ :: older) <:+ out.log →
        clone.status.phase = .failed → ∀ entry ∈ older, hitch entry = false := by
  have hkept : Kept key target cluster trace := by
    refine hrun.invariant (J := Kept key target) ?_ ?_
    · exact fun s ⟨hfresh, hclear⟩ => kept_of_fresh hfresh hclear
    · intro s trace choices out h hepisode hcond
      have hend := h.episode hepisode hcond.gentle
      unfold System.settle
      split <;> exact hend
  refine ⟨?_, ?_, ?_⟩
  · cases hkept.binding.side with
    | ours _ howned => exact howned
    | foreign _ _ _ hunseeded => exact fun vm answer hmem => absurd hmem (hunseeded vm answer)
  · intro hphase
    cases hkept.binding.side with
    | ours hours _ _ hready =>
      obtain ⟨hid, w, hw, hset⟩ := hready hphase
      obtain ⟨vm, hlive, hsame⟩ := hours.kept w hw
      obtain ⟨howned, hadopted, -⟩ := hours.live hlive
      exact ⟨vm, hlive, howned, (hsame (hset ▸ hid)).trans hset, hadopted⟩
    | foreign _ _ _ _ _ hnot => exact absurd hphase hnot
  · intro choices out hepisode hcond clone answer older hsuffix hfailed
    obtain ⟨v, -, hpersists⟩ := (reconcile_obeys r key).run_allowed hepisode hsuffix
    refine (hpersists.failed hfailed).resolve_right ?_
    rintro ⟨vm, err, hmem, hreason⟩
    have hlog : older ⊆ out.log := fun entry hentry =>
      hsuffix.subset (.tail _ hentry)
    exact hreason (hcond.creates vm err (hlog hmem))

namespace Sample

def target : ObjectKey := ⟨"prod", "web-copy"⟩

/-- Someone else's object under the target's name. -/
def foreign : VirtualMachine where
  objectMeta := { name := "web-copy", ns := "prod", uid := "foreign", resourceVersion := 1 }
  spec := { providerRef := { name := "kvm" } }
  status := { id := "db" }

/-- The clone task has ended, after others have made their edits. -/
def taskDone (edits : List Edit) : Choice where
  edits := edits
  reply := .reports fun | .isTaskComplete _ _ => some (.ok true) | _ => none

/-- An ID was given to an object. -/
def seeded : LogEntry → Bool
  | ⟨.vmStatusUpdate _, none⟩ => true
  | _ => false

/-- No edits, no refusal that claims an absence, and no Create that fails. -/
def calm (choices : List Choice) (episode : List LogEntry) : Bool :=
  choices.all (fun choice => choice.edits.isEmpty && match choice.reply with
    | .refuse err => decide (err.reason ≠ .notFound)
    | _ => true) &&
  episode.all fun
    | ⟨.createVirtualMachine _, some err⟩ => decide (err.reason = .alreadyExists)
    | _ => true

theorem undisturbed_of_calm {choices : List Choice} {episode : List LogEntry}
    (h : calm choices episode = true) : Undisturbed key.ns target choices episode := by
  obtain ⟨hchoices, hepisode⟩ := Bool.and_eq_true_iff.mp h
  rw [all_eq_true] at hchoices hepisode
  refine ⟨fun choice hchoice => ?_, fun vm err hmem => of_decide_eq_true (hepisode _ hmem)⟩
  obtain ⟨hedits, hreply⟩ := Bool.and_eq_true_iff.mp (hchoices choice hchoice)
  refine ⟨fun edit hedit => ?_, fun err heq => ?_⟩
  · rw [isEmpty_iff.mp hedits] at hedit
    cases hedit
  · rw [heq] at hreply
    exact of_decide_eq_true hreply

end Sample

open Sample

/-- An object that someone else creates while the clone task runs gets the ID of the clone,
which becomes Ready though the object was not made for it. And a Create that fails once ends
the clone, with the ID of the new VM in its status and no object for it. -/
theorem foreign_target_bound_or_clone_lost :
    (∃ cluster trace, (system reconciler key).Reach (fun _ _ _ _ => True)
      cluster trace ∧ cluster.clone.current.status.phase = .ready ∧
      (∃ vm, ⟨.vmStatusUpdate vm, none⟩ ∈ trace ∧ ¬ Owned cluster vm) ∧
      ∃ vm, cluster.vms.live target = some vm ∧ VM.vmIsAdopted vm = false) ∧
    ∃ cluster trace, (system reconciler key).Reach (fun _ _ _ _ => True)
      cluster trace ∧ cluster.clone.current.status.phase = .failed ∧
      cluster.clone.current.status.targetVMID = "vm-1" ∧
      cluster.vms.live target = none := by
  constructor
  · refine (system reconciler key).exists_reach
      (P := fun cluster trace => cluster.clone.current.status.phase = .ready ∧
        cluster.created = [] ∧ (∃ entry ∈ trace, seeded entry = true) ∧
        ∃ vm ∈ cluster.vms.live target, VM.vmIsAdopted vm = false)
      [enrol, issue 0 ⟨"vm-1", "task-1"⟩ [done],
        locate 0 ++ [taskDone [.createVirtualMachine foreign], done,
          cached 0, cached 0, done, clock, done]]
      (fresh_cluster []) (fun cluster trace _ hshows => ?_) (by decide +kernel)
    obtain ⟨hready, hcreated, ⟨entry, hentry, hwrote⟩, hlive⟩ := hshows
    refine ⟨hready, ?_, hlive⟩
    unfold seeded at hwrote
    split at hwrote
    · rename_i vm
      refine ⟨vm, hentry, ?_⟩
      rintro ⟨made, hmade, -⟩
      rw [hcreated] at hmade
      cases hmade
    · cases hwrote
  · exact (system reconciler key).exists_reach
      [enrol, issue 0 ⟨"vm-1", ""⟩
        [done, cached 0, outage, done]]
      (fresh_cluster []) (fun _ _ _ hshows => hshows) (by decide +kernel)

/-- Binding the target is interrupted once, and resumed by the next reconcile. -/
theorem target_bound_or_retried_sample : ∃ cluster trace,
    ((system reconciler key).startingFrom (StartsClear target)).Reach
      (fun _ _ choices episode => Undisturbed key.ns target choices episode)
      cluster trace ∧
    cluster.clone.current.status.phase = .ready ∧
    cluster.clone.current.status.targetVMID = "vm-1" ∧
    ∃ vm, cluster.vms.live target = some vm ∧ Owned cluster vm ∧
      vm.status.id = cluster.clone.current.status.targetVMID ∧ VM.vmIsAdopted vm = true := by
  have hclear : StartsClear target (cluster []) := by
    refine ⟨rfl, .inl fun w hw => ?_⟩
    have hnone : ((cluster []).vms.versions target).all = [none] := by decide +kernel
    rw [hnone] at hw
    exact mem_singleton.mp hw
  obtain ⟨cluster, trace, hreach, hready, hid⟩ := ((system reconciler
    key).startingFrom (StartsClear target)).exists_reach_of_replay
    (P := fun cluster _ => cluster.clone.current.status.phase = .ready ∧
      cluster.clone.current.status.targetVMID = "vm-1")
    (fun _ _ choices episode => calm choices episode)
    [enrol, issue 0 ⟨"vm-1", ""⟩ [done, outage],
      locate 0 ++ Sample.bind]
    (fun _ _ _ _ h => undisturbed_of_calm h) ⟨fresh_cluster [], hclear⟩
    (by decide +kernel)
  have hbound := (target_bound_or_retried reconciler key target hreach).2.1
  exact ⟨cluster, trace, hreach, hready, hid, hbound hready⟩

end Virtrigaud.Clone
