import Virtrigaud.Clone.Cluster
import Virtrigaud.Clone.Protocol
import Virtrigaud.Go.Ints

/-!
# One clone per VMClone

The guard against a second Clone is the target VM ID in the status, which is written
after the RPC. If that write fails, or the reconcile works from a version without the ID,
the RPC is issued again. When each Clone that succeeds is recorded by its own reconcile it
succeeds once, however stale the reads are, and the ID it answered stays in the status: a
write goes through only over the version that was read.
-/

namespace Virtrigaud.Clone

open Effects Program Cluster List

/-- The responses of all Clone RPCs that succeeded, newest first. -/
def clones (trace : List LogEntry) : List CloneResponse := trace.filterMap cloned

/-- A Clone that succeeds answers an ID, and a status write of its reconcile goes through. -/
def recordsClone (episode : List LogEntry) : Bool :=
  (clones episode).all (fun resp => decide (resp.targetVmID ≠ "")) &&
    ((clones episode).isEmpty || episode.any statusWritten)

theorem clones_eq_nil {log : List LogEntry} :
    clones log = [] ↔ ∀ entry ∈ log, cloned entry = none := filterMap_eq_nil_iff

namespace Cluster

/-- The target VM ID that was persisted last. -/
def recorded (cluster : Cluster) : String := cluster.clone.current.status.targetVMID

/-- The versions of the clone have numbers in their order. -/
def Numbered (cluster : Cluster) : Prop := cluster.clone.Numbered (·.objectMeta.resourceVersion)

variable {cluster next : Cluster} {c : Call} {choice : Choice} {r : Answer c}

theorem Numbered.answer (h : cluster.Numbered)
    (hanswer : cluster.answer c choice = some (r, next)) :
    next.Numbered := by
  refine answer_induct (P := Numbered) hanswer h fun before after hbefore hchange => ?_
  cases hchange with
  | edited | updated | statusWritten =>
    exact History.Numbered.push hbefore (Nat.lt_succ_self _)
  | _ => exact hbefore

theorem recorded_of_status (h : next.clone.current.status = cluster.clone.current.status) :
    next.recorded = cluster.recorded :=
  congrArg VMCloneStatus.targetVMID h

theorem status_edited (edits : List Edit) :
    (edits.foldl applyEdit cluster).clone.current.status = cluster.clone.current.status := by
  refine foldlRecOn edits applyEdit
    (motive := fun last => last.clone.current.status = cluster.clone.current.status)
    rfl fun last hlast edit _ => ?_
  cases edit <;> exact hlast

/-- A status write was carried out over a version with the ID that was recorded. -/
def WrittenOver (cluster : Cluster) (clone : VMClone) (next : Cluster) : Prop :=
  next.clone.current.status = clone.status ∧ ∃ old ∈ next.clone.all,
    old.objectMeta.resourceVersion = clone.objectMeta.resourceVersion ∧
    old.status.targetVMID = cluster.recorded

theorem WrittenOver.recorded {clone : VMClone} (h : WrittenOver cluster clone next) :
    next.recorded = clone.status.targetVMID :=
  congrArg VMCloneStatus.targetVMID h.1

theorem carryOut_statusUpdate {clone : VMClone} {answer : Except GoError Nat}
    (h : cluster.carryOut choice (.statusUpdate clone) = some (answer, next)) :
    next = cluster ∧ (∃ err, answer = .error err) ∨ WrittenOver cluster clone next := by
  unfold carryOut at h
  dsimp only at h
  split at h
  · rename_i hseen
    cases h
    exact .inr ⟨rfl, cluster.clone.current, .tail _ (.head _),
      of_decide_eq_true hseen, rfl⟩
  · cases h
    exact .inl ⟨rfl, _, rfl⟩

/-- What an answer does to the status. -/
theorem answer_status (h : cluster.answer c choice = some (r, next)) :
    next.clone.current.status = cluster.clone.current.status ∧ statusWritten ⟨c, r⟩ = false ∨
      ∃ clone, c = .statusUpdate clone ∧ WrittenOver cluster clone next := by
  by_cases hcall : ∃ clone, c = .statusUpdate clone
  swap
  · refine .inl ⟨?_, ?_⟩
    · refine answer_induct
        (P := fun last => last.clone.current.status = cluster.clone.current.status) h rfl ?_
      intro before after hbefore hchange
      cases hchange with
      | statusWritten hc => exact absurd ⟨_, hc⟩ hcall
      | _ => exact hbefore
    · unfold Clone.statusWritten
      split
      · rename_i clone _ heq
        cases heq
        exact absurd ⟨clone, rfl⟩ hcall
      · rfl
  obtain ⟨clone, rfl⟩ := hcall
  have hedited : (choice.edits.foldl applyEdit cluster).clone.current.status =
      cluster.clone.current.status := status_edited choice.edits
  have hcarried : ∀ answer, (choice.edits.foldl applyEdit cluster).carryOut choice
      (.statusUpdate clone) = some (answer, next) →
      next.clone.current.status = cluster.clone.current.status ∧ (∃ err, answer = .error err) ∨
        WrittenOver cluster clone next := by
    intro answer hcarry
    rcases carryOut_statusUpdate hcarry with ⟨rfl, herr⟩ | ⟨hwritten, old, hold, hversion, hid⟩
    · exact .inl ⟨hedited, herr⟩
    · exact .inr ⟨hwritten, old, hold, hversion, hid.trans (recorded_of_status hedited)⟩
  unfold answer at h
  split at h
  · cases h
  · rcases hcarried _ h with ⟨hsame, err, rfl⟩ | hwritten
    · exact .inl ⟨hsame, rfl⟩
    · exact .inr ⟨clone, rfl, hwritten⟩
  · cases h
    exact .inl ⟨hedited, rfl⟩
  · simp only [failure] at h
    split at h
    · rename_i hcarry hlost
      cases h
      cases hlost
      exact (hcarried _ hcarry).imp (fun hsame => ⟨hsame.1, rfl⟩)
        fun hwritten => ⟨clone, rfl, hwritten⟩
    · cases h
  · cases h

/-- Every version has an ID that was recorded before, or the one that was written now. -/
theorem answer_ids (h : cluster.answer c choice = some (r, next)) :
    ∀ w ∈ next.clone.all, (∃ u ∈ cluster.clone.all, u.status.targetVMID = w.status.targetVMID) ∨
      w.status.targetVMID = next.recorded ∧ ∃ clone, c = .statusUpdate clone ∧
        clone.status.targetVMID = next.recorded := by
  refine answer_induct (P := fun last => ∀ w ∈ last.clone.all,
    (∃ u ∈ cluster.clone.all, u.status.targetVMID = w.status.targetVMID) ∨
      w.status.targetVMID = last.recorded ∧ ∃ clone, c = .statusUpdate clone ∧
        clone.status.targetVMID = last.recorded) h (fun w hw => .inl ⟨w, hw, rfl⟩) ?_
  intro before after hbefore hchange
  cases hchange with
  | edited | updated =>
    have hcurrent := hbefore before.clone.current before.clone.current_mem_all
    exact forall_mem_cons.mpr ⟨hcurrent, hbefore⟩
  | statusWritten hcall =>
    refine forall_mem_cons.mpr ⟨.inr ⟨rfl, _, hcall, rfl⟩, fun w hw => ?_⟩
    refine (hbefore w hw).imp_right ?_
    rintro ⟨hid, clone, hcall', hclone⟩
    cases hcall.symm.trans hcall'
    exact ⟨hid.trans hclone.symm, _, hcall, rfl⟩
  | _ => exact hbefore

end Cluster

/-- The recorded ID during a reconcile that began with `before`: as it was until a Clone
succeeds, which it does once; and the ID that Clone answered when a write went through,
which shows that nothing had been recorded. -/
inductive Recording (before : String) (log : List LogEntry) (id : String) : Prop
  | idle : (∀ entry ∈ log, cloned entry = none) → id = before →
      (∀ stored version, ⟨.statusUpdate stored, .ok version⟩ ∈ log →
        stored.status.targetVMID = id) → Recording before log id
  | made {resp} : clones log = [resp] → (id = before ∨ before = "" ∧ id = resp.targetVmID) →
      (∀ stored version, ⟨.statusUpdate stored, .ok version⟩ ∈ log →
        before = "" ∧ stored.status.targetVMID = id ∧ id = resp.targetVmID) →
      Recording before log id

/-- An ID that was recorded is not recorded over. -/
def Settled (cluster : Cluster) : Prop :=
  ∀ w ∈ cluster.clone.all, w.status.targetVMID = "" ∨ w.status.targetVMID = cluster.recorded

/-- The state of the clone during a reconcile. -/
structure Tracks (key : ObjectKey) (before : String) (cluster : Cluster) (log : List LogEntry) :
    Prop where
  numbered : cluster.Numbered
  settled : Settled cluster
  read : ∀ v, Read key log v → v ∈ cluster.clone.all
  blank : ∀ v, Read key log v → ∀ resp ∈ clones log, v.status.targetVMID = ""
  recording : Recording before log cluster.recorded

variable {out : Outcome Call Answer Cluster Return}

section Episode

variable {r : Reconciler} {key : ObjectKey} {before : String} {cluster next : Cluster}
  {log : List LogEntry} {c : Call} {choice : Choice} {answer : Answer c} {entry : LogEntry}
  {resp : CloneResponse}

theorem mem_clones (hentry : entry ∈ log) (hcloned : cloned entry = some resp) :
    resp ∈ clones log :=
  mem_filterMap.mpr ⟨entry, hentry, hcloned⟩

theorem not_written_of_quiet {stored : VMClone} {version : Nat} (hquiet : quiet entry = true)
    (h : ⟨.statusUpdate stored, .ok version⟩ ∈ entry :: log) :
    ⟨.statusUpdate stored, .ok version⟩ ∈ log := by
  rcases mem_cons.mp h with rfl | h
  · cases hquiet
  · exact h

theorem Recording.quiet {id : String} (h : Recording before log id)
    (hquiet : Clone.quiet entry = true) : Recording before (entry :: log) id := by
  have hcloned := cloned_of_quiet hquiet
  cases h with
  | idle hnone hid hstored =>
    exact .idle (forall_mem_cons.mpr ⟨hcloned, hnone⟩) hid fun stored version hmem =>
      hstored stored version (not_written_of_quiet hquiet hmem)
  | made hclones hid hstored =>
    have hsame : clones (entry :: log) = clones log := filterMap_cons_none hcloned
    exact .made (hsame.trans hclones) hid fun stored version hmem =>
      hstored stored version (not_written_of_quiet hquiet hmem)

variable {v : VMClone}

/-- A version that a write went over is the one that was read, if the object in memory is. -/
theorem Tracks.read_over {clone : VMClone} (h : Tracks key before cluster log)
    (hanswer : cluster.answer c choice = some (answer, next)) (hread : Read key log v)
    (hover : cluster.WrittenOver clone next)
    (hversion : clone.objectMeta.resourceVersion = v.objectMeta.resourceVersion) :
    v.status.targetVMID = cluster.recorded := by
  obtain ⟨-, old, hold, hversion', hid⟩ := hover
  have hmem : v ∈ next.clone.all := answer_subset hanswer (h.read v hread)
  rw [← hid, (h.numbered.answer hanswer).eq_of_version hmem hold (hversion'.trans hversion).symm]

/-- A write that is carried out when nothing was cloned keeps the ID. -/
theorem Tracks.written_idle {clone : VMClone} {answer : Except GoError Nat}
    (h : Tracks key before cluster log)
    (hanswer : cluster.answer (.statusUpdate clone) choice = some (answer, next))
    (hread : Read key log v) (hpersists : Persists v log clone)
    (hover : cluster.WrittenOver clone next) (hnone : ∀ entry ∈ log, cloned entry = none)
    (hstored : ∀ stored version, ⟨.statusUpdate stored, .ok version⟩ ∈ log →
      stored.status.targetVMID = cluster.recorded) :
    clone.status.targetVMID = cluster.recorded := by
  cases hpersists.saw with
  | written hmem hsame => exact hsame.symm.trans (hstored _ _ hmem)
  | read hversion _ =>
    have hrecords := hpersists.records
    rw [← h.read_over hanswer hread hover hversion]
    generalize clone.status.targetVMID = target at hrecords
    cases hrecords with
    | kept => rfl
    | made hmem hcloned =>
      rw [hnone _ hmem] at hcloned
      cases hcloned

/-- After a Clone, the ID that it answered is written. -/
theorem records_made {id : String} (hrecords : Records v log id) (hclones : clones log = [resp]) :
    id = resp.targetVmID := by
  cases hrecords with
  | kept hnone =>
    rw [clones_eq_nil.mpr hnone] at hclones
    cases hclones
  | made hmem hcloned =>
    have hresp := mem_clones hmem hcloned
    rw [hclones, mem_singleton] at hresp
    rw [hresp]

section

variable (h : Tracks key before cluster log)
include h

theorem Tracks.step_written {clone : VMClone} {answer : Except GoError Nat}
    (hallowed : Allowed key log (.statusUpdate clone))
    (hanswer : cluster.answer (.statusUpdate clone) choice = some (answer, next)) :
    Recording before (⟨.statusUpdate clone, answer⟩ :: log) next.recorded := by
  obtain ⟨v, hread, hpersists⟩ := hallowed
  rcases answer_status hanswer with ⟨hsame, hfailed⟩ | ⟨_, heq, hover⟩
  · rw [recorded_of_status hsame]
    refine h.recording.quiet ?_
    rw [Clone.quiet, hfailed]
    rfl
  cases heq
  have hnext := hover.recorded
  cases h.recording with
  | idle hnone hbefore hstored =>
    have hkeep := h.written_idle hanswer hread hpersists hover hnone hstored
    refine .idle (forall_mem_cons.mpr ⟨rfl, hnone⟩) (hnext.trans (hkeep.trans hbefore)) ?_
    intro stored version hmem
    rcases mem_cons.mp hmem with hhere | hmem
    · cases hhere
      exact hnext.symm
    · rw [hstored stored version hmem, hnext, hkeep]
  | made hclones hid hstored =>
    have hmade := records_made hpersists.records hclones
    -- the first write goes over the version that was read, which has no ID
    have hblank : before = "" := by
      cases hpersists.saw with
      | written hmem _ => exact (hstored _ _ hmem).1
      | read hversion _ =>
        rcases hid with hid | ⟨hid, -⟩
        · rw [← hid, ← h.read_over hanswer hread hover hversion]
          exact h.blank v hread _ (hclones ▸ mem_singleton_self _)
        · exact hid
    refine .made hclones (.inr ⟨hblank, hnext.trans hmade⟩) fun stored version hmem => ?_
    refine ⟨hblank, ?_, hnext.trans hmade⟩
    rcases mem_cons.mp hmem with hhere | hmem
    · cases hhere
      exact hnext.symm
    · obtain ⟨-, hsame, hresp⟩ := hstored stored version hmem
      rw [hsame, hresp, hnext, hmade]

section

variable (hallowed : Allowed key log c) (hanswer : cluster.answer c choice = some (answer, next))
include hallowed hanswer

/-- Only an empty ID is replaced. -/
theorem Tracks.recorded_or : next.recorded = cluster.recorded ∨ cluster.recorded = "" := by
  rcases answer_status hanswer with ⟨hsame, -⟩ | ⟨clone, rfl, hover⟩
  · exact .inl (recorded_of_status hsame)
  obtain ⟨v, hread, hpersists⟩ := hallowed
  have hnext := hover.recorded
  cases h.recording with
  | idle hnone _ hstored =>
    exact .inl (hnext.trans (h.written_idle hanswer hread hpersists hover hnone hstored))
  | made hclones _ hstored =>
    cases hpersists.saw with
    | written hmem hsame =>
      exact .inl (hnext.trans (hsame.symm.trans (hstored _ _ hmem).2.1))
    | read hversion _ =>
      rw [← h.read_over hanswer hread hover hversion]
      exact .inr (h.blank v hread _ (hclones ▸ mem_singleton_self _))

theorem Tracks.settled_step : Settled next := by
  intro w hw
  rcases answer_ids hanswer w hw with ⟨u, hu, hid⟩ | ⟨hid, -⟩
  · rw [← hid]
    rcases h.settled u hu with hempty | hold
    · exact .inl hempty
    · rcases h.recorded_or hallowed hanswer with hsame | hempty
      · exact .inr (hold.trans hsame.symm)
      · exact .inl (hold.trans hempty)
  · exact .inr hid

end

/-- A Clone is issued when nothing but reads came before. -/
theorem Tracks.step_cloned {provider : ObjectKey} {req : CloneRequest}
    (hallowed : Allowed key log (.clone provider req))
    (hanswer : cluster.answer (.clone provider req) choice = some (.ok resp, next)) :
    clones (⟨.clone provider req, .ok resp⟩ :: log) = [resp] ∧
      Recording before (⟨.clone provider req, .ok resp⟩ :: log) next.recorded := by
  obtain ⟨v, sourceVM, classJSON, hread, -, hid, hreads, -⟩ := hallowed
  have hquiet : ∀ entry ∈ log, Clone.quiet entry = true :=
    fun entry hentry => quiet_of_reads (hreads entry hentry)
  have hnone : clones log = [] :=
    clones_eq_nil.mpr fun entry hentry => cloned_of_quiet (hquiet entry hentry)
  have hclones : clones (⟨.clone provider req, .ok resp⟩ :: log) = [resp] :=
    congrArg (resp :: ·) hnone
  refine ⟨hclones, .made hclones (.inl ?_) fun stored version hmem => ?_⟩
  · rcases answer_status hanswer with ⟨hsame, -⟩ | ⟨_, heq, -⟩
    · rw [recorded_of_status hsame]
      cases h.recording with
      | idle _ hid => exact hid
      | made hmade => cases hnone.symm.trans hmade
    · cases heq
  · rcases mem_cons.mp hmem with heq | hmem
    · cases heq
    · cases hquiet _ hmem

end

theorem read_of_cons (h : Read key (entry :: log) v) :
    log = [] ∧ entry = ⟨.getClone key, .ok v⟩ ∨ Read key log v := by
  cases log with
  | nil => exact .inl ⟨rfl, Option.some.inj h⟩
  | cons => exact .inr h

theorem Tracks.step (h : Tracks key before cluster log) (hallowed : Allowed key log c)
    (hanswer : cluster.answer c choice = some (answer, next)) :
    Tracks key before next (⟨c, answer⟩ :: log) := by
  have hread : ∀ v, Read key (⟨c, answer⟩ :: log) v → v ∈ next.clone.all := by
    intro v hread
    rcases read_of_cons hread with ⟨-, heq⟩ | hread
    · cases heq
      exact answer_read hanswer
    · exact answer_subset hanswer (h.read v hread)
  have hnumbered := h.numbered.answer hanswer
  have hsettled := h.settled_step hallowed hanswer
  cases hcloned : cloned ⟨c, answer⟩ with
  | none =>
    have hclones : clones (⟨c, answer⟩ :: log) = clones log := filterMap_cons_none hcloned
    refine ⟨hnumbered, hsettled, hread, fun v hv resp hresp => ?_, ?_⟩
    · rw [hclones] at hresp
      rcases read_of_cons hv with ⟨rfl, -⟩ | hv
      · cases hresp
      · exact h.blank v hv resp hresp
    · rcases answer_status hanswer with ⟨hsame, hfailed⟩ | ⟨clone, rfl, -⟩
      · rw [recorded_of_status hsame]
        refine h.recording.quiet ?_
        rw [Clone.quiet, hcloned, hfailed]
        rfl
      · exact h.step_written hallowed hanswer
  | some resp =>
    unfold cloned at hcloned
    split at hcloned
    · rename_i provider req resp' heq
      cases heq
      cases hcloned
      obtain ⟨hclones, hrecording⟩ := h.step_cloned hallowed hanswer
      obtain ⟨v, _, _, hv, -, hid, -⟩ := hallowed
      refine ⟨hnumbered, hsettled, hread, fun w hw _ _ => ?_, hrecording⟩
      rw [hw.unique hv.cons]
      exact hid
    · cases hcloned

theorem tracks_nil (hnumbered : cluster.Numbered) (hsettled : Settled cluster) :
    Tracks key cluster.recorded cluster [] :=
  ⟨hnumbered, hsettled, fun _ h => (nomatch h), fun _ h => (nomatch h),
    .idle (forall_mem_nil _) rfl fun _ _ h => (nomatch h)⟩

theorem tracks_of_run {choices : List Choice} (hnumbered : cluster.Numbered)
    (hsettled : Settled cluster) (hrun : (system r key).Episode cluster choices out) :
    Tracks key cluster.recorded out.state out.log := by
  refine ((reconcile_obeys r key).run_induct (I := Tracks key cluster.recorded) hrun
    (fun _ _ => trivial) (tracks_nil hnumbered hsettled) ?_).1
  exact fun s log c choice answer next h hallowed _ hanswer _ => h.step hallowed hanswer

end Episode

theorem numbered_of_fresh {key : ObjectKey} {cluster : Cluster} (h : cluster.Fresh key) :
    cluster.Numbered := by
  rw [Numbered, History.Numbered, History.all, h.1]
  exact pairwise_singleton _ _

theorem settled_of_fresh {key : ObjectKey} {cluster : Cluster} (h : cluster.Fresh key) :
    Settled cluster := by
  intro w hw
  rw [History.all, h.1, mem_singleton] at hw
  rw [hw]
  exact .inr rfl

/-- Clone has succeeded at most once, and the ID it answered is on record. -/
structure Once (cluster : Cluster) (trace : List LogEntry) : Prop where
  numbered : cluster.Numbered
  settled : Settled cluster
  once : (clones trace).length ≤ 1
  recorded : ∀ resp ∈ clones trace, resp.targetVmID ≠ "" ∧ cluster.recorded = resp.targetVmID

theorem Once.episode {r : Reconciler} {key : ObjectKey} {cluster : Cluster} {trace : List LogEntry}
    {choices : List Choice} (h : Once cluster trace)
    (hrun : (system r key).Episode cluster choices out) (hkept : recordsClone out.log = true) :
    Once out.state (out.log ++ trace) := by
  have htracks := tracks_of_run h.numbered h.settled hrun
  simp only [recordsClone, Bool.and_eq_true, Bool.or_eq_true, List.all_eq_true, decide_eq_true_eq,
    List.isEmpty_iff, List.any_eq_true] at hkept
  obtain ⟨hids, hwritten⟩ := hkept
  have happend : clones (out.log ++ trace) = clones out.log ++ clones trace :=
    List.filterMap_append
  suffices hend : (clones out.log ++ clones trace).length ≤ 1 ∧
      ∀ resp ∈ clones out.log ++ clones trace, resp.targetVmID ≠ "" ∧
        out.state.recorded = resp.targetVmID by
    rw [← happend] at hend
    exact ⟨htracks.numbered, htracks.settled, hend.1, hend.2⟩
  cases htracks.recording with
  | idle hnone hid =>
    rw [clones_eq_nil.mpr hnone, hid]
    exact ⟨h.once, h.recorded⟩
  | @made resp hclones _ hstored =>
    rw [hclones] at hids hwritten ⊢
    obtain ⟨entry, hentry, hwrote⟩ := hwritten.resolve_left (List.cons_ne_nil _ _)
    obtain ⟨hblank, hid⟩ : cluster.recorded = "" ∧ out.state.recorded = resp.targetVmID := by
      unfold statusWritten at hwrote
      split at hwrote
      · exact ⟨(hstored _ _ hentry).1, (hstored _ _ hentry).2.2⟩
      · cases hwrote
    -- nothing was recorded, so nothing had been cloned
    have hfirst : clones trace = [] := by
      rw [List.eq_nil_iff_forall_not_mem]
      intro old hold
      obtain ⟨hne, hsame⟩ := h.recorded old hold
      exact hne (hsame.symm.trans hblank)
    rw [hfirst]
    refine ⟨Nat.le_refl 1, fun resp' hresp => ?_⟩
    obtain rfl := List.mem_singleton.mp hresp
    exact ⟨hids resp' hresp, hid⟩

/-- In every run in which a Clone that succeeds answers an ID, and a status write of its
reconcile goes through, Clone succeeds at most once, and the ID it answered is in the status
from then on. Reads may be stale and all other writes may fail. -/
theorem clone_succeeds_once (r : Reconciler) (key : ObjectKey) {cluster : Cluster}
    {trace : List LogEntry}
    (hrun : (system r key).Reach (fun _ _ _ episode => recordsClone episode = true) cluster trace) :
    (clones trace).length ≤ 1 ∧ ∀ resp ∈ clones trace,
      cluster.clone.current.status.targetVMID = resp.targetVmID := by
  have honce : Once cluster trace := by
    refine hrun.invariant (J := Once) ?_ ?_
    · exact fun s hfresh => ⟨numbered_of_fresh hfresh, settled_of_fresh hfresh, Nat.zero_le _,
        nofun⟩
    · intro s trace choices out h hepisode hkept
      have hend := h.episode hepisode hkept
      unfold System.settle
      split <;> exact hend
  exact ⟨honce.once, fun resp hresp => (honce.recorded resp hresp).2⟩

namespace Sample

/-- Quantities in plain decimal notation. -/
def decimal : QuantityCodec where
  text := Go.formatInt
  parse s :=
    if s.toList.head? = some '-' then (Go.digits? s.toList.tail).map fun n : Nat => -(n : Int)
    else (Go.digits? s.toList).map fun n : Nat => (n : Int)
  parse_text
    | .ofNat n => by
      have htext : (Go.formatInt (.ofNat n)).toList = Nat.toDigits 10 n :=
        (congrArg String.toList (Go.formatInt_natCast n)).trans String.toList_ofList
      have hhead : (Nat.toDigits 10 n).head? ≠ some '-' := fun hsign =>
        absurd (Nat.isDigit_of_mem_toDigits (by decide) (by decide) (mem_of_head? hsign))
          (by decide)
      rw [htext, if_neg hhead, Go.digits?_toDigits]
      rfl
    | .negSucc n => by
      have htext : (Go.formatInt (.negSucc n)).toList = '-' :: Nat.toDigits 10 (n + 1) := by
        have hprint : Go.formatInt (.negSucc n) = "-" ++ Go.formatInt (n + 1 : Nat) := rfl
        rw [hprint, Go.formatInt_natCast, String.toList_append]
        exact congrArg (['-'] ++ ·) String.toList_ofList
      rw [htext, if_pos head?_cons, tail_cons, Go.digits?_toDigits]
      rfl

def reconciler : Reconciler := ⟨decimal⟩

def kvm : Provider := { objectMeta := { name := "kvm", ns := "prod" }, type := .libvirt }

def source : VirtualMachine where
  objectMeta := { name := "web", ns := "prod", uid := "vm-0", resourceVersion := 1 }
  spec := { providerRef := { name := "kvm" } }
  status := { id := "web" }

def key : ObjectKey := ⟨"prod", "copy"⟩

def clone : VMClone where
  objectMeta := { name := key.name, ns := key.ns, generation := 1, resourceVersion := 1 }
  spec := { vmRef := some ⟨"web"⟩, target := { name := "web-copy" } }

/-- The cluster with the source and some other VirtualMachines. -/
def cluster (others : List VirtualMachine) : Cluster where
  clone := ⟨clone, []⟩
  vms := .ofList (source :: others)

theorem fresh_cluster (others : List VirtualMachine) : (cluster others).Fresh key :=
  ⟨rfl, rfl, rfl, rfl⟩

def cached (lag : Nat) : Choice := { reply := .lagging lag }

def done : Choice := { reply := .accept }

def outage : Choice := { reply := .refuse (errorf "etcdserver: request timed out") }

def clock : Choice := { reply := .reports fun | .now => some 0 | _ => none }

def provider (answer : Provider) : Choice where
  reply := .reports fun | .getProvider _ => some (.ok answer) | _ => none

def connected : Choice :=
  { reply := .reports fun | .getProviderInstance _ => some none | _ => none }

def cloner : Choice := { reply := .reports fun | .isCloner _ => some true | _ => none }

def answers (resp : CloneResponse) : Choice where
  reply := .reports fun | .clone _ _ => some (.ok resp) | _ => none

/-- The first reconcile only adds the finalizer. -/
def enrol : List Choice := [cached 0, done]

/-- Find the source and its provider, from a version of the clone. -/
def locate (lag : Nat) : List Choice := [cached lag, cached 0, provider kvm, connected]

/-- Issue the clone, and end with the given answers. -/
def issue (lag : Nat) (resp : CloneResponse) (ending : List Choice) : List Choice :=
  locate lag ++ [cached 0, cloner, clock, answers resp] ++ ending

/-- Create the target object, give it its ID, and finish. -/
def bind : List Choice := [cached 0, done, cached 0, done, clock, done]

/-- No call is refused, and no answer is lost. -/
def noOutage (choices : List Choice) : Bool :=
  choices.all fun choice => match choice.reply with
    | .refuse _ | .lose _ => false
    | _ => true

/-- No version of the clone has the target VM ID. -/
def unrecorded (cluster : Cluster) (id : String) : Bool :=
  cluster.clone.all.all fun version => decide (version.status.targetVMID ≠ id)

end Sample

open Sample

/-- When the write after the Clone fails, or the next read does not see it, the clone is
issued again. The ID of a VM whose write failed is in no version of the object, though all
later writes go through and the clone becomes Ready. -/
theorem cloned_twice :
    (∃ cluster trace, (system reconciler key).Reach (fun _ _ _ _ => True)
      cluster trace ∧ clones trace = [⟨"vm-2", ""⟩, ⟨"vm-1", ""⟩] ∧
      cluster.clone.current.status.phase = .ready ∧
      unrecorded cluster "vm-1" = true) ∧
    ∃ cluster trace, (system reconciler key).Reach
      (fun _ _ choices _ => noOutage choices = true) cluster trace ∧
      clones trace = [⟨"vm-2", "task-2"⟩, ⟨"vm-1", "task-1"⟩] ∧
      unrecorded cluster "vm-2" = true := by
  constructor
  · exact (system reconciler key).exists_reach
      [enrol, issue 0 ⟨"vm-1", ""⟩ [outage],
        issue 0 ⟨"vm-2", ""⟩ (done :: bind)]
      (fresh_cluster []) (fun _ _ _ hshows => hshows) (by decide +kernel)
  · exact (system reconciler key).exists_reach
      [enrol, issue 0 ⟨"vm-1", "task-1"⟩ [done],
        issue 1 ⟨"vm-2", "task-2"⟩ [done]]
      (fresh_cluster []) (fun _ _ _ hshows => hshows) (by decide +kernel)

/-- A clone that is recorded at once is Ready after one Clone. -/
theorem clone_succeeds_once_sample : ∃ cluster trace,
    (system reconciler key).Reach
      (fun _ _ _ episode => recordsClone episode = true) cluster trace ∧
    cluster.clone.current.status.phase = .ready ∧ clones trace = [⟨"vm-1", ""⟩] ∧
    (clones trace).length ≤ 1 ∧ ∀ resp ∈ clones trace,
      cluster.clone.current.status.targetVMID = resp.targetVmID := by
  exact (system reconciler key).exists_reach
    [enrol, issue 0 ⟨"vm-1", ""⟩ (done :: bind)]
    (fresh_cluster []) (fun _ _ hreach hshows => and_assoc.mp
      ⟨hshows, clone_succeeds_once reconciler key hreach⟩) (by decide +kernel)

end Virtrigaud.Clone
