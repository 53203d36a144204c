import Virtrigaud.Migration.Selection

/-!
# The snapshot a migration takes

The id of a snapshot is recorded after it was taken, and a task that takes it is not
waited for. An attempt takes at most one snapshot, and exports nothing before it is
complete, when the provider takes snapshots at once, the status write that follows goes
through, and a reconcile reads the status that was persisted last.
-/

namespace Virtrigaud.Migration

open Effects Program List

/-- The response of a SnapshotCreate that succeeded. -/
def snapshotted : LogEntry → Option SnapshotCreateResponse
  | ⟨.snapshotCreate _ _, .ok resp⟩ => some resp
  | _ => none

/-- The attempt a reconcile belongs to, which is the retry count it reads. -/
def readAttempt : LogEntry → Option Int
  | ⟨.getMigration _, .ok v⟩ => some v.status.retryCount
  | _ => none

/-- How many snapshots an attempt has taken. -/
def snapshotsIn (attempt : Int) : List LogEntry → Nat
  | [] => 0
  | entry :: older =>
    if (snapshotted entry).isSome ∧ older.findSome? readAttempt = some attempt then
      snapshotsIn attempt older + 1
    else snapshotsIn attempt older

/-- Every task that takes a snapshot was seen complete and without error. -/
def SnapshotsComplete (trace : List LogEntry) : Prop :=
  ∀ provider req resp, ⟨.snapshotCreate provider req, .ok resp⟩ ∈ trace → resp.task ≠ "" →
    TaskObserved provider resp.task trace

/-- The spec asks for a snapshot of the migration's own. -/
def takesSnapshot (_ : Option Time) (spec : VMMigrationSpec) : Bool :=
  spec.source.createSnapshot && spec.source.snapshotRef.isNone

/-- The reconcile reads the status that was persisted last. -/
def readsCurrent (cluster : Cluster) (episode : List LogEntry) : Bool :=
  (readVersion episode).all fun v => decide (v.status = cluster.migration.current.status)

/-- Every snapshot is taken at once, and a status write of the reconcile goes through. -/
def recordsSnapshots (episode : List LogEntry) : Bool :=
  episode.all fun entry => (snapshotted entry).all fun resp =>
    decide (resp.task = "") && episode.any statusWritten

/-- The condition on a reconcile. -/
def snapshotsKept (cluster : Cluster) (_ : List LogEntry) (choices : List Choice)
    (episode : List LogEntry) : Bool :=
  editsWithin takesSnapshot choices && readsCurrent cluster episode && recordsSnapshots episode

/-- The phases of an attempt up to its snapshot. -/
def early : MigrationPhase → Bool
  | .unset | .pending | .validating | .snapshotting => true
  | _ => false

section Attempts

variable {v : VMMigration} {log : List LogEntry} {status : VMMigrationStatus}

theorem Base.retryCount {base : VMMigrationStatus} (h : Base v base) :
    base.retryCount = v.status.retryCount := by
  cases h <;> rfl

/-- An attempt does not go back behind its snapshot; the next one counts one more. -/
theorem Writes.attempt (h : Writes v log status) :
    status.retryCount = v.status.retryCount ∧
      (early status.phase = true → early v.status.phase = true) ∨
    status.retryCount = v.status.retryCount + 1 := by
  rcases h with ⟨-, hmoves⟩ | ⟨entry, -, -, hlands⟩
  · cases hmoves with
    | retrying => exact .inr rfl
    | started _ hphase | validationStarted hphase => exact .inl ⟨rfl, fun _ => by rw [hphase]; rfl⟩
    | mountWaits _ hphase hbase
    | poweringOff hphase hbase => exact .inl ⟨hbase.retryCount, fun _ => by rw [hphase]; rfl⟩
    | validated createSnapshot hphase hbase =>
      refine .inl ⟨?_, fun _ => by rw [hphase]; rfl⟩
      cases createSnapshot <;> exact hbase.retryCount
    | failed message now hphase hbase =>
      exact .inl ⟨hbase.retryCount, nofun⟩
    | _ => first | exact .inl ⟨rfl, id⟩ | exact .inl ⟨rfl, nofun⟩
  · cases hlands with
    | _ => first | exact .inl ⟨rfl, id⟩ | exact .inl ⟨rfl, nofun⟩

/-- What a reconcile in the Snapshotting phase writes if no snapshot is still being taken. -/
theorem Writes.snapshot_taken (h : Writes v log status) (hphase : v.status.phase = .snapshotting)
    (htasks : ∀ entry ∈ log, ∀ resp, snapshotted entry = some resp → resp.task = "") :
    status.retryCount = v.status.retryCount ∧ early status.phase = false := by
  rcases h with ⟨-, hmoves⟩ | ⟨entry, -, -, hlands⟩
  · cases hmoves with
    | snapshotSelected | snapshotReady | snapshotCreated => exact ⟨rfl, rfl⟩
    | snapshotTaskStarted _ hcreated htask => exact absurd (htasks _ hcreated _ rfl) htask
    | failed _ _ _ hbase => exact ⟨hbase.retryCount, rfl⟩
    -- every other write is made in another phase
    | _ => simp_all
  · cases hlands with
    | _ => simp_all

end Attempts

variable {out : Outcome Call Answer Cluster Return}

section Episode

variable {key : ObjectKey} {cluster : Cluster} {trace episode : List LogEntry}
  {choices : List Choice} {entry : LogEntry}

theorem snapshotsIn_cons_of_none {attempt : Int} (h : snapshotted entry = none) :
    snapshotsIn attempt (entry :: trace) = snapshotsIn attempt trace := by
  rw [snapshotsIn, h]
  exact if_neg fun hsome => by cases hsome.1

variable {resp : SnapshotCreateResponse}

theorem exists_of_snapshotted (h : snapshotted entry = some resp) :
    ∃ provider req, entry = ⟨.snapshotCreate provider req, .ok resp⟩ := by
  unfold snapshotted at h
  split at h
  · cases h
    exact ⟨_, _, rfl⟩
  · cases h

/-- The snapshots of a reconcile under way: none so far, or one of the attempt it read. -/
inductive TakenSoFar (key : ObjectKey) (trace log : List LogEntry) : Prop
  | zero : (∀ entry ∈ log, snapshotted entry = none) →
      (∀ n, snapshotsIn n (log ++ trace) = snapshotsIn n trace) → TakenSoFar key trace log
  | one {v} : Read key log v → v.status.phase = .snapshotting →
      (∃ entry ∈ log, (snapshotted entry).isSome = true) →
      (∀ n, snapshotsIn n (log ++ trace) = snapshotsIn n trace +
        if v.status.retryCount = n then 1 else 0) → TakenSoFar key trace log

theorem TakenSoFar.step {log : List LogEntry} {c : Call} {answer : Answer c}
    (h : TakenSoFar key trace log) (hconducts : Conducts key log c) :
    TakenSoFar key trace (⟨c, answer⟩ :: log) := by
  cases hsnap : snapshotted ⟨c, answer⟩ with
  | none =>
    cases h with
    | zero hnone hcount =>
      refine .zero (forall_mem_cons.mpr ⟨hsnap, hnone⟩) fun n => ?_
      rw [cons_append, snapshotsIn_cons_of_none hsnap, hcount]
    | one hread hphase hsome hcount =>
      obtain ⟨entry, hentry, htaken⟩ := hsome
      refine .one hread.cons hphase ⟨entry, .tail _ hentry, htaken⟩ fun n => ?_
      rw [cons_append, snapshotsIn_cons_of_none hsnap, hcount]
  | some resp =>
    obtain ⟨provider, req, heq⟩ := exists_of_snapshotted hsnap
    cases heq
    -- nothing but reads comes before a snapshot in its reconcile
    obtain ⟨v, sourceVM, sourceProvider, hphase, rfl⟩ := hconducts
    have hcount : ∀ n, snapshotsIn n (([⟨.getProviderInstance sourceProvider.objectMeta.key, none⟩,
        ⟨.getProvider ((sourceProviderRef v sourceVM).key v.objectMeta.ns), .ok sourceProvider⟩,
        ⟨.getVirtualMachine (sourceKey v), .ok sourceVM⟩, ⟨.getMigration key, .ok v⟩] :
          List LogEntry) ++ trace) = snapshotsIn n trace := by
      intro n
      iterate 4 rw [cons_append, snapshotsIn_cons_of_none rfl]
      rfl
    refine .one (v := v) rfl hphase ⟨_, .head _, rfl⟩ fun n => ?_
    rw [cons_append, snapshotsIn, hcount]
    by_cases hattempt : v.status.retryCount = n
    · rw [if_pos ⟨rfl, congrArg some hattempt⟩, if_pos hattempt]
    · rw [if_neg fun htaken => hattempt (Option.some.inj htaken.2), if_neg hattempt,
        Nat.add_zero]

theorem takenSoFar_of_run (trace : List LogEntry) {r : Reconciler}
    (hrun : (system r key).Episode cluster choices out) : TakenSoFar key trace out.log := by
  refine ((reconcile_conducts r key).run_induct (I := fun _ log => TakenSoFar key trace log) hrun
    (fun _ _ => trivial) (.zero (forall_mem_nil _) fun _ => rfl) ?_).1
  intro s log c choice answer next h hconducts _ _ _
  exact h.step hconducts

theorem status_of_readsCurrent (h : readsCurrent cluster episode = true) {v : VMMigration}
    (hread : Read key episode v) : v.status = cluster.migration.current.status := by
  rw [readsCurrent, readVersion_of_read hread] at h
  exact of_decide_eq_true h

theorem task_of_recordsSnapshots (h : recordsSnapshots episode = true) (hentry : entry ∈ episode)
    (hsnap : snapshotted entry = some resp) :
    resp.task = "" ∧ ∃ written ∈ episode, statusWritten written = true := by
  have hall := all_eq_true.mp h entry hentry
  rw [hsnap, Option.all_some, Bool.and_eq_true, decide_eq_true_eq, any_eq_true] at hall
  exact hall

end Episode

/-- Throughout: an attempt has one snapshot at most, an attempt that has one is past it, and
no snapshot was left to a task. -/
structure OncePerAttempt (cluster : Cluster) (trace : List LogEntry) : Prop where
  once : ∀ n, snapshotsIn n trace ≤ 1
  past : ∀ n, snapshotsIn n trace ≠ 0 → n < cluster.migration.current.status.retryCount ∨
    n = cluster.migration.current.status.retryCount ∧
      early cluster.migration.current.status.phase = false
  atOnce : ∀ entry ∈ trace, ∀ resp, snapshotted entry = some resp → resp.task = ""

theorem OncePerAttempt.episode {r : Reconciler} {key : ObjectKey} {cluster : Cluster}
    {trace : List LogEntry} {choices : List Choice} (h : OncePerAttempt cluster trace)
    (hrun : (system r key).Episode cluster choices out)
    (hreads : readsCurrent cluster out.log = true) (hrecords : recordsSnapshots out.log = true) :
    OncePerAttempt out.state (out.log ++ trace) := by
  have hatOnce : ∀ entry ∈ out.log, ∀ resp, snapshotted entry = some resp → resp.task = "" :=
    fun entry hentry resp hsnap => (task_of_recordsSnapshots hrecords hentry hsnap).1
  have hatOnce' : ∀ entry ∈ out.log ++ trace, ∀ resp, snapshotted entry = some resp →
      resp.task = "" := forall_mem_append.mpr ⟨hatOnce, h.atOnce⟩
  have hstatus := statusAfter_of_run hrun
  cases takenSoFar_of_run trace hrun with
  | zero _ hcount =>
    refine ⟨fun n => hcount n ▸ h.once n, fun n hn => ?_, hatOnce'⟩
    rw [hcount] at hn
    rcases hstatus with ⟨-, hsame⟩ | ⟨log, v, hsuffix, hread, hwrites⟩
    · rw [hsame]
      exact h.past n hn
    · have hv := status_of_readsCurrent hreads (hread.mono hsuffix)
      have hpast := h.past n hn
      rw [← hv] at hpast
      rcases hwrites.attempt with ⟨hcount, hearly⟩ | hnext
      · rw [hcount]
        refine hpast.imp_right fun ⟨hn, hlate⟩ => ⟨hn, ?_⟩
        by_contra hback
        rw [hearly (by simpa using hback)] at hlate
        cases hlate
      · rw [hnext]
        rcases hpast with hlt | ⟨heq, -⟩
        · exact .inl (by omega)
        · exact .inl (by omega)
  | @one v hread hphase hsome hcount =>
    have hv := status_of_readsCurrent hreads hread
    -- the attempt has no earlier snapshot, since it is not past it
    have hfirst : snapshotsIn v.status.retryCount trace = 0 := by
      by_contra hearlier
      rcases h.past _ hearlier with hlt | ⟨-, hlate⟩
      · rw [hv] at hlt
        omega
      · rw [← hv, hphase] at hlate
        cases hlate
    obtain ⟨entry, hentry, htaken⟩ := hsome
    obtain ⟨resp, hresp⟩ := Option.isSome_iff_exists.mp htaken
    obtain ⟨written, hmem, hwritten⟩ := (task_of_recordsSnapshots hrecords hentry hresp).2
    -- the status write that went through left the Snapshotting phase
    have hafter : out.state.migration.current.status.retryCount = v.status.retryCount ∧
        early out.state.migration.current.status.phase = false := by
      rcases hstatus with ⟨hnone, -⟩ | ⟨log, w, hsuffix, hread', hwrites⟩
      · rw [hnone written hmem] at hwritten
        cases hwritten
      · obtain rfl := (hread'.mono hsuffix).unique hread
        exact hwrites.snapshot_taken hphase fun entry hentry => hatOnce entry
          (hsuffix.subset hentry)
    refine ⟨fun n => ?_, fun n hn => ?_, hatOnce'⟩
    · rw [hcount]
      have honce := h.once n
      split
      · rename_i hattempt
        rw [← hattempt, hfirst]
      · exact honce
    · rw [hafter.1]
      by_cases hattempt : v.status.retryCount = n
      · exact .inr ⟨hattempt.symm, hafter.2⟩
      · rw [hcount, if_neg hattempt] at hn
        have hpast := h.past n hn
        rw [← hv] at hpast
        rcases hpast with hlt | ⟨heq, -⟩
        · exact .inl hlt
        · exact absurd heq.symm hattempt

/-- A migration with a snapshot of its own: in every run in which snapshots are taken at
once and recorded, and reconciles read the last status, an attempt takes one snapshot at
most, and no disk is exported before a snapshot is complete. -/
theorem snapshot_once_per_attempt (r : Reconciler) (key : ObjectKey) {cluster : Cluster}
    {trace : List LogEntry}
    (hrun : ((system r key).startingFrom (startsWithin takesSnapshot)).Reach
      (fun cluster trace choices episode => snapshotsKept cluster trace choices episode = true)
      cluster trace) :
    (∀ attempt, snapshotsIn attempt trace ≤ 1) ∧
      ∀ provider req answer older, (⟨.exportDisk provider req, answer⟩ :: older) <:+ trace →
        SnapshotsComplete older := by
  have honce : OncePerAttempt cluster trace := by
    refine hrun.invariant (J := OncePerAttempt) ?_ ?_
    · intro s _
      exact ⟨fun _ => Nat.zero_le _, fun n hn => absurd rfl hn, forall_mem_nil _⟩
    · intro s trace choices out h hepisode hkept
      simp only [snapshotsKept, Bool.and_eq_true] at hkept
      have hend := h.episode hepisode hkept.1.2 hkept.2
      unfold System.settle
      split
      · exact hend
      · exact ⟨hend.once, hend.past, hend.atOnce⟩
  refine ⟨honce.once, fun provider req answer older hsuffix provider' req' resp hmem htask => ?_⟩
  have hentry := hsuffix.subset (.tail _ hmem)
  exact absurd (honce.atOnce _ hentry resp rfl) htask

namespace Sample

/-- The migration with a snapshot of its own. -/
def withSnapshot : VMMigration :=
  { migration with spec := { migration.spec with
      source := { vmRef := ⟨"web"⟩, createSnapshot := true } } }

def ownSnapshotCluster : Cluster := { cluster [] with migration := ⟨withSnapshot, []⟩ }

theorem fresh_ownSnapshotCluster : ownSnapshotCluster.Fresh key := ⟨rfl, rfl, rfl, rfl, rfl⟩

/-- Take a snapshot, and end with the given answers. -/
def takeSnapshot (resp : SnapshotCreateResponse) (ending : List Choice) : List Choice :=
  [cached 0, cached 0, provider kvm, connected,
    { reply := .reports fun | .snapshotCreate _ _ => some (.ok resp) | _ => none }] ++ ending

/-- Find the snapshot recorded. -/
def findSnapshot : List Choice := [cached 0, cached 0, provider kvm, connected, done]

/-- The task was asked about. -/
def asksFor (task : String) : LogEntry → Bool
  | ⟨.isTaskComplete _ ref, _⟩ => decide (ref = task)
  | _ => false

/-- A disk was exported after the task took a snapshot, and before anyone asked about it. -/
def exportsUnwatched (task : String) : List LogEntry → Bool
  | [] => false
  | entry :: older =>
    ((exportOf entry).isSome && older.any (fun event => (snapshotted event).any (·.task = task)) &&
      older.all (fun event => !asksFor task event)) || exportsUnwatched task older

theorem incomplete_of_exportsUnwatched {task : String} (htask : task ≠ "") {trace : List LogEntry}
    (h : exportsUnwatched task trace = true) : ∃ provider req answer older,
    (⟨.exportDisk provider req, answer⟩ :: older) <:+ trace ∧ ¬ SnapshotsComplete older := by
  induction trace with
  | nil => cases h
  | cons entry older ih =>
    rcases Bool.or_eq_true_iff.mp h with hhere | hlater
    · simp only [Bool.and_eq_true, any_eq_true, all_eq_true] at hhere
      obtain ⟨⟨hexport, event, hevent, htaken⟩, hunasked⟩ := hhere
      obtain ⟨req, hreq⟩ := Option.isSome_iff_exists.mp hexport
      obtain ⟨provider, answer, rfl⟩ := exists_of_exportOf hreq
      obtain ⟨resp, hresp, hsame⟩ := (Option.any_eq_true _ _).mp htaken
      obtain ⟨at', req', rfl⟩ := exists_of_snapshotted hresp
      refine ⟨provider, req, answer, older, suffix_refl _, fun hcomplete => ?_⟩
      obtain rfl : resp.task = task := of_decide_eq_true hsame
      have hseen := (hcomplete at' req' resp hevent htask).1
      have hasked := hunasked _ hseen
      simp [asksFor] at hasked
    · obtain ⟨provider, req, answer, rest, hsuffix, hincomplete⟩ := ih hlater
      exact ⟨provider, req, answer, rest, hsuffix.trans (suffix_cons _ _), hincomplete⟩

end Sample

open Sample

/-- After a status write that fails the attempt takes a second snapshot; and a snapshot
that is left to a task is not waited for before the export. -/
theorem snapshot_twice_or_unwatched :
    (∃ cluster trace,
      ((system reconciler key).startingFrom (startsWithin takesSnapshot)).Reach
        (fun _ _ choices _ => editsWithin takesSnapshot choices = true) cluster trace ∧
      snapshotsIn 0 trace = 2) ∧
    ∃ cluster trace provider req answer older,
      ((system reconciler key).startingFrom (startsWithin takesSnapshot)).Reach
        (fun _ _ choices _ => editsWithin takesSnapshot choices = true) cluster trace ∧
      (⟨.exportDisk provider req, answer⟩ :: older) <:+ trace ∧ ¬ SnapshotsComplete older := by
  constructor
  · exact System.exists_reach _
      (untilExporting ++ [
        takeSnapshot { snapshotId := "snap-1" } [outage],
        takeSnapshot { snapshotId := "snap-2" } [done]])
      ⟨fresh_ownSnapshotCluster, rfl⟩ (fun _ _ _ hshows => hshows) (by decide +kernel)
  · obtain ⟨cluster, trace, hreach, hshows⟩ := ((system reconciler
      key).startingFrom (startsWithin takesSnapshot)).exists_reach_of_replay
      (P := fun _ trace => exportsUnwatched "task-7" trace = true)
      (fun _ _ choices _ => editsWithin takesSnapshot choices)
      (untilExporting ++ [
        takeSnapshot { snapshotId := "snap-1", task := "task-7" } [done],
        findSnapshot, exportOnce])
      (fun _ _ _ _ h => h) ⟨fresh_ownSnapshotCluster, rfl⟩ (by decide +kernel)
    obtain ⟨provider, req, answer, older, hsuffix, hincomplete⟩ :=
      incomplete_of_exportsUnwatched (by decide) hshows
    exact ⟨cluster, trace, provider, req, answer, older, hreach, hsuffix, hincomplete⟩

/-- One snapshot, recorded at once, and an export. -/
theorem snapshot_once_per_attempt_sample : ∃ cluster trace,
    ((system reconciler key).startingFrom (startsWithin takesSnapshot)).Reach
      (fun cluster trace choices episode => snapshotsKept cluster trace choices episode = true)
      cluster trace ∧
    snapshotsIn 0 trace = 1 ∧ (trace.any fun entry => (exportOf entry).isSome) = true ∧
    (∀ attempt, snapshotsIn attempt trace ≤ 1) ∧
      ∀ provider req answer older, (⟨.exportDisk provider req, answer⟩ :: older) <:+ trace →
        SnapshotsComplete older := by
  exact System.exists_reach _
    (untilExporting ++ [
      takeSnapshot { snapshotId := "snap-1" } [done], exportOnce])
    ⟨fresh_ownSnapshotCluster, rfl⟩ (fun _ _ hreach hshows => and_assoc.mp
      ⟨hshows, snapshot_once_per_attempt reconciler key hreach⟩) (by decide +kernel)

end Virtrigaud.Migration
