import Virtrigaud.Migration.Snapshotting

/-!
# The snapshot of a migration that failed for good

`handleFailedPhase` removes the snapshot of a migration that will not be retried, but
`Reconcile` returns before it dispatches there. The snapshot stays on the source until
the migration itself is deleted, and then it is removed.
-/

namespace Virtrigaud.Migration

open Effects Program List

/-- A failed migration that will not be retried, with a snapshot of its own to remove. -/
def leavesSnapshot (v : VMMigration) : Bool :=
  permanentlyFailed v && cleanupAllowed v && ownsSnapshot v

section Deletion

/-- `Reconcile` of a migration that is being deleted. -/
theorem reconcile_asks (r : Reconciler) (key : ObjectKey) :
    (r.reconcile key).Obeys (fun _ _ => True)
      (fun _ log' => ∀ v, Read key log' v → v.objectMeta.deletionTimestamp.isSome = true →
        leavesSnapshot v = true → (∀ entry ∈ log', resolved v entry = true) →
        AsksDeletion v.status.snapshotID log') [] := by
  refine obeys_perform trivial ?_
  rintro (err | v)
  · dsimp only
    split <;> exact fun v hread => nomatch hread
  have hread : Read key [⟨.getMigration key, .ok v⟩] v := rfl
  by_cases hdeleted : v.objectMeta.deletionTimestamp.isSome = true
  · dsimp only
    rw [if_pos hdeleted]
    by_cases hleaves : leavesSnapshot v = true
    · have hboth := hleaves
      simp only [leavesSnapshot, Bool.and_eq_true] at hboth
      refine ((handleDeletion_cleans r hdeleted).weaken fun _ _ _ => trivial).mono ?_
      rintro _ log' hlog hasks w hw - -
      rw [hw.unique (hread.mono hlog)]
      exact hasks hboth.1.2 hboth.2
    · refine (obeys_of_always fun _ _ _ => trivial).mono ?_
      rintro _ log' hlog - w hw - hw'
      rw [hw.unique (hread.mono hlog)] at hw'
      exact absurd hw' hleaves
  · refine (obeys_of_always fun _ _ _ => trivial).mono ?_
    rintro _ log' hlog - w hw hw' -
    rw [hw.unique (hread.mono hlog)] at hw'
    exact absurd hw' hdeleted

end Deletion

section Stays

variable {key : ObjectKey} {v : VMMigration}

/-- After reading a permanently failed version, `Reconcile` only adds the finalizer. -/
theorem reconcile_stops (r : Reconciler) (key : ObjectKey) :
    (r.reconcile key).Heeds (fun log c => log = [] ∧ c = .getMigration key ∨
      ∃ w, Read key log w ∧ (permanentlyFailed w = true → w.objectMeta.deletionTimestamp = none →
        w.objectMeta.containsFinalizer finalizerName = false ∧
          ∃ m, c = .updateMigration m)) [] := by
  refine obeys_perform (.inl ⟨rfl, rfl⟩) ?_
  rintro (err | w)
  · dsimp only
    split <;> trivial
  have hread : Read key [⟨.getMigration key, .ok w⟩] w := rfl
  by_cases hstops : permanentlyFailed w = true ∧ w.objectMeta.deletionTimestamp = none
  · obtain ⟨hfailed, halive⟩ := hstops
    have hphase : w.status.phase = .failed := by
      simp only [permanentlyFailed, Bool.and_eq_true, decide_eq_true_eq] at hfailed
      exact hfailed.1
    dsimp only
    rw [halive, if_neg (by simp)]
    cases hfinalizer : w.objectMeta.containsFinalizer finalizerName with
    | false =>
      rw [if_pos (by simp)]
      refine obeys_perform (.inr ⟨w, hread, fun _ _ => ⟨hfinalizer, _, rfl⟩⟩) ?_
      rintro (err | w') <;> trivial
    | true =>
      rw [if_neg (by simp), if_neg (by simp [hphase]), if_pos hfailed]
      trivial
  · exact obeys_of_always fun log' hlog c =>
      .inr ⟨w, hread.mono hlog, fun hfailed halive => absurd ⟨hfailed, halive⟩ hstops⟩

/-- A failed migration that is not being deleted: its reconciles ask for no deletion. -/
theorem not_asks_of_alive {r : Reconciler} {σ Choice : Type} {host : Host Call Answer σ Choice}
    {s : σ} {choices : List Choice} {out : Outcome Call Answer σ Return}
    (hrun : (r.reconcile key).run host s [] choices = some out)
    (hread : ∀ v, Read key out.log v →
      permanentlyFailed v = true ∧ v.objectMeta.deletionTimestamp = none) (id : String) :
    ¬ AsksDeletion id out.log := by
  rintro ⟨provider, vmId, answer, hmem⟩
  obtain ⟨older, hsuffix, hallowed⟩ := (reconcile_stops r key).run_allowed_of_mem hrun hmem
  rcases hallowed with ⟨-, hcall⟩ | ⟨w, hw, hstops⟩
  · cases hcall
  · obtain ⟨hfailed, halive⟩ := hread w (hw.mono ((suffix_cons _ _).trans hsuffix))
    obtain ⟨-, m, hcall⟩ := hstops hfailed halive
    cases hcall

/-- Whatever surrounds it: however often a failed migration has been reconciled, the deletion of its
snapshot is asked for exactly if a reconcile finds it being deleted; that is one that comes to its
end and finds the source and its provider. -/
theorem snapshot_deleted_with_migration {r : Reconciler} {σ Choice : Type}
    {sys : System Call Answer σ Choice Return} (hsys : sys.program = r.reconcile key)
    {s : σ} {trace : List LogEntry}
    (hreach : sys.Reach (fun _ _ _ log => ∀ v, Read key log v →
      leavesSnapshot v = true ∧ v.objectMeta.deletionTimestamp = none) s trace)
    {choices : List Choice} {out : Outcome Call Answer σ Return}
    (hrun : sys.Episode s choices out) (hend : out.result.isSome = true)
    (hread : Read key out.log v) (hleaves : leavesSnapshot v = true)
    (hresolved : ∀ entry ∈ out.log, resolved v entry = true) :
    AsksDeletion v.status.snapshotID (out.log ++ trace) ↔
      v.objectMeta.deletionTimestamp.isSome = true := by
  have hfailed : ∀ v, leavesSnapshot v = true → permanentlyFailed v = true := by
    intro v hleaves
    simp only [leavesSnapshot, Bool.and_eq_true] at hleaves
    exact hleaves.1.1
  have hprogram : ∀ {s choices out}, sys.Episode s choices out →
      (r.reconcile key).run sys.host s [] choices = some out := fun hepisode => hsys ▸ hepisode
  have hquiet : ∀ id, ¬ AsksDeletion id trace := by
    refine hreach.invariant (J := fun _ trace => ∀ id, ¬ AsksDeletion id trace) ?_ ?_
    · rintro s - id ⟨_, _, _, hmem⟩
      cases hmem
    · rintro s trace choices out hquiet hepisode hcond id ⟨provider, vmId, answer, hmem⟩
      rcases mem_append.mp hmem with hnew | hold
      · refine not_asks_of_alive (hprogram hepisode) (fun v hread => ?_) id ⟨_, _, _, hnew⟩
        exact (hcond v hread).imp_left (hfailed v)
      · exact hquiet id ⟨_, _, _, hold⟩
  constructor
  · rintro ⟨provider, vmId, answer, hmem⟩
    rcases mem_append.mp hmem with hnew | hold
    · refine Option.isSome_iff_ne_none.mpr fun halive => ?_
      refine not_asks_of_alive (hprogram hrun) (fun w hw => ?_) _ ⟨_, _, _, hnew⟩
      rw [hw.unique hread]
      exact ⟨hfailed v hleaves, halive⟩
    · exact absurd ⟨_, _, _, hold⟩ (hquiet _)
  · intro hdeleted
    obtain ⟨result, hresult⟩ := Option.isSome_iff_exists.mp hend
    obtain ⟨provider, vmId, answer, hmem⟩ :=
      (reconcile_asks r key).run_result (hprogram hrun) hresult v hread hdeleted hleaves hresolved
    exact ⟨provider, vmId, answer, mem_append_left _ hmem⟩

/-- The migration is left alone: it is not deleted, and its finalizer is in place. -/
def leftAlone (v : VMMigration) : Bool :=
  v.objectMeta.deletionTimestamp.isNone && v.objectMeta.containsFinalizer finalizerName

/-- Nobody else writes, and the reconcile reads the current version. -/
def undisturbed (cluster : Cluster) (_ : List LogEntry) (choices : List Choice)
    (episode : List LogEntry) : Bool :=
  choices.all (·.edits.isEmpty) &&
    (readVersion episode).all fun v => decide (v = cluster.migration.current)

variable {cluster : Cluster} {trace : List LogEntry}

theorem current_of_undisturbed {episode : List LogEntry} {choices : List Choice}
    (h : undisturbed cluster trace choices episode = true) (hread : Read key episode v) :
    v = cluster.migration.current := by
  rw [undisturbed, readVersion_of_read hread, Bool.and_eq_true] at h
  exact of_decide_eq_true h.2

/-- The calls that write no version of the migration. -/
def keepsMigration : Call → Bool
  | .updateMigration _ | .statusUpdate _ => false
  | _ => true

/-- Such a call leaves the migration as it is when nobody else writes. -/
theorem Cluster.current_of_keeps {cluster next : Cluster} {c : Call} {choice : Choice}
    {answer : Answer c} (hkeeps : keepsMigration c = true) (hedits : choice.edits.isEmpty = true)
    (h : cluster.answer c choice = some (answer, next)) :
    next.migration.current = cluster.migration.current := by
  refine (Cluster.answer_grows h).induct
    (P := fun history => history.current = cluster.migration.current) rfl ?_
  intro history new _ hpersists
  cases hpersists with
  | edited hedit =>
    rw [isEmpty_iff.mp hedits] at hedit
    cases hedit
  | updated hcall | statusWritten hcall =>
    subst hcall
    cases hkeeps

/-- A migration that nobody else writes stays as it is if every call of a reconcile that
read it so writes no version. -/
theorem undisturbed_induct {r : Reconciler} {start : Cluster}
    {cond : System.Condition Call Answer Cluster Choice} {rule : List LogEntry → Call → Prop}
    {P : Call → Prop} (hobeys : (r.reconcile key).Heeds rule [])
    (hkeeps : ∀ c, P c → keepsMigration c = true)
    (hcond : ∀ s trace choices episode, cond s trace choices episode →
      undisturbed s trace choices episode = true)
    (hrule : ∀ s trace choices episode, cond s trace choices episode →
      ∀ log c, log <:+ episode → (∀ v, Read key log v → v = start.migration.current) →
        rule log c → P c)
    (hrun : ({ system r key with init := (· = start) } :
      System Call Answer Cluster Choice Return).Reach cond cluster trace) :
    cluster.migration.current = start.migration.current ∧ ∀ entry ∈ trace, P entry.1 := by
  refine hrun.invariant (J := fun s trace => s.migration.current = start.migration.current ∧
    ∀ entry ∈ trace, P entry.1) ?_ ?_
  · rintro s rfl
    exact ⟨rfl, forall_mem_nil _⟩
  · rintro s trace choices out ⟨hcurrent, htrace⟩ hepisode hmeets
    have hundisturbed := hcond s trace choices out.log hmeets
    have hedits : ∀ choice ∈ choices, choice.edits.isEmpty = true :=
      all_eq_true.mp (Bool.and_eq_true_iff.mp hundisturbed).1
    have hend : out.state.migration.current = start.migration.current ∧
        ∀ entry ∈ out.log, P entry.1 := by
      refine (hobeys.run_induct (I := fun s log =>
        s.migration.current = start.migration.current ∧ ∀ entry ∈ log, P entry.1) hepisode hedits
        ⟨hcurrent, forall_mem_nil _⟩ ?_).1
      rintro s' log c choice answer next ⟨hsame, hlog⟩ hallowed hchoice hanswer hsuffix
      have hsuffix' := (suffix_cons _ _).trans hsuffix
      have hcall : P c := by
        refine hrule s trace choices out.log hmeets log c hsuffix' (fun v hread => ?_) hallowed
        exact (current_of_undisturbed hundisturbed (hread.mono hsuffix')).trans hcurrent
      exact ⟨(Cluster.current_of_keeps (hkeeps c hcall) hchoice hanswer).trans hsame,
        forall_mem_cons.mpr ⟨hcall, hlog⟩⟩
    refine ⟨?_, fun entry hentry => ?_⟩
    · unfold System.settle
      split <;> exact hend.1
    · rcases mem_append.mp hentry with hnew | hold
      · exact hend.2 entry hnew
      · exact htrace entry hold

/-- However often it is reconciled, the migration stays as it is and only reads itself. -/
theorem stays_failed {r : Reconciler} {start : Cluster}
    (halone : leftAlone start.migration.current = true)
    (hfailed : permanentlyFailed start.migration.current = true)
    (hrun : ({ system r key with init := (· = start) } :
      System Call Answer Cluster Choice Return).Reach
      (fun cluster trace choices episode => undisturbed cluster trace choices episode = true)
      cluster trace) :
    cluster.migration.current = start.migration.current ∧
      ∀ entry ∈ trace, entry.1 = .getMigration key := by
  simp only [leftAlone, Bool.and_eq_true, Option.isNone_iff_eq_none] at halone
  refine undisturbed_induct (P := fun c => c = .getMigration key)
    (reconcile_stops r key) ?_ (fun _ _ _ _ h => h) ?_ hrun
  · rintro c rfl
    rfl
  · rintro - - - - - log c - hcurrent (⟨-, hcall⟩ | ⟨w, hread, hstops⟩)
    · exact hcall
    · obtain rfl := hcurrent w hread
      cases halone.2.symm.trans (hstops hfailed halone.1).1

end Stays

namespace Sample

/-- The migration with a snapshot of its own and no retries. -/
def withoutRetries : VMMigration :=
  { withSnapshot with spec := { withSnapshot.spec with options := none } }

def failingCluster : Cluster := { cluster [] with migration := ⟨withoutRetries, []⟩ }

theorem fresh_failingCluster : failingCluster.Fresh key := ⟨rfl, rfl, rfl, rfl, rfl⟩

/-- The export is refused. -/
def exportRefused : List Choice :=
  issueExport [{ reply := .reports fun | .exportDisk _ _ => some (.error (errorf "disk is locked"))
                                       | _ => none }, done, clock, done]

/-- A migration that takes its snapshot and fails to export. -/
def failsAfterSnapshot : List (List Choice) :=
  untilExporting ++ [takeSnapshot { snapshotId := "snap-1" } [done], exportRefused]

end Sample

open Sample

/-- A migration fails after it took its snapshot, and will not be retried. From then on its
reconciles, however many, do not ask for the deletion of the snapshot. -/
theorem failed_migration_keeps_snapshot : ∃ cluster trace,
    (system reconciler key).Reach (fun _ _ _ _ => True) cluster trace ∧
    leavesSnapshot cluster.migration.current = true ∧
    ∀ cluster' trace', ({ system reconciler key with init := (· = cluster) } :
        System Call Answer Cluster Choice Return).Reach
        (fun cluster trace choices episode => undisturbed cluster trace choices episode = true)
        cluster' trace' →
      ¬ AsksDeletion cluster.migration.current.status.snapshotID trace' := by
  refine (system reconciler key).exists_reach
    (P := fun cluster _ => leftAlone cluster.migration.current = true ∧
      leavesSnapshot cluster.migration.current = true)
    failsAfterSnapshot fresh_failingCluster (fun cluster trace _ hshows => ?_)
    (by decide +kernel)
  obtain ⟨halone, hleaves⟩ := hshows
  have hfailed : permanentlyFailed cluster.migration.current = true := by
    simp only [leavesSnapshot, Bool.and_eq_true] at hleaves
    exact hleaves.1.1
  refine ⟨hleaves, fun cluster' trace' hrun => ?_⟩
  rintro ⟨provider, vmId, answer, hmem⟩
  cases (stays_failed halone hfailed hrun).2 _ hmem

namespace Sample

/-- The migration that failed, while it is being deleted. -/
def failedAndDeleted : VMMigration :=
  { withoutRetries with
    objectMeta := { withoutRetries.objectMeta with
      deletionTimestamp := some 1, finalizers := [finalizerName] }
    status := { phase := .failed, snapshotID := "snap-1" } }

/-- The cluster in which it is reconciled, and how the deletion goes. -/
def deletionCluster : Cluster := { cluster [] with migration := ⟨failedAndDeleted, []⟩ }

def deletion : List Choice := [
  cached 0,
  { reply := .reports fun | .newStorage _ => some none | _ => none },
  { reply := .reports fun | .storageDelete _ _ => some none | _ => none },
  cached 0, provider kvm, connected,
  { reply := .reports fun | .snapshotDelete _ _ _ => some (.ok "") | _ => none },
  cached 0, done]

end Sample

/-- The failed migration is deleted, and with it its snapshot. -/
theorem snapshot_deleted_with_migration_sample : ∃ out,
    (reconciler.reconcile key).run (system reconciler key).host
      deletionCluster [] deletion = some out ∧
    AsksDeletion "snap-1" out.log := by
  obtain ⟨out, hrun, hend, hresolved, hfirst, hversion⟩ :
      ∃ out ∈ (reconciler.reconcile key).run
        (system reconciler key).host deletionCluster [] deletion,
      out.result.isSome = true ∧ (∀ entry ∈ out.log, resolved failedAndDeleted entry = true) ∧
      out.log.getLast?.map (·.1) = some (.getMigration key) ∧
      readVersion out.log = some failedAndDeleted := by decide +kernel
  have hasks := (@snapshot_deleted_with_migration key failedAndDeleted reconciler _ _
    { system reconciler key with init := (· = deletionCluster) } rfl _ _ (.init rfl) deletion out
    hrun hend (read_of_first hfirst hversion) (by decide +kernel) hresolved).mpr rfl
  rw [append_nil] at hasks
  exact ⟨out, hrun, hasks⟩

end Virtrigaud.Migration
