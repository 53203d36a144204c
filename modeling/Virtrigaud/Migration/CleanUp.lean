import Virtrigaud.Migration.Leftovers

/-!
# Clean-up of a completed migration

At Ready the staged file, the snapshot and the source are removed in this order, and one
status write at the end records all of it. What was removed before a step or that write
fails is not recorded: the snapshot is deleted again, and once the source is gone no
reconcile gets past looking it up. When the write always follows a completed deletion of
the snapshot, no snapshot is deleted again; and a reconcile in which every call is
answered, with the source still there, completes the clean-up.
-/

namespace Virtrigaud.Migration

open Effects Program List Option

/-- The deletion of the snapshot was left to the task. -/
def deletionTask (provider : ObjectKey) (task id : String) : LogEntry → Bool
  | ⟨.snapshotDelete at' _ snapshotId, .ok taskRef⟩ =>
    decide (at' = provider ∧ snapshotId = id ∧ taskRef = task)
  | _ => false

/-- The answer shows that the snapshot is deleted: at once, or by a task that ended
without error. -/
def completesDeletion (id : String) (older : List LogEntry) : LogEntry → Bool
  | ⟨.snapshotDelete _ _ snapshotId, .ok task⟩ => decide (snapshotId = id ∧ task = "")
  | ⟨.taskStatus provider task, .ok taskStatus⟩ =>
    decide (taskStatus.error = "") && older.any (deletionTask provider task id)
  | _ => false

/-- The deletion of the snapshot has completed. -/
def snapshotGone (id : String) : List LogEntry → Bool
  | [] => false
  | entry :: older => completesDeletion id older entry || snapshotGone id older

/-- A deletion at once, or the end of a task without error. -/
def finishes : LogEntry → Bool
  | ⟨.snapshotDelete _ _ _, .ok task⟩ => decide (task = "")
  | ⟨.taskStatus _ _, .ok taskStatus⟩ => decide (taskStatus.error = "")
  | _ => false

/-- The deletion of some snapshot was asked for. -/
def asksDeletion : LogEntry → Bool
  | ⟨.snapshotDelete _ _ _, _⟩ => true
  | _ => false

/-- When the deletion of the snapshot completes in a reconcile at Ready, a status write of
the reconcile goes through. -/
def latches (episode : List LogEntry) : Bool :=
  (readVersion episode).all fun v => decide (v.status.phase ≠ .ready) ||
    !episode.any finishes || episode.any statusWritten

/-- The migration is not being deleted. -/
def live (deletion : Option Time) (_ : VMMigrationSpec) : Bool := deletion.isNone

/-- The condition on a reconcile. -/
def cleanupKept (cluster : Cluster) (_ : List LogEntry) (choices : List Choice)
    (episode : List LogEntry) : Bool :=
  editsWithin live choices && readsCurrent cluster episode && latches episode

section Deletions

variable {id : String} {log trace : List LogEntry} {entry : LogEntry}

theorem finishes_of_completesDeletion (h : completesDeletion id trace entry = true) :
    finishes entry = true := by
  unfold completesDeletion at h
  split at h
  · exact decide_eq_true (of_decide_eq_true h).2
  · exact (Bool.and_eq_true_iff.mp h).1
  · cases h

theorem asksDeletion_of_completesDeletion (h : completesDeletion id trace entry = true) :
    ∃ event ∈ entry :: trace, asksDeletion event = true := by
  unfold completesDeletion at h
  split at h
  · exact ⟨_, .head _, rfl⟩
  · obtain ⟨event, hevent, htask⟩ := any_eq_true.mp (Bool.and_eq_true_iff.mp h).2
    refine ⟨event, .tail _ hevent, ?_⟩
    unfold deletionTask at htask
    split at htask
    · rfl
    · cases htask
  · cases h

theorem completesDeletion_of_unpolled (h : unpolled entry.1 = true) :
    completesDeletion id trace entry = false := by
  unfold completesDeletion
  split
  · cases h
  · cases h
  · rfl

/-- Calls that neither delete nor see to the end of a task leave the snapshot. -/
theorem snapshotGone_append_of_unpolled (h : ∀ entry ∈ log, unpolled entry.1 = true) :
    snapshotGone id (log ++ trace) = snapshotGone id trace := by
  induction log with
  | nil => rfl
  | cons entry log ih =>
    obtain ⟨hentry, hlog⟩ := forall_mem_cons.mp h
    rw [cons_append, snapshotGone, completesDeletion_of_unpolled hentry, Bool.false_or,
      ih hlog]

/-- A snapshot that was deleted in this log, or before. -/
theorem exists_of_snapshotGone_append (h : snapshotGone id (log ++ trace) = true) :
    snapshotGone id trace = true ∨
      ∃ entry older, (entry :: older) <:+ log ∧
        completesDeletion id (older ++ trace) entry = true := by
  induction log with
  | nil => exact .inl h
  | cons entry log ih =>
    rcases Bool.or_eq_true_iff.mp h with hhere | hbefore
    · exact .inr ⟨entry, log, suffix_refl _, hhere⟩
    · rcases ih hbefore with hold | ⟨event, older, hsuffix, hcompletes⟩
      · exact .inl hold
      · exact .inr ⟨event, older, hsuffix.trans (suffix_cons _ _), hcompletes⟩

/-- Something was asked for before it was done. -/
theorem asksDeletion_of_snapshotGone (h : snapshotGone id trace = true) :
    ∃ entry ∈ trace, asksDeletion entry = true := by
  induction trace with
  | nil => cases h
  | cons entry trace ih =>
    rcases Bool.or_eq_true_iff.mp h with hhere | hbefore
    · exact asksDeletion_of_completesDeletion hhere
    · obtain ⟨event, hevent, hasks⟩ := ih hbefore
      exact ⟨event, .tail _ hevent, hasks⟩

end Deletions

section Ready

variable {v : VMMigration} {log : List LogEntry} {status : VMMigrationStatus}

/-- At Ready only the end of the clean-up is written. -/
theorem Writes.of_ready (h : Writes v log status) (hphase : v.status.phase = .ready) :
    status.phase = .ready ∧ status.cleanedUp = true ∧ v.status.cleanedUp = false := by
  rcases h with ⟨-, hmoves⟩ | ⟨entry, -, -, hlands⟩
  · cases hmoves with
    | cleanupComplete _ _ hclean _ => exact ⟨hphase, rfl, hclean⟩
    | failed _ _ hactive =>
      rw [hphase] at hactive
      cases hactive
    -- every other write is made in another phase
    | _ => simp_all
  · cases hlands with
    | _ => simp_all

end Ready

section Steps

variable {log : List LogEntry} (r : Reconciler) (migration : VMMigration)

/-- A completed migration whose clean-up is still to be recorded. -/
def awaitsCleanup (v : VMMigration) : Bool :=
  leftAlone v && decide (v.status.phase = .ready) && !v.status.cleanedUp

/-- The migration has something to clean up. -/
def hasCleanup (v : VMMigration) : Bool :=
  (cleanupAllowed v && (v.spec.storage.isSome || ownsSnapshot v)) ||
    v.spec.source.deleteAfterMigration

theorem keepsMigration_of_cleans {before : List LogEntry} {c : Call}
    (h : Cleans migration before log c) : keepsMigration c = true := by
  cases c <;> first | rfl | cases h

/-- A status write that is answered goes through at the first attempt. -/
theorem persist_answered {rule : List LogEntry → Call → Prop} (status : VMMigrationStatus)
    (result : Result) (hrule : ∀ log', log <:+ log' → ∀ c, rule log' c) :
    (persist migration status result).Obeys rule
      (fun _ log' => (∀ entry ∈ log', answered entry = true) →
        ∃ entry ∈ log', statusWritten entry = true) log := by
  refine obeys_perform (hrule _ (suffix_refl _) _) ?_
  rintro (err | stored)
  · refine (obeys_of_always fun log' hlog => hrule log' ((suffix_cons _ _).trans hlog)).mono ?_
    exact fun _ log' hlog _ hanswered => nomatch hanswered _ (hlog.subset (.head _))
  · exact fun _ => ⟨_, .head _, rfl⟩

/-- The end of the clean-up is written once the source was found, if it is to be deleted;
and it is written when every call is answered. -/
theorem handleReadyPhase_answered (hclean : migration.status.cleanedUp = false) :
    (r.handleReadyPhase migration).Obeys
      (fun log c => keepsMigration c = true ∨
        (migration.spec.source.deleteAfterMigration = true → FoundSource migration log))
      (fun _ log' => hasCleanup migration = true → (∀ entry ∈ log', answered entry = true) →
        ∃ entry ∈ log', statusWritten entry = true) log := by
  unfold Reconciler.handleReadyPhase
  rw [if_neg (by rw [hclean]; exact Bool.false_ne_true)]
  refine ((cleanupArtifacts_cleans r).weaken fun _ _ hc =>
    .inl (keepsMigration_of_cleans migration hc)).bind ?_
  rintro (_ | ⟨m, performed⟩) log₁ - ⟨hresult, hartifacts⟩
  · exact fun _ hanswered => absurd rfl (hartifacts hanswered)
  obtain ⟨⟨snapshotID, -, rfl⟩, -, hperformed⟩ := hresult m performed rfl
  refine ((deleteSourceIfAsked_deletes _).weaken ?_).bind ?_
  · rintro _ _ (⟨name, rfl⟩ | ⟨vm, rfl, -⟩) <;> exact .inl rfl
  rintro (_ | err) log₂ - ⟨hfound, hdeleted⟩
  swap
  · exact fun _ hanswered => nomatch hdeleted hanswered
  dsimp only
  split
  · refine (persist_answered _ _ _ fun log₃ hlog c => .inr fun hasked => ?_).mono
      fun _ _ _ hwritten _ => hwritten
    obtain ⟨sourceVM, hmem⟩ := hfound hasked rfl
    exact ⟨sourceVM, hlog.subset hmem⟩
  · rename_i hnothing
    intro hhas
    refine absurd ?_ hnothing
    rw [hperformed]
    simpa only [hasCleanup, Bool.or_eq_true] using hhas

/-- `Reconcile` of a migration that awaits its clean-up. -/
theorem reconcile_answered (key : ObjectKey) :
    (r.reconcile key).Obeys
      (fun log c => ∀ v, Read key log v → awaitsCleanup v = true → keepsMigration c = true ∨
        (v.spec.source.deleteAfterMigration = true → FoundSource v log))
      (fun _ log' => ∀ v, Read key log' v → awaitsCleanup v = true → hasCleanup v = true →
        (∀ entry ∈ log', answered entry = true) →
          ∃ entry ∈ log', statusWritten entry = true) [] := by
  refine obeys_perform (fun v hread => (nomatch hread)) ?_
  rintro (err | v)
  · dsimp only
    split <;> exact fun v hread => nomatch hread
  have hread : Read key [⟨.getMigration key, .ok v⟩] v := rfl
  by_cases hawaits : awaitsCleanup v = true
  · have hboth := hawaits
    simp only [awaitsCleanup, leftAlone, Bool.and_eq_true, isNone_iff_eq_none,
      decide_eq_true_eq, Bool.not_eq_eq_eq_not, Bool.not_true] at hboth
    obtain ⟨⟨⟨halive, hfinalizer⟩, hphase⟩, hclean⟩ := hboth
    dsimp only
    rw [halive, if_neg (by simp), if_neg (not_not_intro hfinalizer), if_neg (by simp [hphase]),
      if_neg (by simp [permanentlyFailed, hphase]), Reconciler.handlePhase, hphase]
    have hreads : (r.handleReadyPhase v).Heeds (fun log _ => Read key log v)
        [⟨.getMigration key, .ok v⟩] := obeys_of_always fun log' hlog c => hread.mono hlog
    refine (((handleReadyPhase_answered r v hclean).and hreads).weaken ?_).mono ?_
    · rintro log' c ⟨hcall, hread'⟩ w hw -
      rw [hw.unique hread']
      exact hcall
    · rintro _ log' hlog ⟨hwritten, -⟩ w hw -
      rw [hw.unique (hread.mono hlog)]
      exact hwritten
  · refine (obeys_of_always fun log' hlog c w hw hw' => ?_).mono fun _ log' hlog _ w hw hw' => ?_
    all_goals
      rw [hw.unique (hread.mono hlog)] at hw'
      exact absurd hw' hawaits

end Steps

/-- Throughout: after a deletion was asked for the migration is Ready, after it completed
the clean-up is recorded, and no completed deletion was asked for again. -/
structure Latched (cluster : Cluster) (trace : List LogEntry) : Prop where
  ready : (∃ entry ∈ trace, asksDeletion entry = true) →
    cluster.migration.current.status.phase = .ready
  cleaned : ∀ id, snapshotGone id trace = true →
    cluster.migration.current.status.cleanedUp = true
  once : ∀ provider vmId id answer older,
    (⟨.snapshotDelete provider vmId id, answer⟩ :: older) <:+ trace → snapshotGone id older = false

theorem latched_nil (cluster : Cluster) : Latched cluster [] where
  ready h := by simp at h
  cleaned id hgone := by cases hgone
  once provider vmId id answer older hevent := by simp at hevent

section Episode

variable {r : Reconciler} {key : ObjectKey} {cluster : Cluster} {trace : List LogEntry}
  {choices : List Choice} {out : Outcome Call Answer Cluster Return}

/-- Every call but the first comes after the read. -/
theorem reconcile_reads (r : Reconciler) (key : ObjectKey) :
    (r.reconcile key).Heeds (fun log c => log = [] ∧ c = .getMigration key ∨
      ∃ v, Read key log v) [] := by
  refine obeys_perform (.inl ⟨rfl, rfl⟩) ?_
  rintro (err | v)
  · dsimp only
    split <;> trivial
  · have hread : Read key [⟨.getMigration key, .ok v⟩] v := rfl
    exact obeys_of_always fun log' hlog c => .inr ⟨v, hread.mono hlog⟩

variable (hrun : (system r key).Episode cluster choices out)
include hrun

/-- A reconcile at Ready leaves the migration Ready, and cleaned up if it was before or if
it writes. -/
theorem status_after_ready
    (hreads : readsCurrent cluster out.log = true)
    (hphase : cluster.migration.current.status.phase = .ready) :
    out.state.migration.current.status.phase = .ready ∧
      (cluster.migration.current.status.cleanedUp = true ∨
        (∃ entry ∈ out.log, statusWritten entry = true) →
        out.state.migration.current.status.cleanedUp = true) := by
  rcases statusAfter_of_run hrun with ⟨hnone, hsame⟩ | ⟨log', v, hsuffix, hread, hwrites⟩
  · rw [hsame]
    refine ⟨hphase, ?_⟩
    rintro (hclean | ⟨entry, hentry, hwritten⟩)
    · exact hclean
    · rw [hnone entry hentry] at hwritten
      cases hwritten
  · have hv := status_of_readsCurrent hreads (hread.mono hsuffix)
    obtain ⟨hready, hclean, -⟩ := hwrites.of_ready (hv ▸ hphase)
    exact ⟨hready, fun _ => hclean⟩

variable (hwithin : ∀ v ∈ out.state.migration.all, keepsTo live v = true)
  (hpersisted : ReadPersisted key out.state.migration out.log)

include hwithin hpersisted in
/-- A deletion is asked for once in a reconcile, by a version that is Ready and not yet
cleaned up. -/
theorem version_of_asksDeletion {provider : ObjectKey} {vmId id : String}
    {answer : Except GoError String} {older : List LogEntry}
    (hevent : (⟨.snapshotDelete provider vmId id, answer⟩ :: older) <:+ out.log) :
    ∃ v, Read key out.log v ∧ v.status.phase = .ready ∧ v.status.cleanedUp = false ∧
      ∀ entry ∈ older, unpolled entry.1 = true := by
  obtain ⟨v, sourceVM, hread, hcleans, -, -, hunpolled, -⟩ :=
    (reconcile_conducts r key).run_allowed hrun hevent
  have hread' := hread.mono ((suffix_cons _ _).trans hevent)
  have halive : v.objectMeta.deletionTimestamp = none := by
    have hlive := hwithin v (hpersisted v hread')
    simpa only [keepsTo, live, isNone_iff_eq_none] using hlive
  simp only [cleansUp, halive, isSome_none, Bool.false_or, Bool.and_eq_true,
    decide_eq_true_eq, Bool.not_eq_eq_eq_not, Bool.not_true] at hcleans
  exact ⟨v, hread', hcleans.1, hcleans.2, hunpolled⟩

include hwithin hpersisted in
/-- After a deletion was asked for, the version that was read is Ready. -/
theorem ready_of_asksDeletion (h : Latched cluster trace)
    (hreads : readsCurrent cluster out.log = true) {entry : LogEntry}
    (hentry : entry ∈ out.log ++ trace) (hasks : asksDeletion entry = true) :
    cluster.migration.current.status.phase = .ready := by
  rcases mem_append.mp hentry with hnew | hold
  · unfold asksDeletion at hasks
    split at hasks
    · obtain ⟨older, hevent, -⟩ := (reconcile_conducts r key).run_allowed_of_mem hrun hnew
      obtain ⟨v, hread, hphase, -⟩ := version_of_asksDeletion hrun hwithin hpersisted hevent
      rw [← status_of_readsCurrent hreads hread]
      exact hphase
    · cases hasks
  · exact h.ready ⟨entry, hold, hasks⟩

include hwithin hpersisted in
theorem Latched.episode (h : Latched cluster trace)
    (hreads : readsCurrent cluster out.log = true) (hlatches : latches out.log = true) :
    Latched out.state (out.log ++ trace) where
  ready := by
    rintro ⟨entry, hentry, hasks⟩
    have hphase := ready_of_asksDeletion hrun hwithin hpersisted h hreads hentry hasks
    exact (status_after_ready hrun hreads hphase).1
  cleaned id hgone := by
    obtain ⟨entry, hentry, hasks⟩ := asksDeletion_of_snapshotGone hgone
    have hphase := ready_of_asksDeletion hrun hwithin hpersisted h hreads hentry hasks
    refine (status_after_ready hrun hreads hphase).2 ?_
    rcases exists_of_snapshotGone_append hgone with hold | ⟨entry, older, hevent, hcompletes⟩
    · exact .inl (h.cleaned id hold)
    -- the deletion completed in this reconcile, so one of its status writes went through
    have hfinishes := finishes_of_completesDeletion hcompletes
    have hmem := hevent.subset (.head _)
    rcases (reconcile_reads r key).run_allowed hrun hevent with ⟨-, hcall⟩ | ⟨v, hread⟩
    · obtain ⟨c, answer⟩ := entry
      subst hcall
      cases hfinishes
    · have hread' := hread.mono ((suffix_cons _ _).trans hevent)
      have hv := status_of_readsCurrent hreads hread'
      have hany : out.log.any finishes = true := any_eq_true.mpr ⟨entry, hmem, hfinishes⟩
      rw [latches, readVersion_of_read hread', all_some, hv, hphase, hany] at hlatches
      exact .inr (any_eq_true.mp hlatches)
  once provider vmId id answer older hevent := by
    rcases event_of_append hevent with hold | ⟨before, rfl, hnew⟩
    · exact h.once provider vmId id answer older hold
    · obtain ⟨v, hread, -, hclean, hunpolled⟩ :=
        version_of_asksDeletion hrun hwithin hpersisted hnew
      rw [snapshotGone_append_of_unpolled hunpolled]
      by_contra hgone
      have hcleaned := h.cleaned id (by simpa using hgone)
      rw [← status_of_readsCurrent hreads hread, hclean] at hcleaned
      cases hcleaned

/-- A reconcile that cleans up, with every call answered, records it. -/
theorem cleanedUp_of_answered (hend : out.result.isSome = true) {v : VMMigration}
    (hread : Read key out.log v)
    (hawaits : awaitsCleanup v = true) (hhas : hasCleanup v = true)
    (hanswered : ∀ entry ∈ out.log, answered entry = true) :
    out.state.migration.current.status.cleanedUp = true := by
  obtain ⟨result, hresult⟩ := isSome_iff_exists.mp hend
  obtain ⟨entry, hentry, hwritten⟩ :=
    (reconcile_answered r key).run_result hrun hresult v hread hawaits hhas hanswered
  rcases statusAfter_of_run hrun with ⟨hnone, -⟩ | ⟨log', w, hsuffix, hread', hwrites⟩
  · rw [hnone entry hentry] at hwritten
    cases hwritten
  · obtain rfl := (hread'.mono hsuffix).unique hread
    have hphase : w.status.phase = .ready := by
      simp only [awaitsCleanup, Bool.and_eq_true, decide_eq_true_eq] at hawaits
      exact hawaits.1.2
    exact (hwrites.of_ready hphase).2.1

end Episode

variable {trace : List LogEntry}

theorem latched_of_reach {r : Reconciler} {key : ObjectKey} {cluster : Cluster}
    (hrun : ((system r key).startingFrom (startsWithin live)).Reach
      (fun cluster trace choices episode => cleanupKept cluster trace choices episode = true)
      cluster trace) :
    Latched cluster trace := by
  have hparts : ∀ s trace choices episode, cleanupKept s trace choices episode = true →
      (editsWithin live choices = true ∧ readsCurrent s episode = true) ∧
        latches episode = true := by
    simp only [cleanupKept, Bool.and_eq_true]
    exact fun _ _ _ _ hkept => hkept
  refine (bounded_induct hrun (fun s trace choices episode hkept =>
    (hparts s trace choices episode hkept).1.1) (fun s ⟨hfresh, hstart⟩ =>
    ⟨versions_of_fresh hfresh hstart, latched_nil s⟩)
    (fun s trace h => ⟨h.ready, h.cleaned, h.once⟩) ?_).2
  intro s trace choices out _ hwithin hlatched hepisode hkept
  obtain ⟨⟨-, hreads⟩, hlatches⟩ := hparts s trace choices out.log hkept
  exact hlatched.episode hepisode hwithin.bounded hwithin.read hreads hlatches

/-- A migration that is not deleted: in every run in which the end of a snapshot's deletion
is followed by a status write that goes through, and reconciles read the last status, no
deleted snapshot is deleted again; and from any state of the run, a reconcile in which every
call is answered, the source still among them, completes the clean-up. -/
theorem cleanup_completes_once (r : Reconciler) (key : ObjectKey) {cluster : Cluster}
    {trace : List LogEntry}
    (hrun : ((system r key).startingFrom (startsWithin live)).Reach
      (fun cluster trace choices episode => cleanupKept cluster trace choices episode = true)
      cluster trace) :
    (∀ provider vmId id answer older,
      (⟨.snapshotDelete provider vmId id, answer⟩ :: older) <:+ trace →
        snapshotGone id older = false) ∧
    ∀ choices out, (r.reconcile key).run (system r key).host cluster [] choices = some out →
      out.result.isSome = true → ∀ v, Read key out.log v → awaitsCleanup v = true →
      hasCleanup v = true → (∀ entry ∈ out.log, answered entry = true) →
      out.state.migration.current.status.cleanedUp = true :=
  ⟨(latched_of_reach hrun).once, fun _ _ hepisode hend _ hread hawaits hhas hanswered =>
    cleanedUp_of_answered hepisode hend hread hawaits hhas hanswered⟩

/-- No lookup finds the source of the migration. -/
def withoutSource (cluster : Cluster) (episode : List LogEntry) : Bool :=
  episode.all fun
    | ⟨.getVirtualMachine name, .ok _⟩ => decide (name ≠ sourceKey cluster.migration.current)
    | _ => true

/-- A migration that is to delete a source that is gone stays as it is. -/
theorem stays_without_source {r : Reconciler} {key : ObjectKey} {start : Cluster}
    (hawaits : awaitsCleanup start.migration.current = true)
    (hasked : start.migration.current.spec.source.deleteAfterMigration = true) {cluster : Cluster}
    (hrun : ({ system r key with init := (· = start) } :
      System Call Answer Cluster Choice Return).Reach
      (fun s trace choices episode => undisturbed s trace choices episode = true ∧
        withoutSource start episode = true) cluster trace) :
    cluster.migration.current = start.migration.current := by
  have hobeys : (r.reconcile key).Obeys _ _ [] :=
    ((reconcile_reads r key).and (reconcile_answered r key)).mono fun _ _ _ _ => trivial
  refine (undisturbed_induct (P := fun c => keepsMigration c = true) hobeys (fun _ h => h)
    (fun _ _ _ _ h => h.1) ?_ hrun).1
  rintro - - - episode ⟨-, haway⟩ log c hsuffix hcurrent ⟨hreads, hcall⟩
  rcases hreads with ⟨-, rfl⟩ | ⟨v, hread⟩
  · rfl
  · obtain rfl := hcurrent v hread
    rcases hcall _ hread hawaits with hkeeps | hfound
    · exact hkeeps
    · obtain ⟨sourceVM, hmem⟩ := hfound hasked
      have hother := all_eq_true.mp haway _ (hsuffix.subset hmem)
      simp at hother

namespace Sample

/-- Delete the source, and lose the status write that records it. -/
def finishUnrecorded : List Choice := finish.dropLast ++ [outage]

/-- The source was deleted. -/
def deletesSource : LogEntry → Bool
  | ⟨.deleteVirtualMachine vm, none⟩ => decide (vm.objectMeta.key = sourceKey migration)
  | _ => false

def targetCluster (migration : VMMigration) : Cluster :=
  { cluster [runningTarget "vm-2"] with migration := ⟨migration, []⟩ }

/-- From creation to Ready, with a snapshot that is taken at once. -/
def untilReadyWithSnapshot : List (List Choice) :=
  untilExporting ++ [takeSnapshot { snapshotId := "snap-1" } [done], exportOnce,
    issueImport [imported { diskId := "disk-1", path := "[ds] web-new/web-new.vmdk" }, done]] ++
  findTarget

/-- Clean up the staged file and the snapshot, and end with the given answers. -/
def deleteSnapshot (ending : List Choice) : List Choice :=
  finish.take 3 ++ [cached 0, provider kvm, connected,
    { reply := .reports fun | .snapshotDelete _ _ _ => some (.ok "") | _ => none }] ++ ending

/-- A deletion of the snapshot was asked for after it had completed. -/
def deletesAgain (id : String) : List LogEntry → Bool
  | [] => false
  | entry :: older =>
    (match entry with
      | ⟨.snapshotDelete _ _ snapshotId, _⟩ => decide (snapshotId = id) && snapshotGone id older
      | _ => false) || deletesAgain id older

theorem exists_of_deletesAgain {id : String} (h : deletesAgain id trace = true) :
    ∃ provider vmId answer older,
    (⟨.snapshotDelete provider vmId id, answer⟩ :: older) <:+ trace ∧
      snapshotGone id older = true := by
  induction trace with
  | nil => cases h
  | cons entry older ih =>
    rcases Bool.or_eq_true_iff.mp h with hhere | hbefore
    · split at hhere
      · rename_i provider vmId snapshotId answer
        obtain ⟨hid, hgone⟩ := Bool.and_eq_true_iff.mp hhere
        obtain rfl := of_decide_eq_true hid
        exact ⟨provider, vmId, answer, older, suffix_refl _, hgone⟩
      · cases hhere
    · obtain ⟨provider, vmId, answer, rest, hsuffix, hgone⟩ := ih hbefore
      exact ⟨provider, vmId, answer, rest, hsuffix.trans (suffix_cons _ _), hgone⟩

end Sample

open Sample

/-- The source is deleted and the status write after it fails: while the source stays away,
no reconcile completes the clean-up. And the deletion of a snapshot completes and the status
write after it fails: the snapshot is deleted again. -/
theorem cleanup_never_ends_or_repeats :
    (∃ cluster trace, (system reconciler key).Reach (fun _ _ _ _ => True)
        cluster trace ∧
      (∃ entry ∈ trace, deletesSource entry = true) ∧
      cluster.vms.live (sourceKey migration) = none ∧
      hasCleanup cluster.migration.current = true ∧
      ∀ cluster' trace', ({ system reconciler key with init := (· = cluster) } :
          System Call Answer Cluster Choice Return).Reach
          (fun s trace choices episode => undisturbed s trace choices episode = true ∧
            withoutSource cluster episode = true) cluster' trace' →
        cluster'.migration.current.status.phase = .ready ∧
          cluster'.migration.current.status.cleanedUp = false) ∧
    ∃ cluster trace provider vmId id answer older,
      (system reconciler key).Reach (fun _ _ _ _ => True) cluster trace ∧
      (⟨.snapshotDelete provider vmId id, answer⟩ :: older) <:+ trace ∧
        snapshotGone id older = true := by
  constructor
  · refine (system reconciler key).exists_reach
      (P := fun cluster trace => (∃ entry ∈ trace, deletesSource entry = true) ∧
        cluster.vms.live (sourceKey migration) = none ∧
        hasCleanup cluster.migration.current = true ∧
        awaitsCleanup cluster.migration.current = true ∧
        cluster.migration.current.spec.source.deleteAfterMigration = true)
      (untilCreating ++ findTarget ++ [finishUnrecorded])
      (fresh_cluster [runningTarget "vm-2"]) (fun cluster trace _ hshows => ?_)
      (by decide +kernel)
    obtain ⟨hdeleted, hgone, hhas, hawaits, hasked⟩ := hshows
    refine ⟨hdeleted, hgone, hhas, fun cluster' trace' hrun => ?_⟩
    rw [stays_without_source hawaits hasked hrun]
    simp only [awaitsCleanup, Bool.and_eq_true, decide_eq_true_eq, Bool.not_eq_eq_eq_not,
      Bool.not_true] at hawaits
    exact ⟨hawaits.1.2, hawaits.2⟩
  · have hfresh : (targetCluster withSnapshot).Fresh key :=
      ⟨rfl, rfl, rfl, rfl, rfl⟩
    obtain ⟨cluster, trace, hreach, hshows⟩ := (system reconciler
      key).exists_reach_of_replay
      (P := fun _ trace => deletesAgain "snap-1" trace = true) (fun _ _ _ _ => true)
      (untilReadyWithSnapshot ++
        [deleteSnapshot [outage], deleteSnapshot [done]])
      (fun _ _ _ _ _ => trivial) hfresh (by decide +kernel)
    obtain ⟨provider, vmId, answer, older, hsuffix, hgone⟩ :=
      exists_of_deletesAgain hshows
    exact ⟨cluster, trace, provider, vmId, "snap-1", answer, older, hreach, hsuffix, hgone⟩

/-- A completed migration deletes its snapshot and records it. -/
theorem cleanup_completes_once_sample : ∃ cluster trace out,
    ((system reconciler key).startingFrom (startsWithin live)).Reach
      (fun cluster trace choices episode => cleanupKept cluster trace choices episode = true)
      cluster trace ∧
    (reconciler.reconcile key).run (system reconciler key).host cluster
      [] (deleteSnapshot [done]) = some out ∧
    snapshotGone "snap-1" out.log = true ∧
    out.state.migration.current.status.cleanedUp = true := by
  have hfresh : (targetCluster withSnapshot).Fresh key :=
    ⟨rfl, rfl, rfl, rfl, rfl⟩
  obtain ⟨cluster, trace, hreach, out, hrun, hend, hanswered, hgone, hfirst, v, hversion, hawaits,
      hhas⟩ := ((system reconciler
    key).startingFrom (startsWithin live)).exists_reach_of_replay
    (P := fun cluster _ => ∃ out ∈ (reconciler.reconcile key).run
      (system reconciler key).host cluster [] (deleteSnapshot [done]),
      out.result.isSome = true ∧ (∀ entry ∈ out.log, answered entry = true) ∧
      snapshotGone "snap-1" out.log = true ∧
      out.log.getLast?.map (·.1) = some (.getMigration key) ∧
      ∃ v ∈ readVersion out.log, awaitsCleanup v = true ∧ hasCleanup v = true)
    cleanupKept untilReadyWithSnapshot (fun _ _ _ _ h => h) ⟨hfresh, rfl⟩ (by decide +kernel)
  exact ⟨cluster, trace, out, hreach, hrun, hgone,
    (cleanup_completes_once reconciler key hreach).2 _ out hrun hend v
      (read_of_first hfirst hversion) hawaits hhas hanswered⟩

end Virtrigaud.Migration
