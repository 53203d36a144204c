import Virtrigaud.Migration.Runs

/-!
# Export before import, import before creation

A migration should enter Importing only after an ExportDisk succeeded and its task, if
it has one, was observed complete; and Creating only after an ImportDisk did. The
controller recognises an operation it issued before by the recorded id, by a
condition or by `longOpInFlight`, and then takes an empty TaskRef for a finished
operation. The result holds in every run where the TaskRef a reconcile finds is the
one of the operation it waits for; a status write that is lost breaks it.
-/

namespace Virtrigaud.Migration

open Effects List

/-- Provider and task of an operation that succeeded. -/
def succeeded : MigrationLongOp → LogEntry → Option (ObjectKey × String)
  | .exportDisk, ⟨.exportDisk provider _, .ok resp⟩ => some (provider, resp.taskRef)
  | .importDisk, ⟨.importDisk provider _, .ok resp⟩ => some (provider, resp.taskRef)
  | _, _ => none

/-- The operation succeeded, and its task was observed to the end afterwards. -/
def Finished (op : MigrationLongOp) (trace : List LogEntry) : Prop :=
  ∃ newer entry older provider task, trace = newer ++ entry :: older ∧
    succeeded op entry = some (provider, task) ∧ (task = "" ∨ TaskObserved provider task newer)

/-- The phase that issues the operation. -/
def issuingPhase : MigrationLongOp → MigrationPhase
  | .exportDisk => .exporting
  | .importDisk => .importing

/-- The phase that may begin when the operation is finished. -/
def followingPhase : MigrationLongOp → MigrationPhase
  | .exportDisk => .importing
  | .importDisk => .creating

/-- The status says that the operation was issued. -/
def recorded : MigrationLongOp → VMMigrationStatus → Bool
  | .exportDisk => exportRecorded
  | .importDisk => importRecorded

/-- `longOpInFlight` said that the operation was issued. -/
def marked (op : MigrationLongOp) (v : VMMigration) (log : List LogEntry) : Bool :=
  log.any fun
    | ⟨.longOpLoad marker, present⟩ => present && decide (marker = longOpKey v op)
    | _ => false

/-- The providers a reconcile resolved. -/
def resolvedProviders (log : List LogEntry) : List ObjectKey :=
  log.filterMap fun
    | ⟨.getProvider _, .ok provider⟩ => some provider.objectMeta.key
    | _ => none

/-- The TaskRef of the version is the one that a successful operation returned, and
the reconcile resolves the provider that returned it. -/
def waitsForOwnTask (op : MigrationLongOp) (v : VMMigration) (log trace : List LogEntry) : Bool :=
  trace.any fun entry => (succeeded op entry).any fun (provider, task) =>
    task = v.status.taskRef ∧ (task = "" ∨ (resolvedProviders log).all (· = provider))

/-- A reconcile that finds the operation issued before finds its TaskRef as well,
unless the migration has been in the following phase already. -/
def findsIssuedTask (cluster : Cluster) (trace : List LogEntry) (_ : List Choice)
    (log : List LogEntry) : Bool :=
  match log.getLast? with
  | some ⟨.getMigration _, .ok v⟩ => [MigrationLongOp.exportDisk, .importDisk].all fun op =>
      v.status.phase ≠ issuingPhase op || !(recorded op v.status || marked op v log) ||
        cluster.migration.all.any (·.status.phase = followingPhase op) ||
        waitsForOwnTask op v log trace
  | _ => true

section Finished

variable {op : MigrationLongOp} {trace log : List LogEntry} {v : VMMigration}

theorem Finished.append (h : Finished op trace) (log : List LogEntry) :
    Finished op (log ++ trace) := by
  obtain ⟨newer, entry, older, provider, task, rfl, hentry, htask⟩ := h
  refine ⟨log ++ newer, entry, older, provider, task, by simp, hentry, ?_⟩
  exact htask.imp_right fun hobserved => hobserved.mono (subset_append_right log newer)

variable {provider : ObjectKey}

/-- The task of an earlier operation is settled by what this reconcile observed. -/
theorem finished_of_observed {entry : LogEntry} {task : String}
    (hmem : entry ∈ trace) (hentry : succeeded op entry = some (provider, task))
    (htask : task = "" ∨ TaskObserved provider task log) : Finished op (log ++ trace) := by
  obtain ⟨newer, older, rfl⟩ := append_of_mem hmem
  refine ⟨log ++ newer, entry, older, provider, task, by simp, hentry, ?_⟩
  exact htask.imp_right fun hobserved => hobserved.mono (subset_append_left log newer)

/-- A synchronous operation is finished with its answer. -/
theorem finished_of_mem {entry : LogEntry} (hmem : entry ∈ trace)
    (hentry : succeeded op entry = some (provider, "")) : Finished op trace := by
  rw [← nil_append trace]
  exact finished_of_observed hmem hentry (.inl rfl)

/-- The call is neither a synchronous export nor a poll of a task. -/
def unobserved : LogEntry → Bool
  | ⟨.exportDisk _ _, .ok resp⟩ => resp.taskRef ≠ ""
  | ⟨.isTaskComplete _ _, _⟩ => false
  | _ => true

/-- Without a poll only a synchronous export is finished. -/
theorem not_finished_of_unobserved (h : trace.all unobserved = true) :
    ¬ Finished .exportDisk trace := by
  rintro ⟨newer, entry, older, provider, task, rfl, hentry, htask⟩
  have hall := all_eq_true.mp h
  rcases htask with rfl | ⟨hpoll, -⟩
  · have hunobserved := hall entry (by simp)
    unfold succeeded at hentry
    split at hentry
    · obtain ⟨-, htask⟩ := Prod.mk.inj (Option.some.inj hentry)
      simp [unobserved, htask] at hunobserved
    · contradiction
    · cases hentry
  · have hunobserved := hall _ (mem_append_left _ hpoll)
    cases hunobserved

/-- The earlier operation whose task the version names. -/
theorem exists_of_waitsForOwnTask (h : waitsForOwnTask op v log trace = true) :
    ∃ entry ∈ trace, ∃ provider, succeeded op entry = some (provider, v.status.taskRef) ∧
      (v.status.taskRef = "" ∨ ∀ resolved ∈ resolvedProviders log, resolved = provider) := by
  obtain ⟨entry, hentry, hany⟩ := any_eq_true.mp h
  cases hsucceeded : succeeded op entry with
  | none => simp [hsucceeded] at hany
  | some issued =>
    obtain ⟨provider, task⟩ := issued
    simp only [hsucceeded, Option.any_some, decide_eq_true_eq, all_eq_true] at hany
    obtain ⟨rfl, hprovider⟩ := hany
    exact ⟨entry, hentry, provider, hsucceeded, hprovider⟩

theorem marked_of_mem (h : ⟨.longOpLoad (longOpKey v op), true⟩ ∈ log) :
    marked op v log = true :=
  any_eq_true.mpr ⟨_, h, by simp⟩

theorem SourceProvider.mem_resolvedProviders
    (h : SourceProvider v log provider) : provider ∈ resolvedProviders log := by
  obtain ⟨_, found, -, hfound, rfl⟩ := h
  exact mem_filterMap.mpr ⟨_, hfound, rfl⟩

theorem TargetProvider.mem_resolvedProviders
    (h : TargetProvider v log provider) : provider ∈ resolvedProviders log := by
  obtain ⟨found, hfound, rfl⟩ := h
  exact mem_filterMap.mpr ⟨_, hfound, rfl⟩

theorem mem_resolvedProviders_mono {log' : List LogEntry}
    (h : provider ∈ resolvedProviders log) (hlog : log <:+ log') :
    provider ∈ resolvedProviders log' := by
  obtain ⟨entry, hentry, hprovider⟩ := mem_filterMap.mp h
  exact mem_filterMap.mpr ⟨entry, hlog.subset hentry, hprovider⟩

end Finished

variable {trace : List LogEntry}

/-- A reconcile that finds the operation issued before, and its task settled, finds it
finished. -/
theorem finished_of_issued {key : ObjectKey} {cluster : Cluster} {log episode : List LogEntry}
    {choices : List Choice} {op : MigrationLongOp} {v : VMMigration} {provider : ObjectKey}
    (hcond : findsIssuedTask cluster trace choices episode = true)
    (hearlier : ∀ w ∈ cluster.migration.all, w.status.phase = followingPhase op →
      Finished op trace) (hlog : log <:+ episode) (hread : Read key log v)
    (hphase : v.status.phase = issuingPhase op)
    (hissued : recorded op v.status = true ∨ ⟨.longOpLoad (longOpKey v op), true⟩ ∈ log)
    (hprovider : provider ∈ resolvedProviders log) (htask : TaskSettled v log provider) :
    Finished op (log ++ trace) := by
  have hfound : (recorded op v.status || marked op v episode) = true := by
    rw [Bool.or_eq_true]
    exact hissued.imp_right fun hmarker => marked_of_mem (hlog.subset hmarker)
  have hop : op ∈ [MigrationLongOp.exportDisk, .importDisk] := by cases op <;> simp
  rw [findsIssuedTask, hread.mono hlog] at hcond
  have hcase := all_eq_true.mp hcond op hop
  simp only [hphase, hfound, ne_eq, not_true_eq_false, decide_false, Bool.not_true, Bool.false_or,
    Bool.or_eq_true, any_eq_true, decide_eq_true_eq] at hcase
  rcases hcase with ⟨w, hw, hfollowing⟩ | hwaits
  · exact (hearlier w hw hfollowing).append log
  · obtain ⟨entry, hentry, issuer, hsucceeded, hissuer⟩ := exists_of_waitsForOwnTask hwaits
    refine finished_of_observed hentry hsucceeded ?_
    rcases htask with hnone | hobserved
    · exact .inl hnone
    · rcases hissuer with hnone | hissuer
      · exact .inl hnone
      · obtain rfl := hissuer provider (mem_resolvedProviders_mono hprovider hlog)
        exact .inr hobserved

/-- What every persisted version shows about the operations before it. -/
structure Ordered (history : History VMMigration) (trace : List LogEntry) : Prop where
  following : ∀ op, ∀ v ∈ history.all, v.status.phase = followingPhase op → Finished op trace
  direct : ∀ v ∈ history.all, ¬ (v.status.phase = .transferring ∨ v.status.phase = .converting)

/-- Pushing a version whose phase is justified keeps the order. -/
theorem Ordered.push {history : History VMMigration} {new : VMMigration} (h : Ordered history trace)
    (hfollowing : ∀ op, new.status.phase = followingPhase op → Finished op trace)
    (hdirect : ¬ (new.status.phase = .transferring ∨ new.status.phase = .converting)) :
    Ordered (history.push new) trace :=
  ⟨fun op => forall_mem_cons.mpr ⟨hfollowing op, h.following op⟩,
    forall_mem_cons.mpr ⟨hdirect, h.direct⟩⟩

/-- A status the controller persists is justified when its episode meets the condition. -/
theorem following_of_writes {key : ObjectKey} {cluster : Cluster} {log episode : List LogEntry}
    {choices : List Choice} {v w new : VMMigration}
    (hcond : findsIssuedTask cluster trace choices episode = true)
    (hbefore : Ordered cluster.migration trace) (hlog : log <:+ episode) (hread : Read key log v)
    (hw : w ∈ cluster.migration.all) (hstatus : w.status = v.status)
    (hwrites : Writes v log new.status) (op : MigrationLongOp)
    (hphase : new.status.phase = followingPhase op) : Finished op (log ++ trace) := by
  cases op with
  | exportDisk =>
    rcases hwrites.phase_importing hphase with hsame | htransferring | hconverting |
      ⟨provider, req, resp, hresp, htask⟩ | ⟨hexporting, hissued, provider, hprovider, hsettled⟩
    · exact (hbefore.following .exportDisk w hw (hstatus ▸ hsame)).append log
    · exact absurd (.inl (hstatus ▸ htransferring)) (hbefore.direct w hw)
    · exact absurd (.inr (hstatus ▸ hconverting)) (hbefore.direct w hw)
    · exact finished_of_mem (mem_append_left trace hresp) (by rw [succeeded, htask])
    · exact finished_of_issued hcond (hbefore.following .exportDisk) hlog hread hexporting hissued
        hprovider.mem_resolvedProviders hsettled
  | importDisk =>
    rcases hwrites.phase_creating hphase with hsame | ⟨provider, req, resp, hresp, htask⟩ |
      ⟨himporting, hissued, provider, hprovider, hsettled⟩
    · exact (hbefore.following .importDisk w hw (hstatus ▸ hsame)).append log
    · exact finished_of_mem (mem_append_left trace hresp) (by rw [succeeded, htask])
    · exact finished_of_issued hcond (hbefore.following .importDisk) hlog hread himporting hissued
        hprovider.mem_resolvedProviders hsettled

/-- In every run whose reconciles find the task of an operation they find issued, a
version in Importing was persisted only after a finished export, and one in Creating
only after a finished import. -/
theorem following_phase_after_finished (r : Reconciler) (key : ObjectKey) {cluster : Cluster}
    {trace : List LogEntry}
    (hrun : (system r key).Reach
      (fun cluster trace choices log => findsIssuedTask cluster trace choices log = true)
      cluster trace) :
    (∀ v ∈ cluster.migration.all, v.status.phase = .importing → Finished .exportDisk trace) ∧
      ∀ v ∈ cluster.migration.all, v.status.phase = .creating → Finished .importDisk trace := by
  have hordered : Ordered cluster.migration trace := by
    refine reach_induct ?_ ?_ ?_ ?_ hrun
    · intro v hstatus
      refine ⟨fun op w hw hphase => ?_, fun w hw hphase => ?_⟩
      all_goals
        obtain rfl := mem_singleton.mp hw
        rw [hstatus] at hphase
      · cases op <;> cases hphase
      · rcases hphase with h | h <;> cases h
    · intro history trace entry h
      exact ⟨fun op v hv hphase => (h.following op v hv hphase).append [entry], h.direct⟩
    · intro history trace new h hsame
      have hcurrent := History.current_mem_all history
      refine h.push (fun op hphase => ?_) ?_
      · exact h.following op _ hcurrent (hsame ▸ hphase)
      · rw [hsame]
        exact h.direct _ hcurrent
    · rintro before trace choices episode hcond history log new v hlog hbefore hhistory hread
        ⟨w, hw, hstatus⟩ hwrites
      refine hhistory.push ?_ fun hphase => hbefore.direct w hw ?_
      · exact following_of_writes hcond hbefore hlog hread hw hstatus hwrites
      · rw [hstatus]
        exact hwrites.phase_transferring_or_converting hphase
  exact ⟨hordered.following .exportDisk, hordered.following .importDisk⟩

open Sample

/-- The status write after an asynchronous ExportDisk fails. The next reconcile finds the
marker and an empty TaskRef, and moves on to Importing while the export runs. -/
theorem importing_before_finished_export : ∃ cluster trace,
    (system reconciler key).Reach (fun _ _ _ _ => True) cluster trace ∧
    (∃ v ∈ cluster.migration.all, v.status.phase = .importing) ∧ ¬ Finished .exportDisk trace := by
  let script := untilExporting ++ [
    issueExport
      [exported { exportId := "export-1", taskRef := "task-1" }, outage],
    [cached 0, cached 0, provider kvm, connected,
      done, done]]
  exact (system reconciler key).exists_reach
    (P := fun cluster trace => (∃ v ∈ cluster.migration.all, v.status.phase = .importing) ∧
      trace.all unobserved = true) script (fresh_cluster [])
    (fun _ _ _ hshows => hshows.imp_right not_finished_of_unobserved) (by decide +kernel)

/-- An asynchronous export that is polled to its end, and a synchronous import. -/
theorem following_phase_after_finished_sample : ∃ cluster trace,
    (system reconciler key).Reach
      (fun cluster trace choices log => findsIssuedTask cluster trace choices log = true)
      cluster trace ∧
    Finished .exportDisk trace ∧ Finished .importDisk trace := by
  let script := untilExporting ++ [
    issueExport
      [exported { exportId := "export-1", taskRef := "task-1" }, done],
    [cached 0, cached 0, provider kvm, connected,
      completed, taskResult {}, done],
    issueImport [imported { diskId := "disk-1" }, done]]
  refine (system reconciler key).exists_reach
    (P := fun cluster _ => (∃ v ∈ cluster.migration.all, v.status.phase = .importing) ∧
      ∃ w ∈ cluster.migration.all, w.status.phase = .creating) script (fresh_cluster [])
    (fun cluster trace hreach hshows => ?_) (by decide +kernel)
  obtain ⟨⟨v, hv, himporting⟩, w, hw, hcreating⟩ := hshows
  have hfinished := following_phase_after_finished reconciler key hreach
  exact ⟨hfinished.1 v hv himporting, hfinished.2 w hw hcreating⟩

end Virtrigaud.Migration
