import Virtrigaud.Migration.Grounds

/-!
# Every handler keeps to it

The other phases, clean-up, retries and deletion, up to `Reconcile` itself, whatever its calls
answer.
-/

namespace Virtrigaud.Migration

open Effects Program List Option

section Transfer

variable {key : ObjectKey} {log : List LogEntry} {v : VMMigration} {r : Reconciler}

/-- A snapshot is taken before anything is written, and once. -/
theorem handleSnapshottingPhase_conforms (h : Start key [⟨.getMigration key, .ok v⟩] v)
    (hphase : v.status.phase = .snapshotting) :
    (handleSnapshottingPhase v).Heeds (Conforms r key)
      [⟨.getMigration key, .ok v⟩] := by
  have hunderway : underway v.status.phase = true := by rw [hphase]; rfl
  repeat' first
    | exact h.fails hunderway
    | exact h.writes hunderway (.snapshotSelected _ hphase ‹_›)
    | exact h.writes hunderway (.snapshotReady hphase ‹_› ‹_›)
    | exact h.writes hunderway (.snapshotTaskStarted hphase (.head _) ‹_›)
    | exact h.writes hunderway (.snapshotCreated hphase (.head _) (not_not.mp ‹_›))
    | refine h.step ⟨trivial, trivial, trivial⟩ (fun _ => rfl) fun _ h => ?_
    | refine h.step ⟨⟨v, h.read, hphase, ‹_›, not_not.mp ‹_›, sourceProvider_resolved v _ _ _ _⟩,
        ⟨v, _, _, hphase, rfl⟩, trivial⟩ (fun _ => rfl) fun _ h => ?_
    | obtain rfl := map_eq_none_iff.mp ‹_›
    | split
    | dsimp only [Program.bind]

variable (h : Start key log v)
include h

theorem gateProviderCapability_conforms (hunderway : underway v.status.phase = true)
    (provider : ObjectKey) (supported : Capabilities → Bool) (message : String) :
    (r.gateProviderCapability v provider supported message).Obeys (Conforms r key)
      (fun refusal log' => refusal = none → Start key log' v) log := by
  unfold Reconciler.gateProviderCapability
  repeat' first
    | exact fun _ => h
    | exact (h.fails hunderway).bind fun _ _ _ _ => nofun
    | refine h.step ⟨trivial, trivial, trivial⟩ (fun _ => rfl) fun _ h => ?_
    | split

/-- Polling ends in Failed, waits, or completes with the task settled. -/
theorem pollTask_conforms (hunderway : underway v.status.phase = true) {provider : ObjectKey}
    {op failure : String} {complete : VMMigrationStatus}
    (hcomplete : ∀ log', log <:+ log' → TaskSettled v log' provider → Moves v log' complete) :
    (pollTask provider v op failure complete).Heeds (Conforms r key) log := by
  unfold pollTask
  split
  · exact h.writes hunderway (hcomplete log (suffix_refl log) (.inl ‹_›))
  repeat' first
    | trivial
    | exact h.fails hunderway
    | exact h.writes hunderway (hcomplete _ ⟨[_, _], rfl⟩
        (.inr ⟨by simp, _, .head _, not_not.mp ‹_›⟩))
    | refine h.step ⟨trivial, trivial, trivial⟩ (fun _ => rfl) fun _ h => ?_
    | split

theorem issueExport_conforms (hphase : v.status.phase = .exporting)
    (hrecorded : exportRecorded v.status = false) {provider : ObjectKey}
    (hprovider : SourceProvider v log provider) (sourceVM : VirtualMachine) :
    (r.issueExport v provider sourceVM).Heeds (Conforms r key) log := by
  have hunderway : underway v.status.phase = true := by rw [hphase]; rfl
  unfold Reconciler.issueExport
  split
  · exact h.fails hunderway
  split
  · exact h.fails hunderway
  refine (h.aside (loadS3Credentials_aside v)).bind ?_
  rintro (err | creds) log₁ hlog₁ h
  · exact h.fails hunderway
  refine (gateProviderCapability_conforms h hunderway _ _ _).bind ?_
  rintro (_ | result) log₂ hlog₂ hgate
  swap
  · trivial
  refine (hgate rfl).step ⟨⟨v, (hgate rfl).read, .inl rfl⟩, trivial, trivial⟩ (fun _ => rfl) ?_
  rintro (_ | _) h
  swap
  · trivial
  refine obeys_perform ⟨⟨v, h.read, hphase, hrecorded,
    hprovider.mono ((hlog₁.trans hlog₂).trans (suffix_cons _ _)), ⟨log₂, rfl⟩,
    sourceVM, _, _, creds, rfl⟩, trivial, trivial⟩ ?_
  rintro (err | resp)
  · refine (h.cons rfl).step ⟨⟨v, h.read.cons, .inl ⟨_, _, err, log₂, rfl, rfl⟩⟩, trivial, trivial⟩
      (fun _ => rfl) fun _ h => ?_
    exact h.fails hunderway
  dsimp only
  split
  · exact persistLanded_conforms h hunderway rfl (.exportTask hphase hrecorded ‹_›)
  · exact persistLanded_conforms h hunderway rfl (.exportDone hphase hrecorded (not_not.mp ‹_›))

theorem handleExportingPhase_conforms (hphase : v.status.phase = .exporting) :
    (r.handleExportingPhase v).Heeds (Conforms r key) log := by
  have hunderway : underway v.status.phase = true := by rw [hphase]; rfl
  refine h.step ⟨trivial, trivial, trivial⟩ (fun _ => rfl) ?_
  rintro (err | sourceVM) h
  · exact h.fails hunderway
  refine h.step ⟨trivial, trivial, trivial⟩ (fun _ => rfl) ?_
  rintro (err | sourceProvider) h
  · exact h.fails hunderway
  refine h.step ⟨trivial, trivial, trivial⟩ (fun _ => rfl) ?_
  rintro (_ | err) h
  swap
  · exact h.fails hunderway
  have hprovider := sourceProvider_resolved v log sourceVM sourceProvider
    ⟨.getProviderInstance sourceProvider.objectMeta.key, none⟩
  dsimp only [map_none, exportAlreadyDone]
  split
  · exact pollTask_conforms h hunderway fun log' hlog htask =>
      .exportAdvanced hphase (.inl ‹_›) (hprovider.mono hlog) htask
  rename_i hrecorded
  refine h.step ⟨trivial, trivial, trivial⟩ (fun _ => rfl) ?_
  rintro (_ | _) h
  · exact issueExport_conforms h hphase (Bool.not_eq_true _ ▸ hrecorded)
      (hprovider.mono (suffix_cons _ _)) sourceVM
  · exact pollTask_conforms h hunderway fun log' hlog htask =>
      .exportAdvanced hphase (.inr (hlog.subset (.head _)))
        (hprovider.mono ((suffix_cons _ _).trans hlog)) htask

theorem issueImport_conforms (hphase : v.status.phase = .importing)
    (hrecorded : importRecorded v.status = false) {targetProvider : Provider}
    (hprovider : TargetProvider v log targetProvider.objectMeta.key) :
    (r.issueImport v targetProvider).Heeds (Conforms r key) log := by
  have hunderway : underway v.status.phase = true := by rw [hphase]; rfl
  unfold Reconciler.issueImport
  split
  · exact h.fails hunderway
  split
  · exact h.fails hunderway
  refine (h.aside (loadS3Credentials_aside v)).bind ?_
  rintro (err | creds) log₁ hlog₁ h
  · exact h.fails hunderway
  refine (h.aside (importFormat_aside v)).bind ?_
  rintro (err | format) log₂ hlog₂ h
  · exact h.fails hunderway
  refine (gateProviderCapability_conforms h hunderway _ _ _).bind ?_
  rintro (_ | result) log₃ hlog₃ hgate
  swap
  · trivial
  refine (hgate rfl).step ⟨⟨v, (hgate rfl).read, .inr rfl⟩, trivial, trivial⟩ (fun _ => rfl) ?_
  rintro (_ | _) h
  swap
  · trivial
  refine obeys_perform ⟨⟨v, h.read, hphase, hrecorded,
    hprovider.mono ((hlog₁.trans (hlog₂.trans hlog₃)).trans (suffix_cons _ _)), ⟨log₃, rfl⟩,
    _, _, format, creds, rfl⟩, trivial, trivial⟩ ?_
  rintro (err | resp)
  · refine (h.cons rfl).step ⟨⟨v, h.read.cons, .inr ⟨_, _, err, log₃, rfl, rfl⟩⟩, trivial, trivial⟩
      (fun _ => rfl) fun _ h => ?_
    exact h.fails hunderway
  dsimp only
  split
  · exact persistLanded_conforms h hunderway rfl (.importTask _ hphase hrecorded ‹_›)
  · exact persistLanded_conforms h hunderway rfl (.importDone _ hphase hrecorded (not_not.mp ‹_›))

theorem handleImportingPhase_conforms (hphase : v.status.phase = .importing) :
    (r.handleImportingPhase v).Heeds (Conforms r key) log := by
  have hunderway : underway v.status.phase = true := by rw [hphase]; rfl
  refine h.step ⟨trivial, trivial, trivial⟩ (fun _ => rfl) ?_
  rintro (err | targetProvider) h
  · exact h.fails hunderway
  have hprovider : TargetProvider v
      (⟨.getProvider (v.spec.target.providerRef.key v.objectMeta.ns), .ok targetProvider⟩ :: log)
      targetProvider.objectMeta.key := ⟨targetProvider, .head _, rfl⟩
  refine h.step ⟨trivial, trivial, trivial⟩ (fun _ => rfl) ?_
  rintro (_ | err) h
  swap
  · exact h.fails hunderway
  dsimp only [map_none, importAlreadyDone]
  split
  · exact pollTask_conforms h hunderway fun log' hlog htask => .importAdvanced hphase (.inl ‹_›)
      (hprovider.mono ((suffix_cons _ _).trans hlog)) htask
  rename_i hrecorded
  refine h.step ⟨trivial, trivial, trivial⟩ (fun _ => rfl) ?_
  rintro (_ | _) h
  · exact issueImport_conforms h hphase (Bool.not_eq_true _ ▸ hrecorded)
      (hprovider.mono ⟨[_, _], rfl⟩)
  · exact pollTask_conforms h hunderway fun log' hlog htask =>
      .importAdvanced hphase (.inr (hlog.subset (.head _)))
        (hprovider.mono (IsSuffix.trans ⟨[_, _], rfl⟩ hlog)) htask

end Transfer

section Target

variable {key : ObjectKey} {log : List LogEntry} {v : VMMigration} {r : Reconciler}

variable (h : Start key log v)
include h

theorem handleCreatingPhase_conforms (hphase : v.status.phase = .creating) :
    (handleCreatingPhase v).Heeds (Conforms r key) log := by
  have hunderway : underway v.status.phase = true := by rw [hphase]; rfl
  repeat' first
    | trivial
    | exact h.fails hunderway
    | exact h.writes hunderway (.targetCreated hphase ‹_› (.head _))
    | exact h.writes hunderway (.targetFound hphase (.head _) (And.left ‹_›) (And.right ‹_›))
    | refine h.step ⟨trivial, trivial, trivial⟩ (fun _ => rfl) fun _ h => ?_
    | refine h.step ⟨⟨v, h.read, hphase, ⟨_, ‹_›, rfl⟩, _, .head _, not_not.mp ‹_›⟩,
        trivial, trivial⟩ (fun _ => rfl) fun _ h => ?_
    | split

theorem handleValidatingTargetPhase_conforms (hphase : v.status.phase = .validatingTarget) :
    (handleValidatingTargetPhase v).Heeds (Conforms r key) log := by
  have hunderway : underway v.status.phase = true := by rw [hphase]; rfl
  repeat' first
    | exact h.fails hunderway
    | exact h.writes hunderway (.targetWaits _ hphase)
    | exact h.writes hunderway (.migrationComplete _ hphase (by simp) (not_not.mp ‹_›))
    | refine h.step ⟨trivial, trivial, trivial⟩ (fun _ => rfl) fun _ h => ?_
    | refine h.step ⟨⟨v, _, _, h.read, hphase, rfl, by simp⟩, trivial, trivial⟩ (fun _ => rfl)
        fun _ h => ?_
    | split

theorem handleReadyPhase_conforms (hlive : v.objectMeta.deletionTimestamp = none)
    (hphase : v.status.phase = .ready) (hunpolled : ∀ entry ∈ log, unpolled entry.1 = true) :
    (r.handleReadyPhase v).Heeds (Conforms r key) log := by
  unfold Reconciler.handleReadyPhase
  split
  · trivial
  rename_i hclean
  have hcleans : cleansUp v = true := by simp [cleansUp, hphase, hclean]
  refine (h.cleans hcleans hunpolled (cleanupArtifacts_cleans r)).bind ?_
  rintro (_ | ⟨migration, performed⟩) log₁ - ⟨⟨hdone, -⟩, h⟩
  · trivial
  obtain ⟨⟨snapshotID, hid, rfl⟩, hswept, -⟩ := hdone migration performed rfl
  have hdelete : (deleteSourceIfAsked { v with status := { v.status with snapshotID } }).Obeys
      (Conforms r key) (fun _ log' => Start key log' v) log₁ := by
    unfold deleteSourceIfAsked deleteSourceVM
    repeat' first
      | exact h
      | refine h.step ⟨trivial, trivial, trivial⟩ (fun _ => rfl) fun _ h => ?_
      | refine h.step ⟨⟨v, h.read, .inl ⟨hlive, hphase, ‹_›, .head _⟩⟩, trivial, trivial⟩
          (fun _ => rfl) fun _ h => ?_
      | split
  refine hdelete.bind ?_
  rintro (_ | err) log₂ hlog₂ h
  swap
  · trivial
  dsimp only
  split
  · refine persist_conforms h (.cleanupComplete snapshotID hphase (Bool.not_eq_true _ ▸ hclean) hid)
      ⟨fun hvalidating => ?_, fun hvalidating => ?_, fun _ => hswept.mono hlog₂.subset⟩ <;>
      rw [hphase] at hvalidating <;> cases hvalidating
  · trivial

/-- `Reconcile` runs the handler only while a retry is left. -/
theorem handleFailedPhase_conforms (hphase : v.status.phase = .failed)
    (hretry : permanentlyFailed v = false) :
    (handleFailedPhase v).Heeds (Conforms r key) log := by
  have huntied : untied v.status.phase = true := by rw [hphase]; rfl
  unfold handleFailedPhase
  split
  · rename_i hpolicy
    simp [permanentlyFailed, hphase, hpolicy] at hretry
  rename_i retryPolicy hpolicy
  have hcount : v.status.retryCount < maxRetries retryPolicy := by
    simpa [permanentlyFailed, hphase, hpolicy] using hretry
  split
  · omega
  refine h.step ⟨trivial, trivial, trivial⟩ (fun _ => rfl) fun now h => ?_
  dsimp only
  split
  · trivial
  · exact persist_conforms h (.retrying now hphase hpolicy hcount) (.of_untied huntied)

theorem handleDeletion_conforms (hdeleted : v.objectMeta.deletionTimestamp.isSome = true)
    (hunpolled : ∀ entry ∈ log, unpolled entry.1 = true) :
    (r.handleDeletion v).Heeds (Conforms r key) log := by
  have hcleans : cleansUp v = true := by simp [cleansUp, hdeleted]
  have hreads : (r.handleDeletion v).Heeds (fun log' _ => Read key log' v) log :=
    obeys_of_always fun log' hlog _ => h.read.mono hlog
  refine (((handleDeletion_cleans r hdeleted).and hreads).weaken ?_).mono fun _ _ _ _ => trivial
  rintro log' c ⟨hcall | hcall, hread⟩
  · exact conforms_of_cleans hread hcleans hunpolled hcall
  · cases c with
    | deleteVirtualMachine vm => exact ⟨⟨v, hread, .inr ⟨hdeleted, hcall⟩⟩, trivial, trivial⟩
    | updateMigration migration => exact ⟨⟨v, hread, hcall⟩, trivial, trivial⟩
    | _ => cases hcall

end Target

section

variable (r : Reconciler) (key : ObjectKey)
include r key

/-- `Reconcile` keeps to the rules, whatever its calls answer. -/
theorem reconcile_conforms : (r.reconcile key).Heeds (Conforms r key) [] := by
  refine obeys_perform ⟨trivial, trivial, trivial⟩ ?_
  rintro (err | v)
  · dsimp only
    split <;> trivial
  have h : Start key [⟨.getMigration key, .ok v⟩] v := ⟨rfl, by simp [Unlanded, landed]⟩
  have hunpolled : ∀ entry ∈ ([⟨.getMigration key, .ok v⟩] : List LogEntry),
      unpolled entry.1 = true := forall_mem_singleton.mpr rfl
  have hwrites {log status result} (h : Start key log v) (hmoves : Moves v log status)
      (huntied : untied v.status.phase = true) :
      (persist v status result).Heeds (Conforms r key) log :=
    persist_conforms h hmoves (.of_untied huntied)
  dsimp only
  split
  · exact handleDeletion_conforms h ‹_› hunpolled
  rename_i hlive
  split
  · exact obeys_perform ⟨⟨v, h.read, rfl, _, rfl⟩, trivial, trivial⟩ fun _ => trivial
  split
  · exact h.step ⟨trivial, trivial, trivial⟩ (fun _ => rfl) fun now h =>
      hwrites h (.started now ‹_›) (by simp [untied, *])
  split
  · trivial
  rename_i hretry
  unfold Reconciler.handlePhase
  split
  · trivial
  · exact hwrites h (.validationStarted ‹_›) (by simp [untied, *])
  · exact handleValidatingPhase_conforms { h with
      seen := .read (mem_singleton_self _), phase := ‹_›, claim := .inl rfl, base := .read }
  · exact handleSnapshottingPhase_conforms h ‹_›
  · exact handleExportingPhase_conforms h ‹_›
  · exact hwrites h (.transferComplete ‹_›) (by simp [untied, *])
  · exact hwrites h (.conversionComplete ‹_›) (by simp [untied, *])
  · exact handleImportingPhase_conforms h ‹_›
  · exact handleCreatingPhase_conforms h ‹_›
  · exact handleValidatingTargetPhase_conforms h ‹_›
  · exact handleReadyPhase_conforms h (by simpa using hlive) ‹_› hunpolled
  · exact handleFailedPhase_conforms h ‹_› (Bool.not_eq_true _ ▸ hretry)

/-- `Reconcile` keeps to the protocol. -/
theorem reconcile_obeys :
    (r.reconcile key).Heeds (Allowed key) [] :=
  (reconcile_conforms r key).weaken fun _ _ h => h.1

/-- The calls the protocol leaves open are made as they should be. -/
theorem reconcile_conducts :
    (r.reconcile key).Heeds (Conducts key) [] :=
  (reconcile_conforms r key).weaken fun _ _ h => h.2.1

/-- The staged disk is on record, and removed before that is. -/
theorem reconcile_stages :
    (r.reconcile key).Heeds (Stages r key) [] :=
  (reconcile_conforms r key).weaken fun _ _ h => h.2.2

end

end Virtrigaud.Migration
