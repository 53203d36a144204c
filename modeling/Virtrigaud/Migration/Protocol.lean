import Virtrigaud.Migration.Reconcile

/-!
# What one reconcile can do

`Writes` lists every status a reconcile may persist, by the version it read and the
answers it got; `Allowed` says when it makes each call that changes something.
`reconcile_obeys` proves, once and for every answer, that `Reconcile` keeps to
both. Everything about runs is derived from it, whatever the cluster does. `Conducts` covers
the calls that clean up, power the source off and handle the claim, and what a status write out
of the Validating phase rests on; `Stages` says where the staged disk is, and that it is removed
before the end of the clean-up is recorded. `Conforms` is all of it.
-/

namespace Virtrigaud.Migration

open Effects Program List

/-- `v` is the version the reconcile works from: its first call answered it. -/
def Read (key : ObjectKey) (log : List LogEntry) (v : VMMigration) : Prop :=
  log.getLast? = some ⟨.getMigration key, .ok v⟩

/-- The version that a reconcile works from, by its log. -/
def readVersion (log : List LogEntry) : Option VMMigration :=
  match log.getLast? with
  | some ⟨.getMigration _, .ok v⟩ => some v
  | _ => none

variable {log : List LogEntry} {v : VMMigration}

theorem readVersion_of_read {key : ObjectKey} (h : Read key log v) : readVersion log = some v := by
  unfold readVersion
  rw [h]

theorem read_of_readVersion (h : readVersion log = some v) : ∃ key, Read key log v := by
  unfold readVersion at h
  split at h <;> cases h
  exact ⟨_, ‹_›⟩

/-- The version and the key that the first call asked for. -/
theorem read_of_first {key : ObjectKey}
    (hfirst : log.getLast?.map (·.1) = some (.getMigration key)) (h : readVersion log = some v) :
    Read key log v := by
  obtain ⟨other, hread⟩ := read_of_readVersion h
  rw [Read] at hread
  rw [hread] at hfirst
  cases hfirst
  exact hread

/-- The status in memory during validation, which may have recorded its claim. -/
inductive Base (v : VMMigration) : VMMigrationStatus → Prop
  | read : Base v v.status
  | claimed (pvcName : String) : v.status.phase = .validating →
      v.status.storagePVCName = "" → Base v (storageRecorded v.status pvcName)

/-- The provider the source references of the version and of its source resolve to. -/
def SourceProvider (v : VMMigration) (log : List LogEntry) (provider : ObjectKey) : Prop :=
  ∃ sourceVM found,
    ⟨.getVirtualMachine (sourceKey v), .ok sourceVM⟩ ∈ log ∧
    ⟨.getProvider ((sourceProviderRef v sourceVM).key v.objectMeta.ns), .ok found⟩ ∈ log ∧
    found.objectMeta.key = provider

/-- The provider the target reference of the version resolves to. -/
def TargetProvider (v : VMMigration) (log : List LogEntry) (provider : ObjectKey) : Prop :=
  ∃ found,
    ⟨.getProvider (v.spec.target.providerRef.key v.objectMeta.ns), .ok found⟩ ∈ log ∧
    found.objectMeta.key = provider

/-- The task was seen complete and without error. -/
def TaskObserved (provider : ObjectKey) (task : String) (log : List LogEntry) : Prop :=
  ⟨.isTaskComplete provider task, .ok true⟩ ∈ log ∧
    ∃ taskStatus, ⟨.taskStatus provider task, .ok taskStatus⟩ ∈ log ∧ taskStatus.error = ""

/-- The task of the version, if it has one, was observed to the end. -/
def TaskSettled (v : VMMigration) (log : List LogEntry) (provider : ObjectKey) : Prop :=
  v.status.taskRef = "" ∨ TaskObserved provider v.status.taskRef log

/-- The phases whose handlers may end in Failed. -/
def activePhase : MigrationPhase → Bool
  | .validating | .snapshotting | .exporting | .importing | .creating | .validatingTarget => true
  | _ => false

/-- The statuses a reconcile that read `v` may persist while no ExportDisk or
ImportDisk of its own has succeeded. -/
inductive Moves (v : VMMigration) (log : List LogEntry) : VMMigrationStatus → Prop
  | started (now : Time) : v.status.phase = .unset → Moves v log (started v.status now)
  | validationStarted : v.status.phase = .pending → Moves v log (validationStarted v.status)
  | validationWaits (reason message : String) : v.status.phase = .validating →
      Moves v log (validationWaits v.status reason message)
  | storageRecorded (pvcName : String) : v.status.phase = .validating →
      v.status.storagePVCName = "" → Moves v log (storageRecorded v.status pvcName)
  | mountWaits {base} (reason : String) : v.status.phase = .validating → Base v base →
      Moves v log (mountWaits base reason)
  | poweringOff {base} : v.status.phase = .validating → Base v base →
      Moves v log (poweringOff base)
  | validated {base} (createSnapshot : Bool) : v.status.phase = .validating → Base v base →
      Moves v log (validated base createSnapshot)
  | snapshotSelected (ref : LocalObjectReference) : v.status.phase = .snapshotting →
      v.spec.source.snapshotRef = some ref → Moves v log (snapshotSelected v.status ref.name)
  | snapshotReady : v.status.phase = .snapshotting → v.spec.source.snapshotRef = none →
      v.status.snapshotID ≠ "" → Moves v log (snapshotReady v.status)
  | snapshotTaskStarted {provider req resp} : v.status.phase = .snapshotting →
      ⟨.snapshotCreate provider req, .ok resp⟩ ∈ log → resp.task ≠ "" →
      Moves v log (snapshotTaskStarted v.status resp)
  | snapshotCreated {provider req resp} : v.status.phase = .snapshotting →
      ⟨.snapshotCreate provider req, .ok resp⟩ ∈ log → resp.task = "" →
      Moves v log (snapshotCreated v.status resp)
  | exportAdvanced {provider} : v.status.phase = .exporting →
      (exportRecorded v.status = true ∨ ⟨.longOpLoad (longOpKey v .exportDisk), true⟩ ∈ log) →
      SourceProvider v log provider → TaskSettled v log provider →
      Moves v log (exportComplete v.status)
  | transferComplete : v.status.phase = .transferring → Moves v log (transferComplete v.status)
  | conversionComplete : v.status.phase = .converting →
      Moves v log (conversionComplete v.status)
  | importAdvanced {provider} : v.status.phase = .importing →
      (importRecorded v.status = true ∨ ⟨.longOpLoad (longOpKey v .importDisk), true⟩ ∈ log) →
      TargetProvider v log provider → TaskSettled v log provider →
      Moves v log (importComplete v.status)
  | targetFound {vm} : v.status.phase = .creating →
      ⟨.getVirtualMachine (targetKey v), .ok vm⟩ ∈ log → vm.status.id ≠ "" →
      vm.readyCondition = some .conditionTrue → Moves v log (targetFound v.status vm.status.id)
  | targetCreated {diskInfo} : v.status.phase = .creating → v.status.diskInfo = some diskInfo →
      ⟨.createVirtualMachine (targetVM v diskInfo), none⟩ ∈ log →
      Moves v log (targetCreated v.status (targetKey v).name)
  | targetWaits (readyStatus : String) : v.status.phase = .validatingTarget →
      Moves v log (targetWaits v.status readyStatus)
  | migrationComplete {vm} (now : Time) : v.status.phase = .validatingTarget →
      ⟨.getVirtualMachine (targetKey v), .ok vm⟩ ∈ log →
      vm.readyCondition = some .conditionTrue →
      Moves v log (migrationComplete v.status vm.status.id now)
  | cleanupComplete (snapshotID : String) : v.status.phase = .ready →
      v.status.cleanedUp = false → (snapshotID = v.status.snapshotID ∨ snapshotID = "") →
      Moves v log (cleanupComplete { v.status with snapshotID := snapshotID })
  | retrying {retryPolicy} (now : Time) : v.status.phase = .failed →
      v.spec.options.bind MigrationOptions.retryPolicy = some retryPolicy →
      v.status.retryCount < maxRetries retryPolicy →
      Moves v log (retrying v.status (maxRetries retryPolicy) now)
  | failed {base} (message : String) (now : Time) :
      activePhase v.status.phase = true → Base v base →
      Moves v log (failed base message now)

/-- A successful ExportDisk or ImportDisk. -/
def landed : LogEntry → Bool
  | ⟨.exportDisk _ _, .ok _⟩ => true
  | ⟨.importDisk _ _, .ok _⟩ => true
  | _ => false

/-- The statuses that record the response of a long operation. -/
inductive Lands (v : VMMigration) : LogEntry → VMMigrationStatus → Prop
  | exportTask {provider req resp} : v.status.phase = .exporting →
      exportRecorded v.status = false → resp.taskRef ≠ "" →
      Lands v ⟨.exportDisk provider req, .ok resp⟩
        (exportTaskStarted v.status resp (diskFormat v))
  | exportDone {provider req resp} : v.status.phase = .exporting →
      exportRecorded v.status = false → resp.taskRef = "" →
      Lands v ⟨.exportDisk provider req, .ok resp⟩
        (exportComplete (exportStarted v.status resp (diskFormat v)))
  | importTask {provider req resp} (target : Provider) : v.status.phase = .importing →
      importRecorded v.status = false → resp.taskRef ≠ "" →
      Lands v ⟨.importDisk provider req, .ok resp⟩
        (importTaskStarted v.status resp (landedTargetFormat target))
  | importDone {provider req resp} (target : Provider) : v.status.phase = .importing →
      importRecorded v.status = false → resp.taskRef = "" →
      Lands v ⟨.importDisk provider req, .ok resp⟩
        (importComplete (importStarted v.status resp (landedTargetFormat target)))

/-- No long operation of this reconcile has succeeded. -/
def Unlanded (log : List LogEntry) : Prop := ∀ entry ∈ log, landed entry = false

/-- Exactly this long operation of the reconcile has succeeded. -/
def OnlyLanded (entry : LogEntry) (log : List LogEntry) : Prop :=
  entry ∈ log ∧ ∀ other ∈ log, landed other = true → other = entry

/-- The statuses a reconcile that read `v` may persist once it has made the calls in
the log. -/
def Writes (v : VMMigration) (log : List LogEntry) (status : VMMigrationStatus) : Prop :=
  (Unlanded log ∧ Moves v log status) ∨
    ∃ entry, OnlyLanded entry log ∧ landed entry = true ∧ Lands v entry status

/-- When a reconcile of the object makes a call. Calls that only read, poll or
clean up are not restricted. -/
def Allowed (key : ObjectKey) (log : List LogEntry) : Call → Prop
  | .statusUpdate migration => ∃ v, Read key log v ∧ Writes v log migration.status
  | .updateMigration migration => ∃ v, Read key log v ∧ migration.spec = v.spec ∧
      ∃ finalizers, migration.objectMeta = { v.objectMeta with finalizers := finalizers }
  | .snapshotCreate provider _ => ∃ v, Read key log v ∧ v.status.phase = .snapshotting ∧
      v.spec.source.snapshotRef = none ∧ v.status.snapshotID = "" ∧ SourceProvider v log provider
  | .longOpLoadOrStore marker => ∃ v, Read key log v ∧
      (marker = longOpKey v .exportDisk ∨ marker = longOpKey v .importDisk)
  | .exportDisk provider req => ∃ v, Read key log v ∧ v.status.phase = .exporting ∧
      exportRecorded v.status = false ∧ SourceProvider v log provider ∧
      (∃ rest, log = ⟨.longOpLoadOrStore (longOpKey v .exportDisk), false⟩ :: rest) ∧
      ∃ sourceVM url options creds, req = exportRequest v sourceVM url options creds
  | .importDisk provider req => ∃ v, Read key log v ∧ v.status.phase = .importing ∧
      importRecorded v.status = false ∧ TargetProvider v log provider ∧
      (∃ rest, log = ⟨.longOpLoadOrStore (longOpKey v .importDisk), false⟩ :: rest) ∧
      ∃ url options format creds, req = importRequest v url options format creds
  | .longOpDelete marker => ∃ v, Read key log v ∧
      ((∃ provider req err rest, marker = longOpKey v .exportDisk ∧
        log = ⟨.exportDisk provider req, .error err⟩ ::
          ⟨.longOpLoadOrStore marker, false⟩ :: rest) ∨
      ∃ provider req err rest, marker = longOpKey v .importDisk ∧
        log = ⟨.importDisk provider req, .error err⟩ ::
          ⟨.longOpLoadOrStore marker, false⟩ :: rest)
  | .createVirtualMachine vm => ∃ v, Read key log v ∧ v.status.phase = .creating ∧
      (∃ diskInfo, v.status.diskInfo = some diskInfo ∧ vm = targetVM v diskInfo) ∧
      ∃ err, ⟨.getVirtualMachine (targetKey v), .error err⟩ ∈ log ∧ err.reason = .notFound
  | .updateVirtualMachine vm => ∃ v found now, Read key log v ∧
      v.status.phase = .validatingTarget ∧ vm = markCompleted found now ∧
      ⟨.getVirtualMachine (targetKey v), .ok found⟩ ∈ log
  | .patchPowerOff vm => ∃ v source, Read key log v ∧ v.status.phase = .validating ∧
      ⟨.getVirtualMachine source, .ok vm⟩ ∈ log
  | .deleteVirtualMachine vm => ∃ v, Read key log v ∧
      ((v.objectMeta.deletionTimestamp = none ∧ v.status.phase = .ready ∧
        v.spec.source.deleteAfterMigration = true ∧
        ⟨.getVirtualMachine (sourceKey v), .ok vm⟩ ∈ log) ∨
      (v.objectMeta.deletionTimestamp.isSome = true ∧
        ⟨.getVirtualMachine (targetKey v), .ok vm⟩ ∈ log ∧
        vm.objectMeta.annotations.lookup "virtrigaud.io/migration" = some (migrationRefText v)))
  | _ => True

section Growth

variable {key : ObjectKey} {v : VMMigration} {log log' : List LogEntry}

theorem Read.mono (h : Read key log v) (hlog : log <:+ log') : Read key log' v := by
  obtain ⟨newer, rfl⟩ := hlog
  unfold Read at *
  rw [getLast?_append, h, Option.some_or]

theorem Read.cons {entry : LogEntry} (h : Read key log v) : Read key (entry :: log) v :=
  h.mono (suffix_cons entry log)

theorem Read.unique {other : ObjectKey} {w : VMMigration} (hv : Read key log v)
    (hw : Read other log w) : v = w := by
  rw [Read, hw] at hv
  cases hv
  rfl

variable {provider : ObjectKey}

theorem SourceProvider.mono (h : SourceProvider v log provider)
    (hlog : log <:+ log') : SourceProvider v log' provider := by
  obtain ⟨sourceVM, found, hvm, hfound, hkey⟩ := h
  exact ⟨sourceVM, found, hlog.subset hvm, hlog.subset hfound, hkey⟩

theorem TargetProvider.mono (h : TargetProvider v log provider)
    (hlog : log <:+ log') : TargetProvider v log' provider := by
  obtain ⟨found, hfound, hkey⟩ := h
  exact ⟨found, hlog.subset hfound, hkey⟩

theorem TaskObserved.mono {task : String}
    (h : TaskObserved provider task log) (hlog : log ⊆ log') : TaskObserved provider task log' := by
  obtain ⟨hdone, taskStatus, hstatus, herror⟩ := h
  exact ⟨hlog hdone, taskStatus, hlog hstatus, herror⟩

theorem TaskSettled.mono (h : TaskSettled v log provider)
    (hlog : log <:+ log') : TaskSettled v log' provider :=
  h.imp_right fun hobserved => hobserved.mono hlog.subset

theorem Moves.mono {status : VMMigrationStatus} (h : Moves v log status)
    (hlog : log <:+ log') : Moves v log' status := by
  cases h with
  | snapshotTaskStarted hphase hresp htask =>
    exact .snapshotTaskStarted hphase (hlog.subset hresp) htask
  | snapshotCreated hphase hresp htask =>
    exact .snapshotCreated hphase (hlog.subset hresp) htask
  | exportAdvanced hphase hissued hprovider htask =>
    exact .exportAdvanced hphase (hissued.imp_right (hlog.subset ·)) (hprovider.mono hlog)
      (htask.mono hlog)
  | importAdvanced hphase hissued hprovider htask =>
    exact .importAdvanced hphase (hissued.imp_right (hlog.subset ·)) (hprovider.mono hlog)
      (htask.mono hlog)
  | targetFound hphase hvm hid hready => exact .targetFound hphase (hlog.subset hvm) hid hready
  | targetCreated hphase hinfo hcreated =>
    exact .targetCreated hphase hinfo (hlog.subset hcreated)
  | migrationComplete now hphase hvm hready =>
    exact .migrationComplete now hphase (hlog.subset hvm) hready
  -- the others do not look at the log
  | _ => constructor <;> assumption

/-- Calls that land no long operation keep a status writable. -/
theorem Writes.cons {status : VMMigrationStatus} {entry : LogEntry} (h : Writes v log status)
    (hentry : landed entry = false) : Writes v (entry :: log) status := by
  rcases h with ⟨hunlanded, hmoves⟩ | ⟨landing, ⟨hmem, honly⟩, hlanding, hlands⟩
  · exact .inl ⟨forall_mem_cons.mpr ⟨hentry, hunlanded⟩,
      hmoves.mono (suffix_cons _ _)⟩
  · refine .inr ⟨landing, ⟨.tail _ hmem, ?_⟩, hlanding, hlands⟩
    refine forall_mem_cons.mpr ⟨fun htrue => ?_, honly⟩
    rw [hentry] at htrue
    cases htrue

end Growth

section Phases

variable {v : VMMigration} {log : List LogEntry} {status : VMMigrationStatus}

theorem Base.phase {base : VMMigrationStatus} (h : Base v base) : base.phase = v.status.phase := by
  cases h <;> rfl

variable (h : Writes v log status)
include h

/-- How a persisted status comes to be in Importing. -/
theorem Writes.phase_importing (hphase : status.phase = .importing) :
    v.status.phase = .importing ∨ v.status.phase = .transferring ∨
      v.status.phase = .converting ∨
      (∃ provider req resp, ⟨.exportDisk provider req, .ok resp⟩ ∈ log ∧ resp.taskRef = "") ∨
      v.status.phase = .exporting ∧
        (exportRecorded v.status = true ∨ ⟨.longOpLoad (longOpKey v .exportDisk), true⟩ ∈ log) ∧
        ∃ provider, SourceProvider v log provider ∧ TaskSettled v log provider := by
  rcases h with ⟨-, hmoves⟩ | ⟨entry, ⟨hmem, -⟩, -, hlands⟩
  · cases hmoves with
    | exportAdvanced hexporting hissued hprovider htask =>
      exact .inr (.inr (.inr (.inr ⟨hexporting, hissued, _, hprovider, htask⟩)))
    | transferComplete htransferring => exact .inr (.inl htransferring)
    | conversionComplete hconverting => exact .inr (.inr (.inl hconverting))
    | mountWaits _ _ hbase | poweringOff _ hbase => exact .inl (hbase.phase.symm.trans hphase)
    | validated createSnapshot => cases createSnapshot <;> cases hphase
    -- The other writes keep the phase or move to another one.
    | _ => first | exact .inl hphase | cases hphase
  · cases hlands with
    | exportDone _ _ htask => exact .inr (.inr (.inr (.inl ⟨_, _, _, hmem, htask⟩)))
    | _ => first | exact .inl hphase | cases hphase

/-- How a persisted status comes to be in Creating. -/
theorem Writes.phase_creating (hphase : status.phase = .creating) :
    v.status.phase = .creating ∨
      (∃ provider req resp, ⟨.importDisk provider req, .ok resp⟩ ∈ log ∧ resp.taskRef = "") ∨
      v.status.phase = .importing ∧
        (importRecorded v.status = true ∨ ⟨.longOpLoad (longOpKey v .importDisk), true⟩ ∈ log) ∧
        ∃ provider, TargetProvider v log provider ∧ TaskSettled v log provider := by
  rcases h with ⟨-, hmoves⟩ | ⟨entry, ⟨hmem, -⟩, -, hlands⟩
  · cases hmoves with
    | importAdvanced himporting hissued hprovider htask =>
      exact .inr (.inr ⟨himporting, hissued, _, hprovider, htask⟩)
    | mountWaits _ _ hbase | poweringOff _ hbase => exact .inl (hbase.phase.symm.trans hphase)
    | validated createSnapshot => cases createSnapshot <;> cases hphase
    | _ => first | exact .inl hphase | cases hphase
  · cases hlands with
    | importDone _ _ _ htask => exact .inr (.inl ⟨_, _, _, hmem, htask⟩)
    | _ => first | exact .inl hphase | cases hphase

/-- How a persisted status comes to be past Creating. -/
theorem Writes.phase_target (hphase : status.phase = .validatingTarget ∨ status.phase = .ready) :
    (v.status.phase = .validatingTarget ∨ v.status.phase = .ready) ∨
      ∃ vm, ⟨.getVirtualMachine (targetKey v), .ok vm⟩ ∈ log := by
  rcases h with ⟨-, hmoves⟩ | ⟨entry, -, -, hlands⟩
  · cases hmoves with
    | targetFound _ hvm | migrationComplete _ _ hvm => exact .inr ⟨_, hvm⟩
    | mountWaits _ _ hbase | poweringOff _ hbase => exact .inl (by rwa [← hbase.phase])
    | validated createSnapshot => cases createSnapshot <;> rcases hphase with h | h <;> cases h
    | _ => first | exact .inl hphase | (rcases hphase with h | h <;> cases h)
  · cases hlands with
    | _ => first | exact .inl hphase | (rcases hphase with h | h <;> cases h)

/-- Transferring and Converting are left but never entered. -/
theorem Writes.phase_transferring_or_converting
    (hphase : status.phase = .transferring ∨ status.phase = .converting) :
    v.status.phase = .transferring ∨ v.status.phase = .converting := by
  rcases h with ⟨-, hmoves⟩ | ⟨entry, -, -, hlands⟩
  · cases hmoves with
    | mountWaits _ _ hbase | poweringOff _ hbase => rwa [← hbase.phase]
    | validated createSnapshot => cases createSnapshot <;> rcases hphase with h | h <;> cases h
    | _ => first | exact hphase | (rcases hphase with h | h <;> cases h)
  · cases hlands with
    | _ => first | exact hphase | (rcases hphase with h | h <;> cases h)

end Phases

/-- Metadata and spec the reconcile has seen, in a read or in the answer to a status
write. -/
inductive Seen (log : List LogEntry) : ObjectMeta → VMMigrationSpec → Prop
  | read {key v} : ⟨.getMigration key, .ok v⟩ ∈ log → Seen log v.objectMeta v.spec
  | written {migration objectMeta spec} :
      ⟨.statusUpdate migration, .ok (objectMeta, spec)⟩ ∈ log → Seen log objectMeta spec

/-- The desired power state of the source is Off, as it was read or patched. -/
def DesiredOff (log : List LogEntry) (source : ObjectKey) (sourceVM : VirtualMachine) : Prop :=
  ∃ found, ⟨.getVirtualMachine source, .ok found⟩ ∈ log ∧
    (sourceVM = found ∧ found.spec.powerState = .off ∨
      ⟨.patchPowerOff found, .ok sourceVM⟩ ∈ log)

/-- Its provider reported the source off once it was to be off. -/
def SourceOff (migration : VMMigration) (log : List LogEntry) : Prop :=
  ∃ sourceVM provider desc, DesiredOff log (sourceKey migration) sourceVM ∧
    ⟨.describe provider sourceVM.status.id, .ok desc⟩ ∈ log ∧ desc.powerState = .off

/-- The phase that follows validation, by the spec in memory, and with the source off if
that is asked for. -/
def Decided (log : List LogEntry) (phase : MigrationPhase) : Prop :=
  ∃ migration : VMMigration, Seen log migration.objectMeta migration.spec ∧
    phase = (if migration.spec.source.createSnapshot then .snapshotting else .exporting) ∧
    (migration.spec.source.powerOffBeforeMigration = true → SourceOff migration log)

/-- Where the name of a claim comes from: the spec names it, or it is the migration's own
and was found or created. -/
inductive Claims (v : VMMigration) (log : List LogEntry) : String → Prop
  | named {pvcConfig pvc} : v.spec.storage.bind MigrationStorage.pvc = some pvcConfig →
      pvcConfig.name ≠ "" → ⟨.getPVC ⟨v.objectMeta.ns, pvcConfig.name⟩, .ok pvc⟩ ∈ log →
      Claims v log pvcConfig.name
  | found {pvcConfig pvc} : v.spec.storage.bind MigrationStorage.pvc = some pvcConfig →
      pvcConfig.name = "" →
      ⟨.getPVC (migrationPVC v pvcConfig).objectMeta.key, .ok pvc⟩ ∈ log →
      Claims v log (migrationPVC v pvcConfig).objectMeta.name
  | created {pvcConfig} : v.spec.storage.bind MigrationStorage.pvc = some pvcConfig →
      pvcConfig.name = "" → ⟨.createPVC (migrationPVC v pvcConfig), none⟩ ∈ log →
      Claims v log (migrationPVC v pvcConfig).objectMeta.name

/-- What a status write in the Validating phase rests on. -/
structure Grounded (v : VMMigration) (log : List LogEntry) (status : VMMigrationStatus) :
    Prop where
  leaves : status.phase = .snapshotting ∨ status.phase = .exporting → Decided log status.phase
  claim : status.storagePVCName = v.status.storagePVCName ∨ Claims v log status.storagePVCName

/-- The version is one whose snapshot is cleaned up: Ready and not yet cleaned up, or
being deleted. -/
def cleansUp (v : VMMigration) : Bool :=
  v.objectMeta.deletionTimestamp.isSome || (decide (v.status.phase = .ready) && !v.status.cleanedUp)

/-- The calls but those that delete a snapshot or see to the end of a task. -/
def unpolled : Call → Bool
  | .snapshotDelete _ _ _ | .taskStatus _ _ => false
  | _ => true

/-- When a reconcile makes the calls that `Allowed` leaves open. -/
def Conducts (key : ObjectKey) (log : List LogEntry) : Call → Prop
  | .statusUpdate migration => ∀ v, Read key log v → v.status.phase = .validating →
      Grounded v log migration.status
  | .power _ _ op => op = .off
  | .snapshotCreate _ _ => ∃ v sourceVM sourceProvider, v.status.phase = .snapshotting ∧
      log = [⟨.getProviderInstance sourceProvider.objectMeta.key, none⟩,
        ⟨.getProvider ((sourceProviderRef v sourceVM).key v.objectMeta.ns), .ok sourceProvider⟩,
        ⟨.getVirtualMachine (sourceKey v), .ok sourceVM⟩, ⟨.getMigration key, .ok v⟩]
  | .createPVC pvc => ∃ v pvcConfig, Read key log v ∧ v.status.phase = .validating ∧
      v.spec.storage.bind MigrationStorage.pvc = some pvcConfig ∧ pvcConfig.name = "" ∧
      pvc = migrationPVC v pvcConfig
  | .deletePVC pvc => ∃ v, Read key log v ∧ v.objectMeta.deletionTimestamp.isSome = true ∧
      v.status.storagePVCName ≠ "" ∧
      ⟨.getPVC ⟨v.objectMeta.ns, v.status.storagePVCName⟩, .ok pvc⟩ ∈ log
  | .snapshotDelete provider vmId snapshotId => ∃ v sourceVM, Read key log v ∧
      cleansUp v = true ∧ cleanupAllowed v = true ∧ ownsSnapshot v = true ∧
      (∀ entry ∈ log, unpolled entry.1 = true) ∧
      snapshotId = v.status.snapshotID ∧ SourceProvider v log provider ∧
      ⟨.getVirtualMachine (sourceKey v), .ok sourceVM⟩ ∈ log ∧ vmId = sourceVM.status.id
  | _ => True

/-- The disk is staged on a claim, and may be cleaned up. -/
def stagesOnClaim (_ : Option Time) (spec : VMMigrationSpec) : Bool :=
  spec.storage.any (fun storage => decide (storage.type = backendPVC ∨ storage.type = "")) &&
    spec.options.all fun options => decide (options.cleanupPolicy ≠ .never)

/-- A status that leaves validation names the claim. -/
def Named (status : VMMigrationStatus) : Prop :=
  status.phase = .snapshotting ∨ status.phase = .exporting → status.storagePVCName ≠ ""

/-- The staged file was to be deleted, if it has a URL. -/
def Swept (r : Reconciler) (v : VMMigration) (log : List LogEntry) : Prop :=
  cleanupAllowed v = true → ∀ storage url, v.spec.storage = some storage →
    r.generateStorageURL v "export" = .ok url →
    ∃ answer, ⟨.storageDelete (cleanupStorageConfig v storage) url, answer⟩ ∈ log

/-- What the writes of a status rest on that leave validation or end the clean-up. -/
def Stages (r : Reconciler) (key : ObjectKey) (log : List LogEntry) : Call → Prop
  | .statusUpdate migration => ∀ v, Read key log v →
      (v.status.phase = .validating →
        stagesOnClaim v.objectMeta.deletionTimestamp v.spec = true → Named migration.status) ∧
      (v.status.phase = .ready → Swept r v log)
  | _ => True

/-- When a reconcile makes a call. -/
def Conforms (r : Reconciler) (key : ObjectKey) (log : List LogEntry) (c : Call) : Prop :=
  Allowed key log c ∧ Conducts key log c ∧ Stages r key log c

section Growth

variable {v migration : VMMigration} {log log' : List LogEntry}

section

variable (hlog : log ⊆ log')
include hlog

theorem Seen.mono {objectMeta : ObjectMeta} {spec : VMMigrationSpec}
    (h : Seen log objectMeta spec) : Seen log' objectMeta spec := by
  cases h with
  | read hread => exact .read (hlog hread)
  | written hwritten => exact .written (hlog hwritten)

theorem SourceOff.mono (h : SourceOff migration log) : SourceOff migration log' := by
  obtain ⟨sourceVM, provider, desc, ⟨found, hfound, hoff⟩, hdesc, hstate⟩ := h
  exact ⟨sourceVM, provider, desc, ⟨found, hlog hfound, hoff.imp_right (hlog ·)⟩, hlog hdesc,
    hstate⟩

theorem Claims.mono {name : String} (h : Claims v log name) : Claims v log' name := by
  cases h with
  | named hconfig hname hpvc => exact .named hconfig hname (hlog hpvc)
  | found hconfig hname hpvc => exact .found hconfig hname (hlog hpvc)
  | created hconfig hname hpvc => exact .created hconfig hname (hlog hpvc)

theorem Grounded.mono {status : VMMigrationStatus} (h : Grounded v log status) :
    Grounded v log' status where
  leaves hphase := by
    obtain ⟨migration, hseen, hdecided, hoff⟩ := h.leaves hphase
    exact ⟨migration, hseen.mono hlog, hdecided, fun hasked => (hoff hasked).mono hlog⟩
  claim := h.claim.imp_right (·.mono hlog)

theorem Swept.mono {r : Reconciler} (h : Swept r v log) : Swept r v log' := by
  intro hallowed storage url hstorage hurl
  obtain ⟨answer, hdelete⟩ := h hallowed storage url hstorage hurl
  exact ⟨answer, hlog hdelete⟩

end

end Growth

end Virtrigaud.Migration
