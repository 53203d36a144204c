import Virtrigaud.Migration.Runs

/-!
# Calls and the records they rest on

Every persisted status agrees with its phase, whatever the reads, conflicts and crashes of a run.
What the controller does to VMs and disks it does for a version that it has read before, and that
shows the work before it as done.
-/

namespace Virtrigaud.Migration

open Effects Program List

/-- The conditions, times and records of a status agree with its phase. -/
structure Consistent (status : VMMigrationStatus) : Prop where
  started : status.startTime = none ↔ status.phase = .unset
  ready : isConditionTrue status.conditions "Ready" ↔ status.phase = .ready
  failed : isConditionTrue status.conditions "Failed" ↔ status.phase = .failed
  ended : status.phase ∈ [.ready, .failed] → status.completionTime ≠ none
  exported : status.phase ∈ [.importing, .creating, .validatingTarget, .ready] →
    isConditionTrue status.conditions "Exporting"
  imported : status.phase ∈ [.creating, .validatingTarget, .ready] →
    isConditionTrue status.conditions "Importing"
  idle : status.taskRef = "" ∨ status.phase ∈ [.snapshotting, .exporting, .importing, .failed]
  cleaned : status.cleanedUp = false ∨ status.phase = .ready
  direct : status.phase ∉ [.transferring, .converting]

section Statuses

variable {status next : VMMigrationStatus}

/-- From one phase on the way to another, or within one. -/
theorem Consistent.onTheWay (h : Consistent status)
    (hphase : status.phase ∉ [.unset, .ready, .failed])
    (hnext : next.phase ∉ [.unset, .ready, .failed, .transferring, .converting])
    (hstart : next.startTime = status.startTime)
    (hready : isConditionTrue next.conditions "Ready" = isConditionTrue status.conditions "Ready")
    (hfailed : isConditionTrue next.conditions "Failed" =
      isConditionTrue status.conditions "Failed")
    (hexported : next.phase ∈ [.importing, .creating, .validatingTarget] →
      isConditionTrue next.conditions "Exporting")
    (himported : next.phase ∈ [.creating, .validatingTarget] →
      isConditionTrue next.conditions "Importing")
    (hidle : next.taskRef = "" ∨ next.phase ∈ [.snapshotting, .exporting, .importing])
    (hcleaned : next.cleanedUp = status.cleanedUp) : Consistent next := by
  simp only [mem_cons, not_or, not_mem_nil, not_false_eq_true, and_true] at hphase hnext
  obtain ⟨hunset, hnready, hnfailed⟩ := hphase
  obtain ⟨hunset', hnready', hnfailed', hdirect⟩ := hnext
  constructor
  · rw [hstart]
    exact iff_of_false (mt h.started.mp hunset) hunset'
  · rw [hready]
    exact iff_of_false (mt h.ready.mp hnready) hnready'
  · rw [hfailed]
    exact iff_of_false (mt h.failed.mp hnfailed) hnfailed'
  · exact fun hend => absurd hend (by simp [hnready', hnfailed'])
  · exact fun hin => hexported (by simpa [hnready'] using hin)
  · exact fun hin => himported (by simpa [hnready'] using hin)
  · exact hidle.imp_right fun hin => by simp only [mem_cons] at hin ⊢; tauto
  · exact .inl (hcleaned.trans (h.cleaned.resolve_right hnready))
  · simpa using hdirect

variable {v : VMMigration} {log : List LogEntry}

theorem Base.consistent (h : Base v status) (hv : Consistent v.status) :
    Consistent status ∧ status.phase = v.status.phase := by
  cases h with
  | read => exact ⟨hv, rfl⟩
  | claimed pvcName => exact ⟨{ hv with }, rfl⟩

theorem consistent_of_moves (h : Moves v log status) (hv : Consistent v.status) :
    Consistent status := by
  cases h with
  | started now hphase =>
    have hready := mt hv.ready.mp (by simp [hphase])
    have hfailed := mt hv.failed.mp (by simp [hphase])
    have hidle := hv.idle.resolve_right (by simp [hphase])
    have hcleaned := hv.cleaned.resolve_right (by simp [hphase])
    constructor <;> simp [started, hready, hfailed, hidle, hcleaned]
  | validationStarted hphase | validationWaits _ _ hphase | storageRecorded _ hphase
  | snapshotSelected _ hphase | snapshotReady hphase | snapshotTaskStarted hphase
  | snapshotCreated hphase | exportAdvanced hphase | importAdvanced hphase | targetFound hphase
  | targetCreated hphase | targetWaits _ hphase =>
    have hexported := hv.exported
    have himported := hv.imported
    have hidle := hv.idle
    rw [hphase] at hexported himported hidle
    apply hv.onTheWay <;> simp_all [validationStarted, validationWaits, storageRecorded,
      snapshotSelected, snapshotReady, snapshotTaskStarted, snapshotStarted, snapshotCreated,
      exportComplete, importComplete, targetFound, targetCreated, targetWaits,
      VMMigrationStatus.setCondition]
  | mountWaits reason hphase hbase | poweringOff hphase hbase
  | validated createSnapshot hphase hbase =>
    obtain ⟨hbase, hsame⟩ := hbase.consistent hv
    rw [hphase] at hsame
    have hidle := hbase.idle.resolve_right (by simp [hsame])
    apply hbase.onTheWay <;> simp [hsame, hidle, mountWaits, poweringOff, validated, apply_ite,
      VMMigrationStatus.setCondition]
  | transferComplete hphase | conversionComplete hphase =>
    exact absurd (by simp [hphase]) hv.direct
  | migrationComplete now hphase hfound hready =>
    have hfailed := mt hv.failed.mp (by simp [hphase])
    have hstart := mt hv.started.mp (by simp [hphase])
    have hidle := hv.idle.resolve_right (by simp [hphase])
    have hexported := hv.exported (by simp [hphase])
    have himported := hv.imported (by simp [hphase])
    constructor <;> simp [migrationComplete, VMMigrationStatus.setCondition, *]
  | cleanupComplete snapshotID hphase hcleaned hsnapshot =>
    exact { hv with cleaned := .inr hphase }
  | retrying now hphase hpolicy hcount =>
    have hready := mt hv.ready.mp (by simp [hphase])
    have hstart := mt hv.started.mp (by simp [hphase])
    have hcleaned := hv.cleaned.resolve_right (by simp [hphase])
    constructor <;> simp [retrying, VMMigrationStatus.setCondition, *]
  | failed message now hactive hbase =>
    obtain ⟨hbase, hsame⟩ := hbase.consistent hv
    have hphase : v.status.phase ≠ .unset ∧ v.status.phase ≠ .ready := by
      constructor <;> (intro hphase; rw [hphase] at hactive; cases hactive)
    rw [← hsame] at hphase
    have hstart := mt hbase.started.mp hphase.1
    have hcleaned := hbase.cleaned.resolve_right hphase.2
    constructor <;> simp [failed, VMMigrationStatus.setCondition, hstart, hcleaned]

theorem consistent_of_lands {entry : LogEntry} (h : Lands v entry status)
    (hv : Consistent v.status) : Consistent status := by
  cases h with
  | exportTask hphase | exportDone hphase | importTask _ hphase | importDone _ hphase =>
    have hexported := hv.exported
    rw [hphase] at hexported
    apply hv.onTheWay <;> simp_all [exportTaskStarted, exportStarted, exportComplete,
      importTaskStarted, importStarted, importComplete, VMMigrationStatus.setCondition]

theorem Writes.consistent (h : Writes v log status) (hv : Consistent v.status) :
    Consistent status := by
  rcases h with ⟨-, hmoves⟩ | ⟨entry, -, -, hlands⟩
  · exact consistent_of_moves hmoves hv
  · exact consistent_of_lands hlands hv

end Statuses

/-- The calls that change VMs or move a disk. -/
def advances : Call → Bool
  | .exportDisk _ _ | .importDisk _ _ | .createVirtualMachine _ | .deleteVirtualMachine _ => true
  | _ => false

/-- What the version that a call is made for, and the calls before it, say of the work before it:
an export or import is not recorded, the stage before an import or a creation is complete, the
target was looked for and not found, and a VM is deleted after the end or with the migration. -/
def Backed (older : List LogEntry) (v : VMMigration) : Call → Prop
  | .exportDisk _ _ => v.status.phase = .exporting ∧ exportRecorded v.status = false
  | .importDisk _ _ => v.status.phase = .importing ∧ importRecorded v.status = false ∧
      isConditionTrue v.status.conditions "Exporting"
  | .createVirtualMachine vm => v.status.phase = .creating ∧
      isConditionTrue v.status.conditions "Importing" ∧
      (∃ diskInfo, v.status.diskInfo = some diskInfo ∧ vm = targetVM v diskInfo) ∧
      ∃ err, ⟨.getVirtualMachine (targetKey v), .error err⟩ ∈ older ∧ err.reason = .notFound
  | .deleteVirtualMachine _ => v.objectMeta.deletionTimestamp.isSome ∨
      v.status.phase = .ready ∧ v.status.completionTime ≠ none ∧
        v.spec.source.deleteAfterMigration
  | _ => True

/-- What the versions and the calls of a run show while a reconcile is under way. -/
structure Attested (key : ObjectKey) (trace : List LogEntry) (history : History VMMigration)
    (log : List LogEntry) : Prop where
  consistent : ∀ v ∈ history.all, Consistent v.status
  backed : ∀ entry older, entry :: older <:+ log ++ trace → advances entry.1 = true →
    ∃ v ∈ history.all, ⟨.getMigration key, .ok v⟩ ∈ older ∧ Backed older v entry.1
  read : ReadPersisted key history log

section Runs

variable {key : ObjectKey} {cluster next : Cluster} {log trace : List LogEntry}

/-- The version that the reconcile has read backs its next call. -/
theorem Attested.backs {c : Call} (h : Attested key trace cluster.migration log)
    (hallowed : Allowed key log c) (hadvances : advances c = true) :
    ∃ v ∈ cluster.migration.all, ⟨.getMigration key, .ok v⟩ ∈ log ++ trace ∧
      Backed (log ++ trace) v c := by
  have hread : ∀ v, Read key log v → v ∈ cluster.migration.all ∧
      ⟨.getMigration key, .ok v⟩ ∈ log ++ trace ∧ Consistent v.status := fun v hv =>
    ⟨h.read v hv, mem_append_left _ (mem_of_mem_getLast? hv), h.consistent v (h.read v hv)⟩
  cases c with
  | exportDisk =>
    obtain ⟨v, hv, hphase, hrecorded, -⟩ := hallowed
    exact ⟨v, (hread v hv).1, (hread v hv).2.1, hphase, hrecorded⟩
  | importDisk =>
    obtain ⟨v, hv, hphase, hrecorded, -⟩ := hallowed
    obtain ⟨hmem, hseen, hconsistent⟩ := hread v hv
    exact ⟨v, hmem, hseen, hphase, hrecorded, hconsistent.exported (by simp [hphase])⟩
  | createVirtualMachine =>
    obtain ⟨v, hv, hphase, hdisk, err, hlooked, hreason⟩ := hallowed
    obtain ⟨hmem, hseen, hconsistent⟩ := hread v hv
    exact ⟨v, hmem, hseen, hphase, hconsistent.imported (by simp [hphase]), hdisk, err,
      mem_append_left _ hlooked, hreason⟩
  | deleteVirtualMachine =>
    obtain ⟨v, hv, hdelete⟩ := hallowed
    obtain ⟨hmem, hseen, hconsistent⟩ := hread v hv
    refine ⟨v, hmem, hseen, ?_⟩
    rcases hdelete with ⟨-, hphase, hspec, -⟩ | ⟨hdeleted, -⟩
    · exact .inr ⟨hphase, hconsistent.ended (by simp [hphase]), hspec⟩
    · exact .inl hdeleted
  | _ => cases hadvances

theorem Attested.step {c : Call} {choice : Choice} {answer : Answer c}
    (h : Attested key trace cluster.migration log) (hallowed : Allowed key log c)
    (hanswer : cluster.answer c choice = some (answer, next)) :
    Attested key trace next.migration (⟨c, answer⟩ :: log) := by
  have hgrows := Cluster.answer_grows hanswer
  refine ⟨hgrows.forall_mem h.consistent ?_, fun entry older hsuffix hadvances => ?_,
    h.read.step hanswer⟩
  · intro old new hold hpersists
    cases hpersists with
    | edited | updated => exact hold
    | statusWritten hcall =>
      subst hcall
      obtain ⟨v, hread, hwrites⟩ := hallowed
      exact hwrites.consistent (h.consistent v (h.read v hread))
  · have hbacked : ∃ v ∈ cluster.migration.all, ⟨.getMigration key, .ok v⟩ ∈ older ∧
        Backed older v entry.1 := by
      rw [cons_append, suffix_cons_iff] at hsuffix
      rcases hsuffix with heq | hsuffix
      · cases heq
        exact h.backs hallowed hadvances
      · exact h.backed entry older hsuffix hadvances
    exact hbacked.imp fun v hv => ⟨hgrows.subset hv.1, hv.2⟩

end Runs

end Virtrigaud.Migration
