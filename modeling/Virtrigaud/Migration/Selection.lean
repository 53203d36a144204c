import Virtrigaud.Migration.Specs

/-!
# Migrations from a snapshot the user names

`handleSnapshottingPhase` takes the name of the referenced VMSnapshot for the id of the
snapshot and never reads the object, and a migration that creates no snapshot skips the
phase. The export is of the referenced snapshot when that one is ready, belongs to the
source and happens to be called what the provider calls it, and the phase is not skipped.
-/

namespace Virtrigaud.Migration

open Effects Program List

inductive SnapshotPhase
  | unset
  | pending
  | creating
  | ready
  | deleting
  | failed
  | expired
  deriving DecidableEq, Repr

/-- A VMSnapshot: the VirtualMachine it is of, and the provider's id of it. -/
structure VMSnapshot where
  vmRef : LocalObjectReference
  phase : SnapshotPhase := .unset
  snapshotID : String := ""
  deriving DecidableEq, Repr

/-- The request exports the referenced VMSnapshot, which is ready and one of the source. -/
def ExportsSnapshot (snapshots : ObjectKey → Option VMSnapshot) (ns : String)
    (source ref : LocalObjectReference) (req : ExportDiskRequest) : Prop :=
  ∃ snapshot, snapshots ⟨ns, ref.name⟩ = some snapshot ∧ snapshot.phase = .ready ∧
    snapshot.vmRef = source ∧ req.snapshotId = snapshot.snapshotID

/-- The spec migrates the source from the snapshot, and passes through the Snapshotting
phase. -/
def selects (source ref : LocalObjectReference) (_ : Option Time) (spec : VMMigrationSpec) : Bool :=
  decide (spec.source.vmRef = source) && decide (spec.source.snapshotRef = some ref) &&
    spec.source.createSnapshot

/-- How a persisted status comes to be in Exporting, and with which snapshot. -/
theorem Writes.phase_exporting {v : VMMigration} {log : List LogEntry} {status : VMMigrationStatus}
    (h : Writes v log status) (hphase : status.phase = .exporting) :
    v.status.phase = .exporting ∧ status.snapshotID = v.status.snapshotID ∨
      v.status.phase = .validating ∨
      (∃ ref, v.spec.source.snapshotRef = some ref ∧ status.snapshotID = ref.name) ∨
      (v.spec.source.snapshotRef = none ∧ v.status.phase = .snapshotting ∧
        v.status.snapshotID ≠ "") ∨
      ∃ provider req resp, ⟨.snapshotCreate provider req, .ok resp⟩ ∈ log ∧ resp.task = "" := by
  rcases h with ⟨-, hmoves⟩ | ⟨entry, -, -, hlands⟩
  · cases hmoves with
    | validated _ hvalidating | mountWaits _ hvalidating
    | poweringOff hvalidating => exact .inr (.inl hvalidating)
    | snapshotSelected ref _ href => exact .inr (.inr (.inl ⟨ref, href, rfl⟩))
    | snapshotReady hsnapshotting hnone hid =>
      exact .inr (.inr (.inr (.inl ⟨hnone, hsnapshotting, hid⟩)))
    | snapshotCreated _ hcreated htask =>
      exact .inr (.inr (.inr (.inr ⟨_, _, _, hcreated, htask⟩)))
    -- these two keep a phase that is not Exporting
    | snapshotTaskStarted hsnapshotting => cases hsnapshotting.symm.trans hphase
    | cleanupComplete _ hready => cases hready.symm.trans hphase
    | _ => first | exact .inl ⟨hphase, rfl⟩ | cases hphase
  · cases hlands with
    | _ => first | exact .inl ⟨hphase, rfl⟩ | cases hphase

/-- Throughout: a version in Exporting has the referenced name for its snapshot, and so
had every export that was requested. -/
structure Selected (ref : LocalObjectReference) (cluster : Cluster) (trace : List LogEntry) :
    Prop where
  versions : ∀ v ∈ cluster.migration.all, v.status.phase = .exporting →
    v.status.snapshotID = ref.name
  created : ∀ provider req answer, ⟨.snapshotCreate provider req, answer⟩ ∉ trace
  exports : ∀ provider req answer, ⟨.exportDisk provider req, answer⟩ ∈ trace →
    req.snapshotId = ref.name

theorem Selected.step {key : ObjectKey} {source ref : LocalObjectReference} {cluster next : Cluster}
    {log trace : List LogEntry} {c : Call} {choice : Choice} {answer : Answer c}
    (hwithin : Within key (selects source ref) cluster log)
    (h : Selected ref cluster (log ++ trace)) (hallowed : Allowed key log c)
    (hconducts : Conducts key log c)
    (hanswer : cluster.answer c choice = some (answer, next)) :
    Selected ref next (⟨c, answer⟩ :: log ++ trace) := by
  have hspec : ∀ deletion spec, selects source ref deletion spec = true →
      spec.source.snapshotRef = some ref ∧ spec.source.createSnapshot = true := by
    intro deletion spec hselects
    simp only [selects, Bool.and_eq_true, decide_eq_true_eq] at hselects
    exact ⟨hselects.1.2, hselects.2⟩
  refine ⟨?_, ?_, ?_⟩
  · refine (Cluster.answer_grows hanswer).forall_mem h.versions ?_
    intro old new hold hpersists hphase
    cases hpersists with
    | edited | updated => exact hold hphase
    | statusWritten hcall =>
      subst hcall
      obtain ⟨read, hread, hwrites⟩ := hallowed
      obtain ⟨hmem, hselects⟩ := hwithin.of_read hread
      obtain ⟨href, -⟩ := hspec _ _ hselects
      rcases hwrites.phase_exporting hphase with ⟨hsame, hid⟩ | hvalidating | ⟨ref', href', hid⟩ |
        ⟨hnone, -⟩ | ⟨provider, req, resp, hcreated, -⟩
      · exact hid.trans (h.versions read hmem hsame)
      · -- the spec that decided does create a snapshot
        obtain ⟨migration, hseen, hdecided, -⟩ :=
          (hconducts read hread hvalidating).leaves (.inr hphase)
        rw [if_pos (hspec _ _ (hwithin.of_seen hseen)).2] at hdecided
        cases hphase.symm.trans hdecided
      · rw [href] at href'
        cases href'
        exact hid
      · rw [href] at hnone
        cases hnone
      · exact absurd (mem_append_left _ hcreated) (h.created provider req _)
  · intro provider req result hmem
    rcases mem_cons.mp hmem with heq | hmem
    · cases heq
      obtain ⟨read, hread, -, hnone, -⟩ := hallowed
      rw [(hspec _ _ (hwithin.of_read hread).2).1] at hnone
      cases hnone
    · exact h.created provider req result hmem
  · intro provider req result hmem
    rcases mem_cons.mp hmem with heq | hmem
    · cases heq
      obtain ⟨read, hread, hexporting, -, -, -, sourceVM, url, options, creds, rfl⟩ := hallowed
      exact h.versions read (hwithin.of_read hread).1 hexporting
    · exact h.exports provider req result hmem

/-- Every export of a migration that keeps to a snapshot, and passes through the
Snapshotting phase, is of that snapshot if it is ready, belongs to the source, and its
object has the name the provider knows it by. -/
theorem exports_referenced_snapshot (r : Reconciler) (key : ObjectKey)
    (snapshots : ObjectKey → Option VMSnapshot) {source ref : LocalObjectReference}
    {snapshot : VMSnapshot} (hsnapshot : snapshots ⟨key.ns, ref.name⟩ = some snapshot)
    (hready : snapshot.phase = .ready) (hsource : snapshot.vmRef = source)
    (hname : snapshot.snapshotID = ref.name) {cluster : Cluster} {trace : List LogEntry}
    (hrun : ((system r key).startingFrom (startsWithin (selects source ref))).Reach
      (fun _ _ choices _ => editsWithin (selects source ref) choices = true) cluster trace)
    {provider : ObjectKey} {req : ExportDiskRequest}
    {answer : Except GoError ExportDiskResponse}
    (hexport : ⟨.exportDisk provider req, answer⟩ ∈ trace) :
    ExportsSnapshot snapshots key.ns source ref req := by
  have hselected : Selected ref cluster trace := by
    refine (within_induct (J := Selected ref) hrun (fun _ _ _ _ hcond => hcond) ?_ ?_ ?_).2
    · rintro s ⟨holder, -, hstatus, -⟩ -
      refine ⟨History.forall_mem_of_new holder fun hphase => ?_, fun _ _ _ => by simp,
        nofun⟩
      rw [hstatus] at hphase
      cases hphase
    · exact fun s trace h => ⟨h.versions, h.created, h.exports⟩
    · intro _ trace _ _ _ _ s log c choice answer next hwithin hselected hallowed hconducts
        hanswer _
      exact hselected.step hwithin hallowed hconducts hanswer
  exact ⟨snapshot, hsnapshot, hready, hsource, (hselected.exports provider req answer hexport).trans
    hname.symm⟩

variable (createSnapshot : Bool)

namespace Sample

def nightly : LocalObjectReference := ⟨"nightly"⟩

/-- The migration from the snapshot `nightly`. -/
def fromSnapshot : VMMigration :=
  { migration with spec := { migration.spec with
      source := { vmRef := ⟨"web"⟩, snapshotRef := some nightly, createSnapshot } } }

def snapshotCluster : Cluster :=
  { cluster [] with migration := ⟨fromSnapshot createSnapshot, []⟩ }

/-- The snapshot under the id its provider gave it. -/
def snapshots (snapshotID : String) (key : ObjectKey) : Option VMSnapshot :=
  if key = ⟨"prod", "nightly"⟩ then some ⟨⟨"web"⟩, .ready, snapshotID⟩ else none

def exportOnce : List Choice :=
  issueExport [exported { exportId := "export-1", checksum := "c0ffee" }, done]

/-- The exports of a trace. -/
def exportOf : LogEntry → Option ExportDiskRequest
  | ⟨.exportDisk _ req, _⟩ => some req
  | _ => none

theorem exists_of_exportOf {entry : LogEntry} {req : ExportDiskRequest}
    (h : exportOf entry = some req) :
    ∃ provider answer, entry = ⟨.exportDisk provider req, answer⟩ := by
  unfold exportOf at h
  split at h
  · cases h
    exact ⟨_, _, rfl⟩
  · cases h

/-- The migration exports something else than its snapshot, which is ready. -/
def ExportsElsewhere : Prop :=
  ∃ cluster trace provider req answer,
    (system reconciler key).Reach (fun _ _ choices _ => choices.all (·.edits.isEmpty) = true)
      cluster trace ∧
    cluster.migration.current.spec = (fromSnapshot createSnapshot).spec ∧
    ⟨.exportDisk provider req, answer⟩ ∈ trace ∧
    ¬ ExportsSnapshot (snapshots "snap-42") "prod" ⟨"web"⟩ nightly req

/-- A run that requests an export under another id. -/
theorem exportsElsewhere_of_script (script : List (List Choice))
    (hscript : ((system reconciler key).replay (fun _ _ choices _ => choices.all (·.edits.isEmpty))
        (snapshotCluster createSnapshot) [] script).any
      (fun last => decide (last.1.migration.current.spec = (fromSnapshot createSnapshot).spec ∧
        ∃ entry ∈ last.2, ∃ req ∈ exportOf entry, req.snapshotId ≠ "snap-42")) = true) :
    ExportsElsewhere createSnapshot := by
  have hfresh : (snapshotCluster createSnapshot).Fresh key := ⟨rfl, rfl, rfl, rfl, rfl⟩
  obtain ⟨cluster, trace, hreach, hspec, entry, hentry, req, hreq, hid⟩ :=
    (system reconciler key).exists_reach_of_replay
    (P := fun cluster trace => cluster.migration.current.spec = (fromSnapshot createSnapshot).spec ∧
      ∃ entry ∈ trace, ∃ req ∈ exportOf entry, req.snapshotId ≠ "snap-42")
    _ script (fun _ _ _ _ h => h) hfresh hscript
  obtain ⟨provider, answer, rfl⟩ := exists_of_exportOf hreq
  refine ⟨cluster, trace, provider, req, answer, hreach, hspec, hentry, ?_⟩
  rintro ⟨snapshot, hsnapshot, -, -, heq⟩
  cases hsnapshot
  exact hid heq

end Sample

open Sample

/-- The snapshot `nightly` is `snap-42` at the provider. The migration asks for `nightly`
there, and without a snapshot of its own it asks for none. -/
theorem export_of_other_snapshot :
    ExportsElsewhere true ∧ ExportsElsewhere false := by
  refine ⟨exportsElsewhere_of_script true (untilExporting ++
    [[cached 0, cached 0, done], exportOnce]) ?_,
    exportsElsewhere_of_script false (untilExporting ++ [exportOnce]) ?_⟩
  · decide +kernel
  · decide +kernel

/-- A snapshot with the name its provider knows it by. -/
theorem exports_referenced_snapshot_sample : ∃ cluster trace provider req answer,
    ((system reconciler key).startingFrom
      (startsWithin (selects ⟨"web"⟩ nightly))).Reach
      (fun _ _ choices _ => editsWithin (selects ⟨"web"⟩ nightly) choices = true)
      cluster trace ∧
    ⟨.exportDisk provider req, answer⟩ ∈ trace ∧
    ExportsSnapshot (snapshots "nightly") "prod" ⟨"web"⟩ nightly req := by
  have hfresh : (snapshotCluster true).Fresh key := ⟨rfl, rfl, rfl, rfl, rfl⟩
  have hstarts : startsWithin (selects ⟨"web"⟩ nightly) (snapshotCluster true) := by
    unfold startsWithin
    decide +kernel
  obtain ⟨cluster, trace, hreach, entry, hentry, hsome⟩ := ((system reconciler
    key).startingFrom (startsWithin (selects ⟨"web"⟩ nightly))).exists_reach_of_replay
    (P := fun _ trace => ∃ entry ∈ trace, (exportOf entry).isSome = true)
    (fun _ _ choices _ => editsWithin (selects ⟨"web"⟩ nightly) choices)
    (untilExporting ++ [[cached 0, cached 0, done], exportOnce])
    (fun _ _ _ _ h => h) ⟨hfresh, hstarts⟩ (by decide +kernel)
  obtain ⟨req, hreq⟩ := Option.isSome_iff_exists.mp hsome
  obtain ⟨provider, answer, rfl⟩ := exists_of_exportOf hreq
  have hsnapshot : snapshots "nightly" ⟨key.ns, nightly.name⟩ =
      some ⟨⟨"web"⟩, .ready, "nightly"⟩ := rfl
  exact ⟨cluster, trace, provider, req, answer, hreach, hentry,
    exports_referenced_snapshot reconciler key (snapshots "nightly")
      hsnapshot rfl rfl rfl hreach hentry⟩

end Virtrigaud.Migration
