import Virtrigaud.Migration.Settlement

/-!
# Recorded results of the long operations

A successful ExportDisk leaves its id and checksum in the status, a successful
ImportDisk its id and path; later phases use them. A status write replaces the whole
status by the one in memory, also after a conflict. The records are kept in every run
where a reconcile reads a version that shows the records persisted before it, and
providers name what they made. A reconcile that works from an older version erases them.
-/

namespace Virtrigaud.Migration

open Effects Program List Option

/-- What the status keeps of an operation: the id, and the checksum of the exported or
the path of the imported disk. -/
def record : MigrationLongOp → VMMigrationStatus → Option (String × String)
  | .exportDisk, status =>
    if status.exportID = "" then none else some (status.exportID, expectedChecksum status)
  | .importDisk, status =>
    if status.importID = "" then none
    else some (status.importID, (status.diskInfo.map MigrationDiskInfo.targetPath).getD "")

/-- What a successful operation returned to be recorded. -/
def response : MigrationLongOp → LogEntry → Option (String × String)
  | .exportDisk, ⟨.exportDisk _ _, .ok resp⟩ => some (resp.exportId, resp.checksum)
  | .importDisk, ⟨.importDisk _ _, .ok resp⟩ => some (resp.diskId, resp.path)
  | _, _ => none

variable {status : VMMigrationStatus}

theorem checksum_of_record {id checksum : String}
    (h : record .exportDisk status = some (id, checksum)) : expectedChecksum status = checksum := by
  simp only [record] at h
  split at h <;> cases h
  rfl

theorem path_of_record {id path : String} (h : record .importDisk status = some (id, path)) :
    (status.diskInfo.map MigrationDiskInfo.targetPath).getD "" = path := by
  simp only [record] at h
  split at h <;> cases h
  rfl

/-- Newer versions show every record that an older one shows. -/
def RecordsKept (versions : List VMMigration) : Prop :=
  versions.Pairwise fun newer older => ∀ op saved,
    record op older.status = some saved → record op newer.status = some saved

/-- The reconcile reads a version with the records that were persisted before it, and
the operations it issues return an id. -/
def readsRecords (cluster : Cluster) (_ : List LogEntry) (_ : List Choice)
    (log : List LogEntry) : Bool :=
  [MigrationLongOp.exportDisk, .importDisk].all fun op =>
    (match log.getLast? with
      | some ⟨.getMigration _, .ok v⟩ => (record op v.status).isSome ||
          cluster.migration.all.all fun w => (record op w.status).isNone
      | _ => true) &&
    log.all fun entry => (response op entry).all fun saved => saved.1 ≠ ""

variable {entry : LogEntry}

section Writes

variable {op : MigrationLongOp} {v : VMMigration} {log : List LogEntry}
  {status : VMMigrationStatus}

theorem response_of_not_landed (h : landed entry = false) : response op entry = none := by
  unfold response
  split
  · cases h
  · cases h
  · rfl

theorem Base.record_eq {base : VMMigrationStatus} (h : Base v base) :
    record op base = record op v.status := by
  cases h <;> cases op <;> rfl

/-- Without a successful operation the records stay as they were read. -/
theorem Moves.record_eq (h : Moves v log status) : record op status = record op v.status := by
  cases h with
  | mountWaits reason hphase hbase
  | poweringOff hphase hbase => rw [← hbase.record_eq]; cases op <;> rfl
  | validated createSnapshot hphase hbase =>
    rw [← hbase.record_eq]
    cases createSnapshot <;> cases op <;> rfl
  | failed message now hphase hbase => rw [← hbase.record_eq]; cases op <;> rfl
  | _ => cases op <;> rfl

theorem record_export_eq_none (h : exportRecorded status = false) :
    record .exportDisk status = none := by
  simp only [exportRecorded, Bool.or_eq_false_iff, decide_eq_false_iff_not, not_not] at h
  exact if_pos h.1

theorem record_import_eq_none (h : importRecorded status = false) :
    record .importDisk status = none := by
  simp only [importRecorded, Bool.or_eq_false_iff, decide_eq_false_iff_not, not_not] at h
  exact if_pos h.1

/-- The write after an export keeps the record of the import. -/
theorem record_import_exportStarted (status : VMMigrationStatus)
    (resp : ExportDiskResponse) (format : String) :
    record .importDisk (exportStarted status resp format) = record .importDisk status := by
  cases hinfo : status.diskInfo <;> simp [record, exportStarted, hinfo]

/-- The write after an import keeps the record of the export. -/
theorem record_export_importStarted (status : VMMigrationStatus)
    (resp : ImportDiskResponse) (format : String) :
    record .exportDisk (importStarted status resp format) = record .exportDisk status := by
  cases hinfo : status.diskInfo <;> simp [record, importStarted, expectedChecksum, hinfo]

/-- A status that records a response has the record of that response, where there was
none, and the other record as it was read. -/
theorem Lands.record_eq (h : Lands v entry status) :
    (response op entry = none → record op status = record op v.status) ∧
      ∀ saved, response op entry = some saved → saved.1 ≠ "" →
        record op v.status = none ∧ record op status = some saved := by
  cases op with
  | exportDisk =>
    cases h with
    | exportTask _ hrecorded | exportDone _ hrecorded =>
      refine ⟨nofun, fun saved hsaved hid => ⟨record_export_eq_none hrecorded, ?_⟩⟩
      cases hsaved
      exact if_neg hid
    | @importTask _ _ resp target | @importDone _ _ resp target =>
      exact ⟨fun _ => record_export_importStarted v.status resp (landedTargetFormat target), nofun⟩
  | importDisk =>
    cases h with
    | @exportTask _ _ resp | @exportDone _ _ resp =>
      exact ⟨fun _ => record_import_exportStarted v.status resp (diskFormat v), nofun⟩
    | importTask _ _ hrecorded | importDone _ _ hrecorded =>
      refine ⟨nofun, fun saved hsaved hid => ⟨record_import_eq_none hrecorded, ?_⟩⟩
      cases hsaved
      exact if_neg hid

/-- A persisted status has the record that was read, and no operation of its kind has
succeeded since; or there was none to read, and it has the record of the one operation
that succeeded. -/
theorem Writes.record_eq (h : Writes v log status)
    (hids : ∀ entry ∈ log, ∀ saved, response op entry = some saved → saved.1 ≠ "") :
    (record op status = record op v.status ∧ ∀ entry ∈ log, response op entry = none) ∨
      record op v.status = none ∧ ∃ saved, record op status = some saved ∧
        (∃ entry ∈ log, response op entry = some saved) ∧
        ∀ entry ∈ log, ∀ other, response op entry = some other → other = saved := by
  rcases h with ⟨hunlanded, hmoves⟩ | ⟨landing, ⟨hmem, honly⟩, -, hlands⟩
  · exact .inl ⟨hmoves.record_eq, fun entry hentry =>
      response_of_not_landed (hunlanded entry hentry)⟩
  have hothers : ∀ entry ∈ log, ∀ other, response op entry = some other → entry = landing := by
    intro entry hentry other hother
    refine honly entry hentry ?_
    by_contra hlanded
    rw [response_of_not_landed (Bool.not_eq_true _ ▸ hlanded)] at hother
    cases hother
  cases hresponse : response op landing with
  | none =>
    refine .inl ⟨hlands.record_eq.1 hresponse, fun entry hentry => ?_⟩
    cases hentryResponse : response op entry with
    | none => rfl
    | some other =>
      rw [hothers entry hentry other hentryResponse, hresponse] at hentryResponse
      cases hentryResponse
  | some saved =>
    have hrecord := hlands.record_eq.2 saved hresponse (hids landing hmem saved hresponse)
    refine .inr ⟨hrecord.1, saved, hrecord.2, ⟨landing, hmem, hresponse⟩, ?_⟩
    intro entry hentry other hother
    rw [hothers entry hentry other hother, hresponse] at hother
    exact (some.inj hother).symm

/-- A later write of the same reconcile keeps the record. -/
theorem Writes.record_kept {earlier : List LogEntry} {old : VMMigrationStatus}
    {saved : String × String} (hold : Writes v earlier old) (hearlier : earlier <:+ log)
    (hnew : Writes v log status)
    (hids : ∀ entry ∈ log, ∀ saved, response op entry = some saved → saved.1 ≠ "")
    (hsaved : record op old = some saved) : record op status = some saved := by
  have hbefore := hold.record_eq fun entry hentry => hids entry (hearlier.subset hentry)
  rcases hnew.record_eq hids with ⟨hsame, hnone⟩ | ⟨hunread, new, hrecord, -, honly⟩
  · rcases hbefore with ⟨hread, -⟩ | ⟨-, other, -, ⟨entry, hentry, hresponse⟩, -⟩
    · rw [hsame, ← hread, hsaved]
    · rw [hnone entry (hearlier.subset hentry)] at hresponse
      cases hresponse
  · rcases hbefore with ⟨hread, -⟩ | ⟨-, other, hother, ⟨entry, hentry, hresponse⟩, -⟩
    · rw [← hread, hsaved] at hunread
      cases hunread
    · have hsame := honly entry (hearlier.subset hentry) other hresponse
      rw [hrecord, ← hsame, ← hother, hsaved]

end Writes

/-- A status was persisted before the reconcile, or by it. -/
def Origin (key : ObjectKey) (before : History VMMigration) (log : List LogEntry)
    (status : VMMigrationStatus) : Prop :=
  (∃ w ∈ before.all, w.status = status) ∨
    ∃ v earlier, earlier <:+ log ∧ Read key earlier v ∧
      (∃ w ∈ before.all, w.status = v.status) ∧ Writes v earlier status

theorem Origin.mono {key : ObjectKey} {before : History VMMigration} {log log' : List LogEntry}
    (h : Origin key before log status) (hlog : log <:+ log') :
    Origin key before log' status := by
  refine h.imp_right ?_
  rintro ⟨v, earlier, hearlier, hread⟩
  exact ⟨v, earlier, hearlier.trans hlog, hread⟩

theorem RecordsKept.agree {versions : List VMMigration} (h : RecordsKept versions)
    {op : MigrationLongOp} {v w : VMMigration} {saved other : String × String}
    (hv : v ∈ versions) (hw : w ∈ versions) (hsaved : record op v.status = some saved)
    (hother : record op w.status = some other) : saved = other := by
  let Agree (v w : VMMigration) : Prop := ∀ op saved other,
    record op v.status = some saved → record op w.status = some other → saved = other
  have hpairs : versions.Pairwise Agree := by
    refine h.imp fun hkept op saved other hsaved hother => ?_
    rw [hkept op other hother] at hsaved
    exact (some.inj hsaved).symm
  have hself : ∀ v ∈ versions, Agree v v := fun v _ op saved other hsaved hother =>
    some.inj (hsaved.symm.trans hother)
  have hflipped : versions.Pairwise (flip Agree) := by
    refine hpairs.imp fun hagree op saved other hsaved hother => ?_
    exact (hagree op other saved hother hsaved).symm
  exact hpairs.forall_of_forall_of_flip hself hflipped hv hw op saved other hsaved hother

variable {r : Reconciler}

section Episode

variable {key : ObjectKey} {op : MigrationLongOp} {cluster : Cluster}
  {trace log episode : List LogEntry} {choices : List Choice} {v : VMMigration}
  {saved : String × String}

theorem response_id_ne_empty (h : readsRecords cluster trace choices episode = true)
    (hlog : log <:+ episode) :
    ∀ entry ∈ log, ∀ saved, response op entry = some saved → saved.1 ≠ "" := by
  intro entry hentry saved hsaved
  have hop : op ∈ [MigrationLongOp.exportDisk, .importDisk] := by cases op <;> simp
  have hids := (Bool.and_eq_true_iff.mp (all_eq_true.mp h op hop)).2
  have hid := all_eq_true.mp hids entry (hlog.subset hentry)
  rw [hsaved] at hid
  exact of_decide_eq_true hid

/-- The version a reconcile works from shows what was recorded before it. -/
theorem record_of_read (h : readsRecords cluster trace choices episode = true)
    (hkept : RecordsKept cluster.migration.all) (hread : Read key episode v)
    (hbefore : ∃ w ∈ cluster.migration.all, w.status = v.status) {w : VMMigration}
    (hw : w ∈ cluster.migration.all) (hsaved : record op w.status = some saved) :
    record op v.status = some saved := by
  have hop : op ∈ [MigrationLongOp.exportDisk, .importDisk] := by cases op <;> simp
  have hshown := (Bool.and_eq_true_iff.mp (all_eq_true.mp h op hop)).1
  rw [hread] at hshown
  rcases Bool.or_eq_true_iff.mp hshown with hsome | hnone
  · obtain ⟨other, hother⟩ := isSome_iff_exists.mp hsome
    obtain ⟨u, hu, hstatus⟩ := hbefore
    rw [hkept.agree hw hu hsaved (hstatus ▸ hother)]
    exact hother
  · have hw' := all_eq_true.mp hnone w hw
    rw [hsaved] at hw'
    cases hw'

/-- A status the reconcile persists keeps the records of every version before. -/
theorem Origin.record_kept {old new : VMMigrationStatus}
    (horigin : Origin key cluster.migration log old)
    (hcond : readsRecords cluster trace choices episode = true)
    (hkept : RecordsKept cluster.migration.all) (hlog : log <:+ episode)
    (hread : Read key log v) (hbefore : ∃ w ∈ cluster.migration.all, w.status = v.status)
    (hwrites : Writes v log new) (hsaved : record op old = some saved) :
    record op new = some saved := by
  rcases horigin with ⟨w, hw, rfl⟩ | ⟨u, earlier, hearlier, hu, -, hold⟩
  · have hv := record_of_read hcond hkept (hread.mono hlog) hbefore hw hsaved
    rcases hwrites.record_eq (response_id_ne_empty hcond hlog) with ⟨hsame, -⟩ | ⟨hnone, -⟩
    · rw [hsame, hv]
    · rw [hv] at hnone
      cases hnone
  · obtain rfl := (hu.mono hearlier).unique hread
    exact hold.record_kept hearlier hwrites (response_id_ne_empty hcond hlog) hsaved

variable {out : Outcome Call Answer Cluster Return}

variable (hrun : (system r key).Episode cluster choices out)
include hrun

/-- An operation succeeded in this reconcile only if it read the phase that issues it. -/
theorem issuing_of_response (hread : Read key out.log v) (hentry : entry ∈ out.log)
    (hresponse : response op entry = some saved) : v.status.phase = issuingPhase op := by
  obtain ⟨older, hsuffix, hallowed⟩ := (reconcile_obeys r key).run_allowed_of_mem hrun hentry
  have holder : older <:+ out.log := (suffix_cons _ _).trans hsuffix
  unfold response at hresponse
  split at hresponse
  case h_3 => cases hresponse
  all_goals
    obtain ⟨w, hw, hphase, -⟩ := hallowed
    rw [hread.unique (hw.mono holder), hphase]
    rfl

variable (hcond : readsRecords cluster trace choices out.log = true)
  (hkept : RecordsKept cluster.migration.all)
include hcond hkept

/-- What a reconcile leaves, when it reads the records that were persisted before. -/
theorem episode_records :
    RecordsKept out.state.migration.all ∧
      ∀ w ∈ out.state.migration.all, Origin key cluster.migration out.log w.status := by
  refine reconcile_induct (P := fun history log => RecordsKept history.all ∧
    ∀ w ∈ history.all, Origin key cluster.migration log w.status) hrun ?_ ?_ ?_ ?_
  · exact ⟨hkept, fun w hw => .inl ⟨w, hw, rfl⟩⟩
  · rintro history log entry ⟨hhistory, horigin⟩
    exact ⟨hhistory, fun w hw => (horigin w hw).mono (suffix_cons _ _)⟩
  · rintro history log new ⟨hhistory, horigin⟩ hsame
    refine ⟨pairwise_cons.mpr ⟨fun w hw op saved hsaved => ?_, hhistory⟩,
      forall_mem_cons.mpr ⟨?_, horigin⟩⟩
    · rw [History.current_push, hsame]
      rcases mem_cons.mp hw with rfl | hw
      · exact hsaved
      · exact (pairwise_cons.mp hhistory).1 w hw op saved hsaved
    · rw [History.current_push, hsame]
      exact horigin _ (History.current_mem_all history)
  · rintro history log new v hlog ⟨hhistory, horigin⟩ hread hbefore hwrites
    refine ⟨pairwise_cons.mpr ⟨fun w hw op saved hsaved => ?_, hhistory⟩, forall_mem_cons.mpr
      ⟨.inr ⟨v, log, suffix_refl log, hread, hbefore, hwrites⟩, horigin⟩⟩
    exact (horigin w hw).record_kept hcond hkept hlog hread hbefore hwrites hsaved

/-- A reconcile that did not read the phase that issues the operation worked from the
record that any version shows at its end. -/
theorem record_of_persisted (hread : Read key out.log v)
    (hphase : v.status.phase ≠ issuingPhase op) {w : VMMigration}
    (hw : w ∈ out.state.migration.all) (hsaved : record op w.status = some saved) :
    record op v.status = some saved := by
  rcases (episode_records hrun hcond hkept).2 w hw with ⟨u, hu, hstatus⟩ |
    ⟨u, earlier, hearlier, hu, -, hwrites⟩
  · have hbefore := readBefore_of_run hrun v hread
    exact record_of_read hcond hkept hread hbefore hu (hstatus ▸ hsaved)
  · obtain rfl := (hu.mono hearlier).unique hread
    rcases hwrites.record_eq (response_id_ne_empty hcond hearlier) with
      ⟨hsame, -⟩ | ⟨-, _, -, ⟨entry, hentry, hresponse⟩, -⟩
    · rw [← hsame, hsaved]
    · exact absurd (issuing_of_response hrun hread (hearlier.subset hentry) hresponse) hphase

end Episode

/-- The persisted records never change, and each is what a successful operation returned. -/
structure Recorded (history : History VMMigration) (trace : List LogEntry) : Prop where
  kept : RecordsKept history.all
  returned : ∀ w ∈ history.all, ∀ op saved, record op w.status = some saved →
    ∃ entry ∈ trace, response op entry = some saved

theorem Recorded.episode {key : ObjectKey} {cluster : Cluster} {trace : List LogEntry}
    {choices : List Choice} {out : Outcome Call Answer Cluster Return}
    (h : Recorded cluster.migration trace)
    (hrun : (system r key).Episode cluster choices out)
    (hcond : readsRecords cluster trace choices out.log = true) :
    Recorded out.state.migration (out.log ++ trace) := by
  obtain ⟨hkept, horigin⟩ := episode_records hrun hcond h.kept
  have hearlier : ∀ op saved, (∃ w ∈ cluster.migration.all, record op w.status = some saved) →
      ∃ entry ∈ out.log ++ trace, response op entry = some saved := by
    rintro op saved ⟨w, hw, hsaved⟩
    obtain ⟨entry, hentry, hresponse⟩ := h.returned w hw op saved hsaved
    exact ⟨entry, mem_append_right _ hentry, hresponse⟩
  refine ⟨hkept, fun w hw op saved hsaved => ?_⟩
  rcases horigin w hw with ⟨u, hu, hstatus⟩ | ⟨v, log, hlog, -, ⟨u, hu, hstatus⟩, hwrites⟩
  · exact hearlier op saved ⟨u, hu, hstatus ▸ hsaved⟩
  · rcases hwrites.record_eq (response_id_ne_empty hcond hlog) with
      ⟨hsame, -⟩ | ⟨-, other, hother, ⟨entry, hentry, hresponse⟩, -⟩
    · rw [hsame, ← hstatus] at hsaved
      exact hearlier op saved ⟨u, hu, hsaved⟩
    · rw [hother] at hsaved
      exact ⟨entry, mem_append_left _ (hlog.subset hentry), hresponse.trans hsaved⟩

/-- In every run whose reconciles read the records persisted before them, no version
changes a record, every ImportDisk carries the recorded checksum, and the target is
created with the recorded path. -/
theorem records_kept (r : Reconciler) (key : ObjectKey) {cluster : Cluster}
    {trace : List LogEntry} {choices : List Choice} {out : Outcome Call Answer Cluster Return}
    (hreach : (system r key).Reach
      (fun cluster trace choices log => readsRecords cluster trace choices log = true)
      cluster trace)
    (hrun : (r.reconcile key).run (system r key).host cluster [] choices = some out)
    (hcond : readsRecords cluster trace choices out.log = true) :
    Recorded out.state.migration (out.log ++ trace) ∧
      (∀ w ∈ out.state.migration.all, ∀ id checksum,
        record .exportDisk w.status = some (id, checksum) → ∀ provider req answer,
        ⟨.importDisk provider req, answer⟩ ∈ out.log → req.expectedChecksum = checksum) ∧
      ∀ w ∈ out.state.migration.all, ∀ id path,
        record .importDisk w.status = some (id, path) → ∀ vm answer,
        ⟨.createVirtualMachine vm, answer⟩ ∈ out.log →
        vm.spec.importedDisk.map ImportedDiskRef.path = some path := by
  have hrecorded : Recorded cluster.migration trace := by
    refine hreach.invariant (J := fun s trace => Recorded s.migration trace) ?_ ?_
    · rintro s ⟨holder, -, hstatus, -⟩
      refine ⟨by rw [History.all, holder]; exact pairwise_singleton _ _,
        History.forall_mem_of_new holder fun op saved hsaved => ?_⟩
      rw [hstatus] at hsaved
      cases op <;> cases hsaved
    · intro s trace choices out hs hepisode hreads
      rw [settle_migration]
      exact hs.episode hepisode hreads
  refine ⟨hrecorded.episode hrun hcond, ?_, ?_⟩
  · intro w hw id checksum hsaved provider req answer hcall
    obtain ⟨older, hsuffix, v, hread, hphase, -, -, -, url, options, format, creds, rfl⟩ :=
      (reconcile_obeys r key).run_allowed_of_mem hrun hcall
    have hv := record_of_persisted hrun hcond hrecorded.kept
      (hread.mono ((suffix_cons _ _).trans hsuffix)) (by rw [hphase]; decide) hw hsaved
    exact checksum_of_record hv
  · intro w hw id path hsaved vm answer hcall
    obtain ⟨older, hsuffix, v, hread, hphase, ⟨diskInfo, hinfo, rfl⟩, -⟩ :=
      (reconcile_obeys r key).run_allowed_of_mem hrun hcall
    have hv := record_of_persisted hrun hcond hrecorded.kept
      (hread.mono ((suffix_cons _ _).trans hsuffix)) (by rw [hphase]; decide) hw hsaved
    have hpath := path_of_record hv
    rw [hinfo] at hpath
    exact congrArg some hpath

/-- The checksum an ImportDisk request carries. -/
def requestedChecksum : LogEntry → Option String
  | ⟨.importDisk _ req, _⟩ => some req.expectedChecksum
  | _ => none

theorem exists_of_requestedChecksum {checksum : String}
    (h : requestedChecksum entry = some checksum) :
    ∃ provider req answer, entry = ⟨.importDisk provider req, answer⟩ ∧
      req.expectedChecksum = checksum := by
  unfold requestedChecksum at h
  split at h
  · exact ⟨_, _, _, rfl, some.inj h⟩
  · cases h

open Sample

/-- A reconcile that reads the version before the export was recorded finds the marker,
and copies its status over the record. The import then runs without a checksum. -/
theorem record_erased : ∃ cluster trace,
    (system reconciler key).Reach (fun _ _ _ _ => True) cluster trace ∧
    ¬ RecordsKept cluster.migration.all ∧
    ∃ provider req answer, ⟨.importDisk provider req, answer⟩ ∈ trace ∧
      req.expectedChecksum = "" := by
  let script := untilExporting ++ [
    issueExport
      [exported { exportId := "export-1", checksum := "c0ffee" }, done],
    [cached 1, cached 0, provider kvm, connected,
      done, done, cached 0, done],
    issueImport [imported { diskId := "disk-1" }, done]]
  refine (system reconciler key).exists_reach
    (P := fun cluster trace => record .exportDisk cluster.migration.current.status = none ∧
      (∃ older ∈ cluster.migration.older, (record .exportDisk older.status).isSome = true) ∧
      ∃ entry ∈ trace, requestedChecksum entry = some "")
    script (fresh_cluster []) (fun cluster trace _ hshows => ?_) (by decide +kernel)
  obtain ⟨hnone, ⟨older, holder, hsome⟩, entry, hentry, hunchecked⟩ := hshows
  refine ⟨fun hkept => ?_, ?_⟩
  · obtain ⟨saved, hsaved⟩ := isSome_iff_exists.mp hsome
    rw [(pairwise_cons.mp hkept).1 older holder .exportDisk saved hsaved] at hnone
    cases hnone
  · obtain ⟨provider, req, answer, rfl, hchecksum⟩ := exists_of_requestedChecksum hunchecked
    exact ⟨provider, req, answer, hentry, hchecksum⟩

/-- An import after a recorded export carries its checksum. -/
theorem records_kept_sample : ∃ cluster trace choices out provider req answer,
    (system reconciler key).Reach
      (fun cluster trace choices log => readsRecords cluster trace choices log = true)
      cluster trace ∧
    (reconciler.reconcile key).run (system reconciler key).host
      cluster [] choices = some out ∧
    ⟨.importDisk provider req, answer⟩ ∈ out.log ∧ req.expectedChecksum = "c0ffee" := by
  let choices := issueImport [imported { diskId := "disk-1" }, done]
  obtain ⟨cluster, trace, hreach, out, hrun, hcond, ⟨entry, hentry, himports⟩, w, hw, hrecord⟩ :=
    (system reconciler key).exists_reach_of_replay
    (P := fun cluster trace => ∃ out ∈ (reconciler.reconcile key).run
      (system reconciler key).host cluster [] choices,
      readsRecords cluster trace choices out.log = true ∧
      (∃ entry ∈ out.log, (requestedChecksum entry).isSome = true) ∧
      ∃ w ∈ out.state.migration.all, record .exportDisk w.status = some ("export-1", "c0ffee"))
    readsRecords (untilExporting ++ [issueExport
      [exported { exportId := "export-1", checksum := "c0ffee" }, done]])
    (fun _ _ _ _ h => h) (fresh_cluster []) (by decide +kernel)
  obtain ⟨checksum, hchecksum⟩ := isSome_iff_exists.mp himports
  obtain ⟨provider, req, answer, rfl, -⟩ := exists_of_requestedChecksum hchecksum
  have hkept := records_kept reconciler key hreach hrun hcond
  exact ⟨cluster, trace, choices, out, provider, req, answer, hreach, hrun, hentry,
    hkept.2.1 w hw _ _ hrecord provider req answer hentry⟩

end Virtrigaud.Migration
