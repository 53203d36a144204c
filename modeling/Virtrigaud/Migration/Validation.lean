import Virtrigaud.Migration.Removal

/-!
# Helpers and status writes keep to it

Helpers that concern neither the object nor its VMs are passed over as a whole. A status write
keeps to the rules if the status is one the protocol allows and rests on what it has to.
-/

namespace Virtrigaud.Migration

open Effects Program List

/-- The calls that are made without a condition. -/
def silent : Call → Bool
  | .updateMigration _ | .statusUpdate _ | .snapshotCreate _ _ | .longOpLoadOrStore _
  | .exportDisk _ _ | .importDisk _ _ | .longOpDelete _ | .createVirtualMachine _
  | .updateVirtualMachine _ | .patchPowerOff _ | .deleteVirtualMachine _ => false
  | _ => true

/-- The calls that `Conducts` does not restrict outside the Validating phase. -/
def unbound : Call → Bool
  | .power _ _ _ | .snapshotCreate _ _ | .createPVC _ | .deletePVC _ | .snapshotDelete _ _ _ =>
    false
  | _ => true

/-- The calls that neither `Conducts` restricts nor are waited for at the end of a task. -/
def plain : Call → Bool
  | .statusUpdate _ | .taskStatus _ _ => false
  | c => unbound c

/-- The calls of the helpers that concern neither the object nor its VMs. -/
def aside : Call → Bool
  | .getMigration _ => false
  | c => plain c && silent c

/-- A reconcile that read `v` and has landed no long operation yet. -/
structure Start (key : ObjectKey) (log : List LogEntry) (v : VMMigration) : Prop where
  read : Read key log v
  unlanded : Unlanded log

variable {entry : LogEntry}

theorem Start.cons {key : ObjectKey} {log : List LogEntry} {v : VMMigration} (h : Start key log v)
    (hentry : landed entry = false) : Start key (entry :: log) v :=
  ⟨h.read.cons, forall_mem_cons.mpr ⟨hentry, h.unlanded⟩⟩

section Start

variable {α : Type} {r : Reconciler} {key : ObjectKey} {log before : List LogEntry}
  {v : VMMigration} {c : Call} {p : M α} {post : α → List LogEntry → Prop}

/-- A call of a reconcile that has landed no long operation. -/
theorem Start.step {f : Answer c → M α} (h : Start key log v) (hc : Conforms r key log c)
    (hentry : ∀ answer, landed ⟨c, answer⟩ = false)
    (hf : ∀ answer, Start key (⟨c, answer⟩ :: log) v →
      (f answer).Obeys (Conforms r key) post (⟨c, answer⟩ :: log)) :
    (ask c >>= f).Obeys (Conforms r key) post log :=
  ⟨hc, fun answer => hf answer (h.cons (hentry answer))⟩

theorem conforms_of_aside (h : aside c = true) : Conforms r key log c := by
  cases c <;> first | exact ⟨trivial, trivial, trivial⟩ | cases h

theorem landed_of_silent (h : silent entry.1 = true) : landed entry = false := by
  obtain ⟨c, answer⟩ := entry
  cases c with
  | _ => first | rfl | cases h

theorem silent_of_aside {c : Call} (h : aside c = true) : silent c = true := by
  cases c <;> first | rfl | cases h

/-- Calls that are unconditional leave the reconcile where it was. -/
theorem Start.of_silent (h : Start key log v) {allowed : List LogEntry → Call → Prop}
    (hp : p.Obeys allowed post log)
    (hcalls : ∀ log' c, allowed log' c → silent c = true ∧ Conforms r key log' c) :
    p.Obeys (Conforms r key) (fun a log' => post a log' ∧ Start key log' v) log := by
  refine (hp.strengthen hcalls).mono fun a log' hlog ⟨hpost, hnew⟩ => ⟨hpost, h.read.mono hlog, ?_⟩
  intro entry hentry
  exact (hnew entry hentry).elim (h.unlanded entry) landed_of_silent

theorem Start.aside (h : Start key log v) (honly : p.Only (aside · = true)) :
    p.Obeys (Conforms r key) (fun _ log' => Start key log' v) log := by
  refine (h.of_silent (honly.keeps fun _ _ hc => hc) fun _ _ hc => ?_).mono fun _ _ _ h => h.2
  exact ⟨silent_of_aside hc, conforms_of_aside hc⟩

theorem conforms_of_cleans (hread : Read key log v) (hcleans : cleansUp v = true)
    (hunpolled : ∀ entry ∈ before, unpolled entry.1 = true) (h : Cleans v before log c) :
    Conforms r key log c := by
  cases c with
  | deletePVC pvc => exact ⟨trivial, ⟨v, hread, h⟩, trivial⟩
  | snapshotDelete provider vmId snapshotId =>
    obtain ⟨hallowed, howns, hfresh, hid, hprovider, sourceVM, hsource, hvm⟩ := h
    have hall : ∀ entry ∈ log, unpolled entry.1 = true := fun entry hentry =>
      (hfresh entry hentry).elim (hunpolled entry) id
    exact ⟨trivial, ⟨v, sourceVM, hread, hcleans, hallowed, howns, hall, hid, hprovider, hsource,
      hvm⟩, trivial⟩
  | _ => first | exact ⟨trivial, trivial, trivial⟩ | cases h

theorem silent_of_cleans (h : Cleans v before log c) : silent c = true := by
  cases c <;> first | rfl | cases h

/-- A clean-up leaves the reconcile where it was. -/
theorem Start.cleans (h : Start key log v) (hcleans : cleansUp v = true)
    (hunpolled : ∀ entry ∈ log, unpolled entry.1 = true) (hp : p.Obeys (Cleans v log) post log) :
    p.Obeys (Conforms r key) (fun a log' => post a log' ∧ Start key log' v) log := by
  have hreads : p.Heeds (fun log' _ => Read key log' v) log :=
    obeys_of_always fun log' hlog _ => h.read.mono hlog
  refine (h.of_silent (hp.and hreads) fun log' c ⟨hc, hread⟩ => ?_).mono
    fun _ _ _ hafter => ⟨hafter.1.1, hafter.2⟩
  exact ⟨silent_of_cleans hc, conforms_of_cleans hread hcleans hunpolled hc⟩

end Start

section Helpers

variable (r : Reconciler) (migration : VMMigration)

theorem loadS3Credentials_aside : (loadS3Credentials migration).Only (aside · = true) := by
  unfold loadS3Credentials
  repeat' first
    | trivial
    | refine only_perform rfl fun _ => ?_
    | refine Only.bind ?_ fun _ => ?_
    | split
    | dsimp only

theorem triggerProviderReconciliation_aside :
    (triggerProviderReconciliation migration).Only (aside · = true) := by
  unfold triggerProviderReconciliation getSourceProvider
  repeat' first
    | trivial
    | refine only_perform rfl fun _ => ?_
    | refine Only.bind ?_ fun _ => ?_
    | split

theorem migrationProvidersMounted_aside (source target : Provider) (pvcName : String) :
    (migrationProvidersMounted source target pvcName).Only (aside · = true) := by
  repeat' first
    | trivial
    | refine only_perform rfl fun _ => ?_
    | refine Only.bind ?_ fun _ => ?_
    | split
    | dsimp only

theorem migrationMountDeadlineExceeded_aside (pvcName : String) :
    (migrationMountDeadlineExceeded migration pvcName).Only (aside · = true) := by
  refine only_perform rfl ?_
  rintro (err | pvc)
  · trivial
  · exact only_perform rfl fun _ => trivial

theorem importFormat_aside : (importFormat migration).Only (aside · = true) := by
  unfold importFormat getSourceProvider
  repeat' first
    | trivial
    | refine only_perform rfl fun _ => ?_
    | refine Only.bind ?_ fun _ => ?_
    | split

end Helpers

section Writing

variable {r : Reconciler} {key : ObjectKey} {log log' : List LogEntry} {v migration : VMMigration}
  {status : VMMigrationStatus} {result : Result}

/-- What a status write rests on, by the phase that was read. -/
structure Rests (r : Reconciler) (v : VMMigration) (log : List LogEntry)
    (status : VMMigrationStatus) : Prop where
  grounded : v.status.phase = .validating → Grounded v log status
  named : v.status.phase = .validating →
    stagesOnClaim v.objectMeta.deletionTimestamp v.spec = true → Named status
  swept : v.status.phase = .ready → Swept r v log

theorem Rests.mono (h : Rests r v log status) (hlog : log ⊆ log') : Rests r v log' status :=
  ⟨fun hphase => (h.grounded hphase).mono hlog, h.named, fun hphase => (h.swept hphase).mono hlog⟩

/-- The phases in which nothing more is asked of a write. -/
def untied : MigrationPhase → Bool
  | .validating | .ready => false
  | _ => true

/-- The phases after validation that an attempt may fail in. -/
def underway : MigrationPhase → Bool
  | .validating => false
  | phase => activePhase phase

theorem untied_of_underway {phase : MigrationPhase} (h : underway phase = true) :
    untied phase = true := by
  cases phase <;> first | rfl | cases h

theorem Rests.of_untied (h : untied v.status.phase = true) : Rests r v log status := by
  refine ⟨fun hphase => ?_, fun hphase => ?_, fun hphase => ?_⟩ <;> rw [hphase] at h <;> cases h

theorem updateStatusLoop_conforms (hread : Read key log v) (attempts : Nat)
    (migration : VMMigration)
    (hwrite : Writes v log migration.status) (hrests : Rests r v log migration.status) :
    (updateStatusLoop attempts migration).Obeys (Conforms r key)
      (fun result log' => result.1.status = migration.status ∧ (Unlanded log → Start key log' v) ∧
        (result.2 = none → Seen log' result.1.objectMeta result.1.spec)) log := by
  induction attempts generalizing log migration with
  | zero => exact ⟨rfl, Start.mk hread, nofun⟩
  | succ attempts ih =>
    refine obeys_perform ⟨⟨v, hread, hwrite⟩, fun w hw => hread.unique hw ▸ hrests.grounded,
      fun w hw => hread.unique hw ▸ ⟨hrests.named, hrests.swept⟩⟩ ?_
    rintro (err | ⟨objectMeta, spec⟩)
    · dsimp only
      split
      · refine obeys_perform ⟨trivial, trivial, trivial⟩ ?_
        rintro (err | fresh)
        · exact ⟨rfl, fun hunlanded => ((Start.mk hread hunlanded).cons rfl).cons rfl,
            nofun⟩
        · -- The retry sends the same status over the fresh metadata.
          refine (ih hread.cons.cons { fresh with status := migration.status }
            ((hwrite.cons rfl).cons rfl)
            (hrests.mono (subset_cons_of_subset _ (subset_cons_self _ _)))).mono
            fun result log' _ ⟨hstatus, hstart, hseen⟩ => ⟨hstatus, fun hunlanded => ?_, hseen⟩
          exact hstart (((Start.mk hread hunlanded).cons rfl).cons rfl).unlanded
      · exact ⟨rfl, fun hunlanded => (Start.mk hread hunlanded).cons rfl, nofun⟩
    · exact ⟨rfl, fun hunlanded => (Start.mk hread hunlanded).cons rfl,
        fun _ => .written (.head _)⟩

variable (h : Start key log v)
include h

theorem updateStatus_conforms (migration : VMMigration) (hmoves : Moves v log migration.status)
    (hrests : Rests r v log migration.status) :
    (updateStatus migration).Obeys (Conforms r key)
      (fun result log' => result.1.status = migration.status ∧ Start key log' v ∧
        (result.2 = none → Seen log' result.1.objectMeta result.1.spec)) log :=
  (updateStatusLoop_conforms h.read 3 migration (.inl ⟨h.unlanded, hmoves⟩) hrests).mono
    fun _ _ _ ⟨hstatus, hstart, hseen⟩ => ⟨hstatus, hstart h.unlanded, hseen⟩

theorem persist_conforms (hmoves : Moves v log status) (hrests : Rests r v log status) :
    (persist migration status result).Heeds (Conforms r key) log := by
  refine (updateStatus_conforms h { migration with status } hmoves hrests).bind ?_
  rintro ⟨written, _ | err⟩ log' - - <;> trivial

/-- Recording the response that just arrived. -/
theorem persistLanded_conforms (hunderway : underway v.status.phase = true)
    (hentry : landed entry = true) (hlands : Lands v entry status) :
    (persist migration status result).Heeds (Conforms r key) (entry :: log) := by
  have honly : OnlyLanded entry (entry :: log) := by
    refine ⟨.head _, forall_mem_cons.mpr ⟨fun _ => rfl, ?_⟩⟩
    intro other hother hlanded
    rw [h.unlanded other hother] at hlanded
    cases hlanded
  refine (updateStatusLoop_conforms h.read.cons 3 { migration with status }
    (.inr ⟨entry, honly, hentry, hlands⟩) (.of_untied (untied_of_underway hunderway))).bind ?_
  rintro ⟨written, _ | err⟩ log' - - <;> trivial

theorem transitionToFailed_conforms {message : String}
    (hactive : activePhase v.status.phase = true) (hbase : Base v migration.status)
    (hrests : ∀ now, Rests r v log (failed migration.status message now)) :
    (transitionToFailed migration message).Heeds (Conforms r key) log :=
  h.step ⟨trivial, trivial, trivial⟩ (fun _ => rfl) fun now h =>
    persist_conforms h (.failed message now hactive hbase)
      ((hrests now).mono (subset_cons_self _ _))

theorem Start.writes (hunderway : underway v.status.phase = true) (hmoves : Moves v log status) :
    (persist migration status result).Heeds (Conforms r key) log :=
  persist_conforms h hmoves (.of_untied (untied_of_underway hunderway))

theorem Start.fails (hunderway : underway v.status.phase = true) {message : String} :
    (transitionToFailed v message).Heeds (Conforms r key) log := by
  have hactive : activePhase v.status.phase = true := by
    cases hphase : v.status.phase <;> rw [hphase] at hunderway <;> first | rfl | cases hunderway
  exact transitionToFailed_conforms h hactive .read fun _ =>
    .of_untied (untied_of_underway hunderway)

end Writing

end Virtrigaud.Migration
