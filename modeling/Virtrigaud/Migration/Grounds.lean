import Virtrigaud.Migration.Validation

/-!
# Validation keeps to it

The Validating phase, one lemma per function and following its branches: its claim, the
power-off of the source, and the status it ends with.
-/

namespace Virtrigaud.Migration

open Effects Program

/-- The object in memory while a version in the Validating phase is worked on. -/
structure Holding (v : VMMigration) (log : List LogEntry) (migration : VMMigration) : Prop where
  seen : Seen log migration.objectMeta migration.spec
  phase : migration.status.phase = .validating
  claim : migration.status.storagePVCName = v.status.storagePVCName ∨
    Claims v log migration.status.storagePVCName

/-- A reconcile that works on it and has landed no long operation yet. -/
structure Validating (key : ObjectKey) (log : List LogEntry) (v migration : VMMigration) : Prop
    extends Start key log v, Holding v log migration where
  base : Base v migration.status

theorem named_of_phase {status : VMMigrationStatus}
    (h : status.phase = .validating ∨ status.phase = .failed) : Named status := by
  rcases h with h | h <;> rintro (hphase | hphase) <;> rw [h] at hphase <;> cases hphase

section Validating

variable {key : ObjectKey} {log log' : List LogEntry} {v migration : VMMigration}
  {r : Reconciler} {status : VMMigrationStatus}

section

variable (h : Validating key log v migration)
include h

theorem Validating.validating :
    v.status.phase = .validating := h.base.phase.symm.trans h.phase

theorem Validating.active : activePhase v.status.phase = true := by
  rw [h.validating]
  rfl

theorem Validating.next (hlog : log <:+ log') (hstart : Start key log' v) :
    Validating key log' v migration :=
  { hstart with
    seen := h.seen.mono hlog.subset
    phase := h.phase
    claim := h.claim.imp_right (·.mono hlog.subset)
    base := h.base }

/-- A call of a reconcile that validates. -/
theorem Validating.step {α : Type} {c : Call} {f : Answer c → M α}
    {post : α → List LogEntry → Prop} (hc : Conforms r key log c)
    (hentry : ∀ answer, landed ⟨c, answer⟩ = false)
    (hf : ∀ answer, Validating key (⟨c, answer⟩ :: log) v migration →
      (f answer).Obeys (Conforms r key) post (⟨c, answer⟩ :: log)) :
    (ask c >>= f).Obeys (Conforms r key) post log :=
  h.toStart.step hc hentry fun answer hstart => hf answer (h.next (List.suffix_cons _ _) hstart)

theorem Validating.aside {α : Type} {p : M α} (honly : p.Only (aside · = true)) :
    p.Obeys (Conforms r key) (fun _ log' => Validating key log' v migration) log :=
  (h.toStart.aside honly).mono fun _ _ hlog hstart => h.next hlog hstart

/-- A status that stays in the Validating phase, or fails, with the claim in memory. -/
theorem Validating.rests (hphase : status.phase = .validating ∨ status.phase = .failed)
    (hclaim : status.storagePVCName = migration.status.storagePVCName) :
    Rests r v log status where
  grounded _ := by
    refine ⟨fun hleaves => ?_, hclaim ▸ h.claim⟩
    rcases hphase with hphase | hphase <;> rw [hphase] at hleaves <;>
      rcases hleaves with hleaves | hleaves <;> cases hleaves
  named _ _ := named_of_phase hphase
  swept hready := by
    rw [h.validating] at hready
    cases hready

theorem Validating.fails (message : String) :
    (transitionToFailed migration message).Heeds (Conforms r key) log :=
  transitionToFailed_conforms h.toStart h.active h.base fun _ => h.rests (.inr rfl) rfl

/-- Ending a part of validation in Failed. -/
theorem Validating.stops (message : String) {post : Flow → List LogEntry → Prop}
    (hpost : ∀ result log, post (.stop result) log) :
    (do return .stop (← transitionToFailed migration message) : M Flow).Obeys (Conforms r key) post
      log := (h.fails message).bind fun result log' _ _ => hpost result log'

end

theorem migrationPVC_name_ne (migration : VMMigration) (pvcConfig : PVCStorageConfig) :
    (migrationPVC migration pvcConfig).objectMeta.name ≠ "" := by
  intro heq
  have hlength := congrArg String.length heq
  simp [migrationPVC, String.length_append] at hlength

theorem ensureMigrationPVC_conforms (h : Validating key log v v) :
    (r.ensureMigrationPVC v).Obeys (Conforms r key)
      (fun result log' => Validating key log' v v ∧
        ∀ name, result = .ok name → Claims v log' name ∧ name ≠ "") log := by
  unfold Reconciler.ensureMigrationPVC
  split
  · exact ⟨h, nofun⟩
  rename_i pvcConfig hconfig
  split
  · refine h.step ⟨trivial, trivial, trivial⟩ (fun _ => rfl) ?_
    rintro (err | pvc) h
    · dsimp only
      split <;> exact ⟨h, nofun⟩
    · refine ⟨h, ?_⟩
      rintro name ⟨⟩
      exact ⟨.named hconfig ‹_› (.head _), ‹_›⟩
  rename_i hunnamed
  have hunnamed : pvcConfig.name = "" := not_not.mp hunnamed
  refine h.step ⟨trivial, trivial, trivial⟩ (fun _ => rfl) ?_
  rintro (err | pvc) h
  swap
  · refine ⟨h, ?_⟩
    rintro name ⟨⟩
    exact ⟨.found hconfig hunnamed (.head _), migrationPVC_name_ne v pvcConfig⟩
  dsimp only
  split
  · exact ⟨h, nofun⟩
  split
  · exact ⟨h, nofun⟩
  refine h.step ⟨trivial, ⟨v, pvcConfig, h.read, h.validating, hconfig, hunnamed, rfl⟩, trivial⟩
    (fun _ => rfl) ?_
  rintro (_ | err) h
  swap
  · exact ⟨h, nofun⟩
  refine (h.aside (triggerProviderReconciliation_aside v)).bind fun _ log' hlog h => ⟨h, ?_⟩
  rintro name ⟨⟩
  exact ⟨.created hconfig hunnamed (hlog.subset (.head _)),
    migrationPVC_name_ne v pvcConfig⟩

theorem recordClaim_conforms (h : Validating key log v v) {pvcName : String}
    (hclaims : Claims v log pvcName) (hname : pvcName ≠ "") :
    (recordClaim v pvcName).Obeys (Conforms r key)
      (fun result log' => result.2 = none → Validating key log' v result.1 ∧
        result.1.status.storagePVCName ≠ "") log := by
  unfold recordClaim
  split
  · rename_i hnone
    have hkept : Rests r v log v.status := h.rests (.inl h.phase) rfl
    have hrests : Rests r v log (storageRecorded v.status pvcName) :=
      ⟨fun hphase => ⟨(hkept.grounded hphase).leaves, .inr hclaims⟩,
        fun _ _ => named_of_phase (.inl h.phase), hkept.swept⟩
    refine (updateStatus_conforms h.toStart { v with status := storageRecorded v.status pvcName }
      (.storageRecorded pvcName h.phase hnone) hrests).mono ?_
    rintro ⟨written, err⟩ log' hlog ⟨hstatus, hstart, hseen⟩ hwritten
    rw [hstatus]
    refine ⟨{ hstart with
      seen := hseen hwritten
      phase := ?_
      claim := ?_
      base := ?_ }, hname⟩ <;> rw [hstatus]
    · exact h.phase
    · exact .inr (hclaims.mono hlog.subset)
    · exact .claimed pvcName h.phase hnone
  · exact fun _ => ⟨h, ‹_›⟩

/-- What a part of validation leaves to the next one; a claim that is staged on is on record. -/
def Passes (key : ObjectKey) (v : VMMigration) : Flow → List LogEntry → Prop
  | .stop _, _ => True
  | .next migration, log => Validating key log v migration ∧
      (stagesOnClaim v.objectMeta.deletionTimestamp v.spec = true →
        migration.status.storagePVCName ≠ "")

theorem validateClaim_conforms (h : Validating key log v v)
    (sourceProvider targetProvider : Provider) :
    (r.validateClaim v sourceProvider targetProvider).Obeys (Conforms r key) (Passes key v)
      log := by
  have hstop : ∀ result log, Passes key v (.stop result) log := fun _ _ => trivial
  unfold Reconciler.validateClaim
  dsimp only
  split
  · exact h.stops _ hstop
  refine (ensureMigrationPVC_conforms h).bind ?_
  rintro (err | pvcName) log₁ - ⟨h, hclaims⟩
  · exact h.stops _ hstop
  refine (recordClaim_conforms h (hclaims pvcName rfl).1 (hclaims pvcName rfl).2).bind ?_
  rintro ⟨migration, _ | err⟩ log₂ - hrecorded
  swap
  · trivial
  obtain ⟨h, hname⟩ := hrecorded rfl
  refine (h.aside (migrationProvidersMounted_aside sourceProvider targetProvider pvcName)).bind ?_
  rintro (err | ⟨_ | _, reason⟩) log₃ - h
  · exact h.stops _ hstop
  · refine (h.aside (migrationMountDeadlineExceeded_aside migration pvcName)).bind ?_
    rintro (err | _ | _) log₄ - h
    · exact h.stops _ hstop
    · have hrests : Rests r v log₄ (mountWaits migration.status reason) :=
        h.rests (.inl h.phase) rfl
      exact (persist_conforms h.toStart (.mountWaits reason h.validating h.base) hrests).bind
        fun _ _ _ _ => trivial
    · exact h.stops _ hstop
  · exact ⟨h, fun _ => hname⟩

theorem migrationBackendType_of_stagesOnClaim
    (h : stagesOnClaim v.objectMeta.deletionTimestamp v.spec = true) :
    migrationBackendType v = backendPVC := by
  simp only [stagesOnClaim, Bool.and_eq_true, Option.any_eq_true, decide_eq_true_eq] at h
  obtain ⟨⟨storage, hstorage, htype⟩, -⟩ := h
  unfold migrationBackendType
  rcases htype with htype | htype <;> simp [hstorage, htype, backendPVC]

theorem validateStorage_conforms (h : Validating key log v v)
    (sourceProvider targetProvider : Provider) :
    (r.validateStorage v sourceProvider targetProvider).Obeys (Conforms r key) (Passes key v)
      log := by
  have hstop : ∀ result log, Passes key v (.stop result) log := fun _ _ => trivial
  have hother {backend : String} (hbackend : migrationBackendType v = backend)
      (hne : backend ≠ backendPVC) :
      stagesOnClaim v.objectMeta.deletionTimestamp v.spec = true → v.status.storagePVCName ≠ "" :=
    fun hspec => absurd (hbackend.symm.trans (migrationBackendType_of_stagesOnClaim hspec)) hne
  unfold Reconciler.validateStorage
  split
  · rename_i hnone
    exact ⟨h, fun hspec => by simp [stagesOnClaim, hnone] at hspec⟩
  split
  · exact h.stops _ hstop
  split
  · rename_i hbackend
    refine (h.aside (loadS3Credentials_aside v)).bind ?_
    rintro (err | creds) log' - h
    · exact h.stops _ hstop
    · exact ⟨h, hother hbackend (by decide)⟩
  · split
    · rename_i hbackend
      exact ⟨h, hother hbackend (by decide)⟩
    · exact validateClaim_conforms h sourceProvider targetProvider

theorem desirePowerOff_conforms (h : Validating key log v migration) (source : ObjectKey)
    {found : VirtualMachine} (hfound : ⟨.getVirtualMachine source, .ok found⟩ ∈ log) :
    (desirePowerOff found).Obeys (Conforms r key)
      (fun result log' => Validating key log' v migration ∧
        ∀ sourceVM, result = .ok sourceVM → DesiredOff log' source sourceVM) log := by
  unfold desirePowerOff
  split
  · refine h.step ⟨⟨v, source, h.read, h.validating, hfound⟩, trivial, trivial⟩ (fun _ => rfl)
      fun patched h => ⟨h, fun sourceVM hpatched => ?_⟩
    rw [hpatched]
    exact ⟨found, .tail _ hfound, .inr (.head _)⟩
  · refine ⟨h, ?_⟩
    rintro sourceVM ⟨⟩
    exact ⟨found, hfound, .inl ⟨rfl, not_not.mp ‹_›⟩⟩

theorem requestPowerOff_conforms (h : Validating key log v migration) (provider : ObjectKey)
    (id : String) (desc : DescribeResponse) :
    (requestPowerOff provider id desc).Obeys (Conforms r key)
      (fun _ log' => Validating key log' v migration) log := by
  unfold requestPowerOff
  split
  · exact h.step ⟨trivial, rfl, trivial⟩ (fun _ => rfl) fun _ h => h
  · exact h

/-- What powering off leaves: the object as it was and the source off, or a status that only says
that it waits. -/
def PowersOff (before : VMMigration) :
    VMMigration × Except GoError Bool → List LogEntry → Prop
  | (after, .ok true), log => after = before ∧ SourceOff before log
  | (_, .ok false), _ => True
  | (after, .error _), _ => after.status = before.status ∨ after.status = poweringOff before.status

section

variable (h : Validating key log v migration)
include h

theorem ensureSourcePoweredOff_conforms :
    (ensureSourcePoweredOff migration).Obeys (Conforms r key)
      (fun result log' => PowersOff migration result log' ∧ Validating key log' v migration)
      log := by
  refine h.step ⟨trivial, trivial, trivial⟩ (fun _ => rfl) ?_
  rintro (err | found) h
  · exact ⟨.inl rfl, h⟩
  dsimp only
  split
  · exact ⟨.inl rfl, h⟩
  refine (desirePowerOff_conforms h (sourceKey migration) (.head _)).bind ?_
  rintro (err | sourceVM) log₁ - ⟨h, hdesired⟩
  · exact ⟨.inl rfl, h⟩
  refine h.step ⟨trivial, trivial, trivial⟩ (fun _ => rfl) ?_
  rintro (err | sourceProvider) h
  · exact ⟨.inl rfl, h⟩
  refine h.step ⟨trivial, trivial, trivial⟩ (fun _ => rfl) ?_
  rintro (_ | err) h
  swap
  · exact ⟨.inl rfl, h⟩
  refine h.step ⟨trivial, trivial, trivial⟩ (fun _ => rfl) ?_
  rintro (err | desc) h
  · exact ⟨.inl rfl, h⟩
  dsimp only
  split
  · rename_i hoff
    obtain ⟨found, hfound, hdesiredOff⟩ := hdesired sourceVM rfl
    refine ⟨⟨rfl, sourceVM, _, desc, ⟨found, ?_, ?_⟩, .head _, hoff⟩, h⟩
    · exact .tail _ (.tail _ (.tail _ hfound))
    · exact hdesiredOff.imp_right fun hpatched =>
        .tail _ (.tail _ (.tail _ hpatched))
  refine (requestPowerOff_conforms h _ sourceVM.status.id desc).bind ?_
  rintro (err | task) log₂ - h
  · exact ⟨.inl rfl, h⟩
  have hrests : Rests r v log₂ (poweringOff migration.status) := h.rests (.inl h.phase) rfl
  refine (updateStatus_conforms h.toStart { migration with status := poweringOff migration.status }
    (.poweringOff h.validating h.base) hrests).bind ?_
  rintro ⟨written, _ | err⟩ log₃ hlog₃ ⟨hstatus, hstart, -⟩
  · exact ⟨trivial, h.next hlog₃ hstart⟩
  · exact ⟨.inr hstatus, h.next hlog₃ hstart⟩

section

variable
  (hname : stagesOnClaim v.objectMeta.deletionTimestamp v.spec = true →
    migration.status.storagePVCName ≠ "")
include hname

/-- The status validation ends with. -/
theorem Validating.validated_rests
    (hoff : migration.spec.source.powerOffBeforeMigration = true → SourceOff migration log) :
    Rests r v log (validated migration.status migration.spec.source.createSnapshot) := by
  have hclaim : (validated migration.status
      migration.spec.source.createSnapshot).storagePVCName = migration.status.storagePVCName := by
    unfold validated
    split <;> rfl
  refine ⟨fun _ => ⟨fun _ => ⟨migration, h.seen, ?_, hoff⟩, hclaim ▸ h.claim⟩,
    fun _ hspec _ => hclaim ▸ hname hspec, fun hready => ?_⟩
  · unfold validated
    split <;> rfl
  · rw [h.validating] at hready
    cases hready

theorem finishValidation_conforms :
    (finishValidation migration).Heeds (Conforms r key) log := by
  unfold finishValidation
  split
  · refine (ensureSourcePoweredOff_conforms h).bind ?_
    rintro ⟨after, err | _ | _⟩ log' - ⟨hafter, h⟩
    · refine h.step ⟨trivial, trivial, trivial⟩ (fun _ => rfl) fun now h => ?_
      -- Failing replaces the message, which is all that powering off changed.
      have hfailed : ∀ message, failed after.status message now =
          failed migration.status message now := by
        intro message
        rcases hafter with hafter | hafter
        · rw [hafter]
        · rw [hafter]
          rfl
      rw [hfailed]
      exact persist_conforms h.toStart (.failed _ now h.active h.base) (h.rests (.inr rfl) rfl)
    · trivial
    · obtain ⟨rfl, hoff⟩ := hafter
      exact persist_conforms h.toStart (.validated _ h.validating h.base)
        (h.validated_rests hname fun _ => hoff)
  · exact persist_conforms h.toStart (.validated _ h.validating h.base)
      (h.validated_rests hname fun hasked => absurd hasked ‹_›)

end

end

theorem handleValidatingPhase_conforms (h : Validating key log v v) :
    (r.handleValidatingPhase v).Heeds (Conforms r key) log := by
  repeat' first
    | trivial
    | exact h.fails _
    | exact persist_conforms h.toStart (.validationWaits _ _ h.phase) (h.rests (.inl h.phase) rfl)
    | exact finishValidation_conforms (And.left ‹_›) (And.right ‹_›)
    | refine (validateStorage_conforms h _ _).bind fun _ _ _ _ => ?_
    | refine h.step ⟨trivial, trivial, trivial⟩ (fun _ => rfl) fun _ h => ?_
    | split
    | dsimp only

end Validating

end Virtrigaud.Migration
