import Virtrigaud.Migration.Protocol

/-!
# What cleaning up calls

The functions that remove a staged file, a claim, a snapshot or a VirtualMachine, each with what
it calls and how it ends. The rules of the later modules are read off from here.
-/

namespace Virtrigaud.Migration

open Effects Program List Option

/-- The object in memory afterwards: unchanged but for a forgotten snapshot. -/
def Forgets (before after : VMMigration) : Prop :=
  ∃ snapshotID, (snapshotID = before.status.snapshotID ∨ snapshotID = "") ∧
    after = { before with status := { before.status with snapshotID } }

theorem Forgets.refl (migration : VMMigration) : Forgets migration migration :=
  ⟨migration.status.snapshotID, .inl rfl, rfl⟩

/-- The call succeeded; a poll found its task complete and without error. -/
def answered : LogEntry → Bool
  | ⟨.getVirtualMachine _, .error _⟩ | ⟨.getProvider _, .error _⟩ => false
  | ⟨.getProviderInstance _, some _⟩ | ⟨.newStorage _, some _⟩ => false
  | ⟨.snapshotDelete _ _ _, .error _⟩ | ⟨.taskStatus _ _, .error _⟩ => false
  | ⟨.deleteVirtualMachine _, some _⟩ | ⟨.statusUpdate _, .error _⟩ => false
  | ⟨.isTaskComplete _ _, answer⟩ => decide (answer = .ok true)
  | ⟨.taskStatus _ _, .ok taskStatus⟩ => decide (taskStatus.error = "")
  | _ => true

variable (v : VMMigration) (log : List LogEntry)

/-- The source and its provider are found when they are asked for. -/
def resolved : LogEntry → Bool
  | ⟨.getVirtualMachine name, .error _⟩ => decide (name ≠ sourceKey v)
  | ⟨.getProvider _, .error _⟩ => false
  | ⟨.getProviderInstance _, some _⟩ => false
  | _ => true

/-- The deletion of the snapshot was asked for. -/
def AsksDeletion (snapshotID : String) (log : List LogEntry) : Prop :=
  ∃ provider vmId answer, ⟨.snapshotDelete provider vmId snapshotID, answer⟩ ∈ log

/-- The source was found. -/
def FoundSource : Prop :=
  ∃ sourceVM, ⟨.getVirtualMachine (sourceKey v), .ok sourceVM⟩ ∈ log

/-- Since `before`, no snapshot was deleted and no task seen to its end. -/
def Fresh (before log : List LogEntry) : Prop :=
  ∀ entry ∈ log, entry ∈ before ∨ unpolled entry.1 = true

/-- When a clean-up of `v` that starts from the log `before` makes a call. -/
def Cleans (before log : List LogEntry) : Call → Prop
  | .newStorage _ | .storageDelete _ _ | .getPVC _ | .getVirtualMachine _ | .getProvider _
  | .getProviderInstance _ | .pollDeadline => True
  | .deletePVC pvc => v.objectMeta.deletionTimestamp.isSome = true ∧
      v.status.storagePVCName ≠ "" ∧
      ⟨.getPVC ⟨v.objectMeta.ns, v.status.storagePVCName⟩, .ok pvc⟩ ∈ log
  | .snapshotDelete provider vmId snapshotId => cleanupAllowed v = true ∧ ownsSnapshot v = true ∧
      Fresh before log ∧ snapshotId = v.status.snapshotID ∧ SourceProvider v log provider ∧
      ∃ sourceVM, ⟨.getVirtualMachine (sourceKey v), .ok sourceVM⟩ ∈ log ∧
        vmId = sourceVM.status.id
  | .isTaskComplete provider task | .taskStatus provider task =>
      ∃ vmId, ⟨.snapshotDelete provider vmId v.status.snapshotID, .ok task⟩ ∈ log
  | _ => False

/-- When the deletion of `v` removes the target and gives the object up. -/
def Releases : Call → Prop
  | .deleteVirtualMachine vm => ⟨.getVirtualMachine (targetKey v), .ok vm⟩ ∈ log ∧
      vm.objectMeta.annotations.lookup "virtrigaud.io/migration" = some (migrationRefText v)
  | .updateMigration migration => migration.spec = v.spec ∧
      ∃ finalizers, migration.objectMeta = { v.objectMeta with finalizers := finalizers }
  | _ => False

/-- What the log is once the source and its provider are resolved. -/
theorem sourceProvider_resolved (sourceVM : VirtualMachine) (found : Provider) (entry : LogEntry) :
    SourceProvider v
      (entry :: ⟨.getProvider ((sourceProviderRef v sourceVM).key v.objectMeta.ns), .ok found⟩ ::
        ⟨.getVirtualMachine (sourceKey v), .ok sourceVM⟩ :: log) found.objectMeta.key :=
  ⟨sourceVM, found, by simp, by simp, rfl⟩

section Steps

variable {log before : List LogEntry} (r : Reconciler) {v : VMMigration}

theorem Fresh.refl : Fresh log log := fun _ => .inl

theorem Fresh.cons {entry : LogEntry} (h : Fresh before log) (hentry : unpolled entry.1 = true) :
    Fresh before (entry :: log) := forall_mem_cons.mpr ⟨.inr hentry, h⟩

/-- The last call was not answered as the others were to be. -/
theorem of_head_false {P : LogEntry → Bool} {entry : LogEntry} {Q : Prop} (hentry : P entry = false)
    (hall : ∀ e ∈ entry :: log, P e = true) : Q := by
  rw [hall entry mem_cons_self] at hentry
  cases hentry

theorem cleanupIntermediateStorage_cleans (hfresh : Fresh before log) :
    (r.cleanupIntermediateStorage v).Obeys (Cleans v before)
      (fun err log' => (err = none → Swept r v log') ∧
        ((∀ entry ∈ log', answered entry = true) → err = none) ∧ Fresh before log') log := by
  unfold Reconciler.cleanupIntermediateStorage
  split
  · rename_i hnone
    refine ⟨fun _ _ storage url hstorage => ?_, fun _ => rfl, hfresh⟩
    rw [hnone] at hstorage
    cases hstorage
  rename_i storage hsome
  refine obeys_perform trivial ?_
  rintro (_ | err)
  swap
  · exact ⟨fun heq => (nomatch heq), of_head_false rfl, hfresh.cons rfl⟩
  dsimp only
  split
  · rename_i hurl
    refine ⟨fun _ _ _ url _ hurl' => ?_, fun _ => rfl, hfresh.cons rfl⟩
    rw [hurl] at hurl'
    cases hurl'
  · rename_i exportURL hurl
    refine obeys_perform trivial fun answer => ⟨fun _ _ storage' url hstorage hurl' => ?_,
      fun _ => rfl, (hfresh.cons rfl).cons rfl⟩
    rw [hsome] at hstorage
    rw [hurl] at hurl'
    cases hstorage
    cases hurl'
    exact ⟨answer, .head _⟩

theorem cleanupStagedFile_cleans (hfresh : Fresh before log) :
    (r.cleanupStagedFile v).Obeys (Cleans v before) (fun _ => Fresh before) log := by
  unfold Reconciler.cleanupStagedFile
  split
  · exact hfresh
  · exact (cleanupIntermediateStorage_cleans r hfresh).bind fun _ _ _ hafter => hafter.2.2

theorem deleteClaim_cleans (hdeleted : v.objectMeta.deletionTimestamp.isSome = true)
    (hfresh : Fresh before log) :
    (deleteClaim v).Obeys (Cleans v before) (fun _ => Fresh before) log := by
  unfold deleteClaim
  split
  · exact hfresh
  refine obeys_perform trivial ?_
  rintro (err | pvc)
  · exact hfresh.cons rfl
  · refine obeys_perform ⟨hdeleted, ‹_›, .head _⟩ fun _ => ?_
    exact (hfresh.cons rfl).cons rfl

/-- A poll that finds the task complete ends the wait. -/
theorem awaitTask_cleans {provider : ObjectKey} {vmId task : String}
    (hdeleted : ⟨.snapshotDelete provider vmId v.status.snapshotID, .ok task⟩ ∈ log)
    (polls : Nat) :
    (awaitTask provider task polls).Obeys (Cleans v before)
      (fun ended log' => polls ≠ 0 → (∀ entry ∈ log', answered entry = true) → ended = true)
      log := by
  induction polls generalizing log with
  | zero => exact fun hpolls => absurd rfl hpolls
  | succ polls ih =>
    refine obeys_perform ⟨vmId, hdeleted⟩ fun answer => ?_
    split
    · exact fun _ _ => rfl
    rename_i hincomplete
    have hafter : ∀ log', (⟨.isTaskComplete provider task, answer⟩ :: log) <:+ log' →
        ¬ ∀ entry ∈ log', answered entry = true := by
      intro log' hlog hanswered
      exact hincomplete (of_decide_eq_true (hanswered _ (hlog.subset (.head _))))
    refine obeys_perform trivial fun expired => ?_
    split
    · exact fun _ hanswered => absurd hanswered (hafter _ (suffix_cons _ _))
    · refine (ih (.tail _ (.tail _ hdeleted))).mono ?_
      exact fun _ log' hlog _ _ hanswered =>
        absurd hanswered (hafter log' ((suffix_cons _ _).trans hlog))

theorem deleteSourceSnapshot_cleans (hallowed : cleanupAllowed v = true)
    (howns : ownsSnapshot v = true) (hfresh : Fresh before log) :
    (deleteSourceSnapshot v).Obeys (Cleans v before)
      (fun result log' => Forgets v result.1 ∧
        ((∀ entry ∈ log', answered entry = true) → result.2 = none) ∧
        ((∀ entry ∈ log', resolved v entry = true) → AsksDeletion v.status.snapshotID log'))
      log := by
  have hsame : Forgets v v := .refl v
  refine obeys_perform trivial ?_
  rintro (err | sourceVM)
  · exact ⟨hsame, of_head_false rfl,
      of_head_false (by simp [resolved])⟩
  refine obeys_perform trivial ?_
  rintro (err | sourceProvider)
  · exact ⟨hsame, of_head_false rfl,
      of_head_false rfl⟩
  refine obeys_perform trivial ?_
  rintro (_ | err)
  swap
  · exact ⟨hsame, of_head_false rfl,
      of_head_false rfl⟩
  refine obeys_perform ⟨hallowed, howns, ((hfresh.cons rfl).cons rfl).cons rfl, rfl,
    sourceProvider_resolved v log _ _ _, sourceVM, by simp, rfl⟩ fun answer => ?_
  -- from here on the deletion is in the log
  have hasks : ∀ log', (⟨.snapshotDelete sourceProvider.objectMeta.key sourceVM.status.id
      v.status.snapshotID, answer⟩ : LogEntry) ∈ log' → (∀ entry ∈ log', resolved v entry = true) →
      AsksDeletion v.status.snapshotID log' := fun _ hmem _ => ⟨_, _, answer, hmem⟩
  rcases answer with err | taskRef
  · exact ⟨hsame, of_head_false rfl,
      hasks _ (.head _)⟩
  dsimp only
  split
  · exact ⟨⟨"", .inr rfl, rfl⟩, fun _ => rfl, hasks _ (.head _)⟩
  refine (awaitTask_cleans (.head _) 41).bind ?_
  rintro (_ | _) log' hlog hended
  · exact ⟨hsame, fun hanswered => absurd (hended (by decide) hanswered) (by decide),
      hasks _ (hlog.subset (.head _))⟩
  have hmem := hlog.subset (.head _)
  refine obeys_perform ⟨_, hmem⟩ ?_
  rintro (err | taskStatus)
  · exact ⟨hsame, of_head_false rfl,
      hasks _ (.tail _ hmem)⟩
  dsimp only
  split
  · rename_i herror
    exact ⟨hsame, fun hanswered =>
      absurd (of_decide_eq_true (hanswered _ (.head _))) herror,
      hasks _ (.tail _ hmem)⟩
  · exact ⟨⟨"", .inr rfl, rfl⟩, fun _ => rfl, hasks _ (.tail _ hmem)⟩

theorem cleanupArtifacts_cleans :
    (r.cleanupArtifacts v).Obeys (Cleans v log)
      (fun result log' =>
        (∀ after performed, result = some (after, performed) →
          Forgets v after ∧ Swept r v log' ∧ performed = (cleanupAllowed v &&
            (v.spec.storage.isSome || ownsSnapshot v))) ∧
        ((∀ entry ∈ log', answered entry = true) → result ≠ none)) log := by
  unfold Reconciler.cleanupArtifacts
  split
  · rename_i hdenied
    refine ⟨?_, fun _ => some_ne_none _⟩
    rintro after performed ⟨⟩
    exact ⟨.refl v, fun hallowed => absurd hallowed hdenied, by simp [hdenied]⟩
  rename_i hallowed
  rw [not_not] at hallowed
  refine (cleanupIntermediateStorage_cleans r Fresh.refl).bind ?_
  rintro (_ | err) log' - ⟨hswept, hnone, hfresh⟩
  swap
  · exact ⟨fun _ _ heq => (nomatch heq), fun hanswered => nomatch hnone hanswered⟩
  dsimp only
  split
  · rename_i howns
    refine (deleteSourceSnapshot_cleans hallowed howns hfresh).bind ?_
    rintro ⟨after, _ | err⟩ log'' hlog ⟨hforgets, hdone, -⟩
    · refine ⟨?_, fun _ => some_ne_none _⟩
      rintro after performed ⟨⟩
      exact ⟨hforgets, (hswept rfl).mono hlog.subset, by simp [hallowed, howns]⟩
    · exact ⟨fun _ _ heq => (nomatch heq), fun hanswered => nomatch hdone hanswered⟩
  · rename_i howns
    refine ⟨?_, fun _ => some_ne_none _⟩
    rintro after performed ⟨⟩
    exact ⟨.refl v, hswept rfl, by simp [hallowed, howns]⟩

theorem cleanupSnapshotOnTerminalFailure_cleans (hfresh : Fresh before log) :
    (cleanupSnapshotOnTerminalFailure v).Obeys (Cleans v before)
      (fun after log' => Forgets v after ∧ (cleanupAllowed v = true → ownsSnapshot v = true →
        (∀ entry ∈ log', resolved v entry = true) → AsksDeletion v.status.snapshotID log'))
      log := by
  unfold cleanupSnapshotOnTerminalFailure
  split
  · rename_i hboth
    obtain ⟨hallowed, howns⟩ := Bool.and_eq_true_iff.mp hboth
    exact (deleteSourceSnapshot_cleans hallowed howns hfresh).bind fun result _ _ hafter =>
      ⟨hafter.1, fun _ _ => hafter.2.2⟩
  · rename_i hboth
    exact ⟨.refl v, fun hallowed howns => absurd (by rw [hallowed, howns]; rfl) hboth⟩

theorem deletePartialTarget_releases {migration : VMMigration} (hforgets : Forgets v migration) :
    (deletePartialTarget migration).Heeds
      (fun log c => Cleans v before log c ∨ Releases v log c) log := by
  obtain ⟨snapshotID, -, rfl⟩ := hforgets
  unfold deletePartialTarget
  repeat' first
    | trivial
    | refine obeys_perform (.inl trivial) fun _ => ?_
    | refine obeys_perform (.inr ⟨.head _, ‹_›⟩) fun _ => ?_
    | split
    | dsimp only

/-- A migration that is deleted removes what it left behind, and ends with the finalizer. -/
theorem handleDeletion_cleans (hdeleted : v.objectMeta.deletionTimestamp.isSome = true) :
    (r.handleDeletion v).Obeys (fun log' c => Cleans v log log' c ∨ Releases v log' c)
      (fun _ log' => cleanupAllowed v = true → ownsSnapshot v = true →
        (∀ entry ∈ log', resolved v entry = true) → AsksDeletion v.status.snapshotID log')
      log := by
  refine ((cleanupStagedFile_cleans r Fresh.refl).weaken fun _ _ => .inl).bind
    fun _ log₁ _ hfresh₁ => ?_
  refine ((deleteClaim_cleans hdeleted hfresh₁).weaken fun _ _ => .inl).bind
    fun _ log₂ _ hfresh₂ => ?_
  refine ((cleanupSnapshotOnTerminalFailure_cleans hfresh₂).weaken fun _ _ => .inl).bind
    fun migration log₃ _ ⟨hforgets, hasks⟩ => ?_
  refine (deletePartialTarget_releases hforgets).bind fun _ log₄ hlog₄ _ => ?_
  obtain ⟨snapshotID, -, rfl⟩ := hforgets
  refine obeys_perform (.inr ⟨rfl, _, rfl⟩) fun answer hallowed howns hresolved => ?_
  obtain ⟨provider, vmId, answer, hmem⟩ := hasks hallowed howns fun entry hentry =>
    hresolved entry (.tail _ (hlog₄.subset hentry))
  exact ⟨provider, vmId, answer, .tail _ (hlog₄.subset hmem)⟩

/-- The source is deleted as it was found. -/
theorem deleteSourceIfAsked_deletes (migration : VMMigration) :
    (deleteSourceIfAsked migration).Obeys
      (fun log c => (∃ name, c = .getVirtualMachine name) ∨
        ∃ vm, c = .deleteVirtualMachine vm ∧ migration.spec.source.deleteAfterMigration = true ∧
          ⟨.getVirtualMachine (sourceKey migration), .ok vm⟩ ∈ log)
      (fun err log' => (migration.spec.source.deleteAfterMigration = true → err = none →
          FoundSource migration log') ∧
        ((∀ entry ∈ log', answered entry = true) → err = none)) log := by
  unfold deleteSourceIfAsked deleteSourceVM
  split
  · refine obeys_perform (.inl ⟨_, rfl⟩) ?_
    rintro (err | sourceVM)
    · exact ⟨fun _ heq => (nomatch heq), of_head_false rfl⟩
    refine obeys_perform (.inr ⟨sourceVM, rfl, ‹_›, .head _⟩) fun err =>
      ⟨fun _ _ => ⟨sourceVM, .tail _ (.head _)⟩, fun hanswered => ?_⟩
    cases err with
    | none => rfl
    | some err => exact of_head_false rfl hanswered
  · rename_i hkept
    exact ⟨fun hasked => absurd hasked hkept, fun _ => rfl⟩

end Steps

end Virtrigaud.Migration
