import Virtrigaud.Clone.Once
import Virtrigaud.Migration.Validation
import Virtrigaud.Snapshot.Reconcile

/-!
# No failure is dropped

A reconcile that returns the empty result and no error is not repeated: the object is looked at
again only when it changes. `Mark` is what a call tells of the stored object, and a reconcile
that schedules nothing has to leave the object gone, in a terminal phase, or in another phase than
it was read in, which is a change. The controllers of one-shot jobs do so but for three places
where a refused status write is forgotten: the capability gate of a migration, `markFailed` of a
clone, and the write that blocks a snapshot.
-/

namespace Virtrigaud

open Effects Program

/-- Nothing is scheduled. -/
def Silent (ret : Return) : Prop := ret = ({}, none)

inductive Mark
  /-- The object does not exist any more. -/
  | gone
  /-- It was read or written in a terminal phase. -/
  | settled
  /-- It was written in another phase than the reconcile found it in. -/
  | advanced
  /-- It was read or written and there is more to do. -/
  | pending
  /-- A status write did not go through. -/
  | refused
  deriving DecidableEq, Repr

/-- Nothing is lost when this is the last that happened to the object. -/
def Mark.accounted : Mark → Bool
  | .gone | .settled | .advanced => true
  | .pending | .refused => false

section Marks

variable {Call : Type} {Answer : Call → Type} {α : Type} {mark : Event Call Answer → Option Mark}
  {log : List (Event Call Answer)}

variable (mark : Event Call Answer → Option Mark)

/-- The last event that tells something of the object leaves nothing to do. -/
def Accounted (log : List (Event Call Answer)) : Prop :=
  (log.findSome? mark).any Mark.accounted = true

/-- The status write that was made last did not go through. -/
def Refused (log : List (Event Call Answer)) : Prop :=
  log.findSome? mark = some .refused

/-- No answer to the call tells anything of the object. -/
def Unmarked (c : Call) : Prop := ∀ r, mark ⟨c, r⟩ = none

theorem obeys_of_unmarked (mark : Event Call Answer → Option Mark) {p : Program Call Answer α}
    {allowed : List (Event Call Answer) → Call → Prop}
    {post : α → List (Event Call Answer) → Prop} (h : p.Obeys allowed post log)
    (hcalls : ∀ log c, allowed log c → Unmarked mark c) :
    p.Obeys (fun _ _ => True)
      (fun a log' => post a log' ∧ log'.findSome? mark = log.findSome? mark) log := by
  induction p generalizing log with
  | done a => exact ⟨h, rfl⟩
  | call c next ih =>
    refine ⟨trivial, fun r => (ih r (h.2 r)).mono fun a log' _ ⟨hpost, hsame⟩ => ⟨hpost, ?_⟩⟩
    rw [hsame, List.findSome?_cons, hcalls log c h.1 r]

/-- Whatever is answered, an end that schedules nothing leaves such a log. -/
def Ends (resolved : List (Event Call Answer) → Prop) (p : Program Call Answer Return) : Prop :=
  ∀ log, p.Obeys (fun _ _ => True) (fun ret log' => Silent ret → resolved log') log

/-- Something is scheduled, or the reconcile fails, whatever is answered. -/
def Loud (p : Program Call Answer Return) : Prop := p.Returns fun ret => ¬ Silent ret

variable {resolved : List (Event Call Answer) → Prop}

theorem Loud.ends {p : Program Call Answer Return} (h : Loud p) : Ends resolved p := by
  intro log
  have hcalls : p.Only fun _ => True := only_of_forall fun _ => trivial
  refine (hcalls.obeys (R := fun _ => True) h trivial
    fun _ _ _ _ => ⟨trivial, fun _ => trivial⟩).mono ?_
  intro ret _ _ hpost hsilent
  exact absurd hsilent hpost.1

theorem ends_return {ret : Return} (h : ¬ Silent ret) :
    Ends resolved (pure ret : Program Call Answer Return) := fun _ hsilent => absurd hsilent h

/-- What the first part answers does not matter. -/
theorem ends_after {p : Program Call Answer α} {f : α → Program Call Answer Return}
    (hf : ∀ a, Ends resolved (f a)) : Ends resolved (p >>= f) := by
  intro log
  have hfirst : p.Heeds (fun _ _ => True) log :=
    obeys_of_always fun _ _ _ => trivial
  exact hfirst.bind fun a log' _ _ => hf a log'

end Marks

theorem not_silent_after {delay : Duration} (h : delay ≠ 0) :
    ¬ Silent (Result.after delay, none) := by
  intro hsilent
  simp [Silent, Result.after] at hsilent
  exact h hsilent

theorem not_silent_again : ¬ Silent (Result.again, none) := by
  simp [Silent, Result.again]

theorem not_silent_error {result : Result} {err : GoError} : ¬ Silent (result, some err) := by
  simp [Silent]

theorem containsFinalizer_removeFinalizer (m : ObjectMeta) (name : String) :
    (m.removeFinalizer name).containsFinalizer name = false := by
  simp [ObjectMeta.removeFinalizer, ObjectMeta.containsFinalizer]

end Virtrigaud

namespace Virtrigaud.Migration

open Effects Program

/-- The migration is complete, or failed and will not be retried. -/
def terminal (v : VMMigration) : Bool := v.status.phase = .ready || permanentlyFailed v

/-- What a call of a reconcile that found the phase `read` tells of the VMMigration. -/
def mark (read : MigrationPhase) : LogEntry → Option Mark
  | ⟨.getMigration _, .ok v⟩ => some (if terminal v then .settled else .pending)
  | ⟨.getMigration _, .error err⟩ => if err.reason = .notFound then some .gone else none
  | ⟨.statusUpdate v, .ok _⟩ =>
    some (if terminal v then .settled else if v.status.phase ≠ read then .advanced else .pending)
  | ⟨.statusUpdate _, .error _⟩ => some .refused
  | ⟨.updateMigration v, none⟩ =>
    some (if v.objectMeta.containsFinalizer finalizerName then .pending else .gone)
  | _ => none

/-- What a reconcile leaves that schedules nothing. -/
def Resolved (r : Reconciler) (read : MigrationPhase) (log : List LogEntry) : Prop :=
  Accounted (mark read) log ∨ r.enforceCapabilities = true ∧ Refused (mark read) log

variable {r : Reconciler} {read : MigrationPhase} {log : List LogEntry} {v : VMMigration}

/-- The status reached the store, or its write was refused, or the object has gone. -/
def Stored (read : MigrationPhase) (status : VMMigrationStatus) (err : Option GoError)
    (log : List LogEntry) : Prop :=
  if err = none then
    ∃ w : VMMigration, w.status = status ∧ ∃ stored older,
      log = ⟨.statusUpdate w, .ok stored⟩ :: older
  else Accounted (mark read) log ∨ Refused (mark read) log

theorem updateStatusLoop_stored (read : MigrationPhase) (attempts : Nat) (v : VMMigration)
    (log : List LogEntry) (h : attempts ≠ 0) :
    (updateStatusLoop attempts v).Obeys (fun _ _ => True)
      (fun out => Stored read v.status out.2) log := by
  induction attempts generalizing v log with
  | zero => exact absurd rfl h
  | succ attempts ih =>
    refine obeys_perform trivial fun answer => ?_
    cases answer with
    | ok stored => exact ⟨v, rfl, stored, log, rfl⟩
    | error err =>
      dsimp only
      split
      · rename_i hretry
        refine obeys_perform trivial fun answer => ?_
        cases answer with
        | ok fresh => exact ih _ _ hretry.2
        | error err' =>
          by_cases hmissing : err'.reason = .notFound
          · left
            simp [Accounted, mark, hmissing, Mark.accounted]
          · right
            simp only [Refused, List.findSome?_cons, mark, hmissing]
            rfl
      · exact .inr rfl

/-- A write of the last phase, or of another one than was read, is accounted for. -/
theorem Stored.accounted {status : VMMigrationStatus} (hstored : Stored read status none log)
    (h : status.phase = .ready ∨ status.phase ≠ read) : Accounted (mark read) log := by
  obtain ⟨w, rfl, stored, older, rfl⟩ := hstored
  unfold Accounted
  rw [List.findSome?_cons]
  rcases h with hready | hother
  · have hterminal : terminal w = true := by simp [terminal, hready]
    simp [mark, hterminal, Mark.accounted]
  · cases hterminal : terminal w <;> simp [mark, hterminal, hother, Mark.accounted]

theorem persist_ends {status : VMMigrationStatus} (result : Result)
    (h : status.phase = .ready ∨ status.phase ≠ read) :
    Ends (Resolved r read) (persist v status result) := by
  intro log
  refine (updateStatusLoop_stored read 3 _ log (by decide)).bind fun out log' _ hstored => ?_
  obtain ⟨after, err⟩ := out
  cases err with
  | some err => exact not_silent_error.elim
  | none => exact fun _ => .inl (hstored.accounted h)

/-- What the first part answers does not matter. -/
theorem returns_after {α β : Type} {p : M α} {f : α → M β} {Q : β → Prop}
    (hf : ∀ a, (f a).Returns Q) : (p >>= f).Returns Q :=
  (returns_true p).bind fun a _ => hf a

theorem persist_loud (status : VMMigrationStatus) {result : Result} (h : ¬ Silent (result, none)) :
    Loud (persist v status result) := by
  refine returns_after fun out => ?_
  obtain ⟨after, err⟩ := out
  cases err with
  | some err => exact not_silent_error
  | none => exact h

theorem transitionToFailed_loud (message : String) : Loud (transitionToFailed v message) :=
  returns_after fun _ => persist_loud _ not_silent_again

/-- Without its error, the result of `transitionToFailed` is empty when the write failed. -/
theorem transitionToFailed_result (read : MigrationPhase) (message : String) :
    (transitionToFailed v message).Obeys (fun _ _ => True) (fun ret log' =>
      Silent (ret.1, none) → Accounted (mark read) log' ∨ Refused (mark read) log') log := by
  refine obeys_perform trivial fun now => ?_
  refine (updateStatusLoop_stored read 3 _ _ (by decide)).bind fun out log' _ hstored => ?_
  obtain ⟨after, err⟩ := out
  cases err with
  | some err => exact fun _ => hstored
  | none => exact not_silent_again.elim

theorem gateProviderCapability_ends (read : MigrationPhase) (provider : ObjectKey)
    (supported : Capabilities → Bool) (message : String) :
    (r.gateProviderCapability v provider supported message).Obeys (fun _ _ => True)
      (fun refusal log' => ∀ result, refusal = some result →
        Silent (result, none) → Resolved r read log') log := by
  unfold Reconciler.gateProviderCapability
  split
  · exact nofun
  rename_i henforced
  have henforced : r.enforceCapabilities = true := by simpa using henforced
  refine obeys_perform trivial fun answer => ?_
  match answer with
  | none | some (.error _) => exact nofun
  | some (.ok caps) =>
    dsimp only
    split
    · exact nofun
    refine (transitionToFailed_result read message).bind fun ret log' _ hret => ?_
    rintro result ⟨rfl⟩ hsilent
    exact (hret hsilent).imp_right fun hrefused => ⟨henforced, hrefused⟩

theorem pollTask_ends (provider : ObjectKey) (op failure : String)
    {complete : VMMigrationStatus} (h : complete.phase = .ready ∨ complete.phase ≠ read) :
    Ends (Resolved r read) (pollTask provider v op failure complete) := by
  unfold pollTask
  repeat' first
    | exact persist_ends _ h
    | exact (transitionToFailed_loud _).ends
    | exact ends_return (not_silent_after (by decide))
    | refine ends_after fun _ => ?_
    | split

/-- The refusal of a provider that is not able to do what follows. -/
theorem gated_ends {provider : ObjectKey} {supported : Capabilities → Bool} {message : String}
    {f : Option Result → M Return} (hnone : Ends (Resolved r read) (f none))
    (hsome : ∀ result, f (some result) = pure (result, none)) :
    Ends (Resolved r read) (r.gateProviderCapability v provider supported message >>= f) := by
  intro log
  refine (gateProviderCapability_ends read _ _ _).bind fun refusal log' _ hgate => ?_
  cases refusal with
  | some result =>
    rw [hsome]
    exact hgate result rfl
  | none => exact hnone log'

theorem issueExport_ends (provider : ObjectKey) (sourceVM : VirtualMachine) :
    Ends (Resolved r .exporting) (r.issueExport v provider sourceVM) := by
  unfold Reconciler.issueExport
  repeat' first
    | exact (transitionToFailed_loud _).ends
    | exact (persist_loud _ (not_silent_after (by decide))).ends
    | exact persist_ends _ (.inr nofun)
    | exact ends_return (not_silent_after (by decide))
    | refine gated_ends ?_ fun _ => rfl
    | refine ends_after fun _ => ?_
    | split

theorem handleExportingPhase_ends : Ends (Resolved r .exporting) (r.handleExportingPhase v) := by
  repeat' first
    | exact (transitionToFailed_loud _).ends
    | exact pollTask_ends _ _ _ (.inr nofun)
    | exact issueExport_ends _ _
    | refine ends_after fun _ => ?_
    | split

theorem issueImport_ends (targetProvider : Provider) :
    Ends (Resolved r read) (r.issueImport v targetProvider) := by
  unfold Reconciler.issueImport
  repeat' first
    | exact (transitionToFailed_loud _).ends
    | exact (persist_loud _ (not_silent_after (by decide))).ends
    | exact ends_return (not_silent_after (by decide))
    | refine gated_ends ?_ fun _ => rfl
    | refine ends_after fun _ => ?_
    | split

theorem handleImportingPhase_ends : Ends (Resolved r .importing) (r.handleImportingPhase v) := by
  repeat' first
    | exact (transitionToFailed_loud _).ends
    | exact pollTask_ends _ _ _ (.inr nofun)
    | exact issueImport_ends _
    | refine ends_after fun _ => ?_
    | split

/-- A part of a handler that schedules something when it ends the handler. -/
def LoudStop (flow : Flow) : Prop := ∀ ret, flow = .stop ret → ¬ Silent ret

theorem loudStop_stop {ret : Return} (h : ¬ Silent ret) : LoudStop (.stop ret) := by
  rintro _ ⟨rfl⟩
  exact h

theorem loudStop_next : LoudStop (.next v) := nofun

theorem stop_loud {p : M Return} (h : Loud p) :
    (p >>= fun ret => pure (Flow.stop ret)).Returns LoudStop :=
  h.bind fun _ hret => loudStop_stop hret

theorem validateClaim_loud (sourceProvider targetProvider : Provider) :
    (r.validateClaim v sourceProvider targetProvider).Returns LoudStop := by
  unfold Reconciler.validateClaim
  repeat' first
    | exact stop_loud (transitionToFailed_loud _)
    | exact stop_loud (persist_loud _ (not_silent_after (by decide)))
    | exact loudStop_stop not_silent_error
    | exact loudStop_next
    | refine returns_after fun _ => ?_
    | split
    | dsimp only

theorem validateStorage_loud (sourceProvider targetProvider : Provider) :
    (r.validateStorage v sourceProvider targetProvider).Returns LoudStop := by
  unfold Reconciler.validateStorage
  repeat' first
    | exact stop_loud (transitionToFailed_loud _)
    | exact validateClaim_loud _ _
    | exact loudStop_next
    | refine returns_after fun _ => ?_
    | split

theorem finishValidation_loud : Loud (finishValidation v) := by
  unfold finishValidation
  repeat' first
    | exact transitionToFailed_loud _
    | exact persist_loud _ not_silent_again
    | exact not_silent_after (by decide)
    | refine returns_after fun _ => ?_
    | split

theorem validated_loud (sourceProvider targetProvider : Provider) :
    Loud (r.validateStorage v sourceProvider targetProvider >>= fun flow =>
      match flow with
      | .stop ret => pure ret
      | .next after => finishValidation after) := by
  refine (validateStorage_loud _ _).bind fun flow hflow => ?_
  cases flow with
  | stop ret => exact hflow ret rfl
  | next after => exact finishValidation_loud

theorem handleValidatingPhase_loud : Loud (r.handleValidatingPhase v) := by
  repeat' first
    | exact transitionToFailed_loud _
    | exact persist_loud _ (not_silent_after (by decide))
    | exact validated_loud _ _
    | refine returns_after fun _ => ?_
    | split
    | dsimp only

theorem handleSnapshottingPhase_loud : Loud (handleSnapshottingPhase v) := by
  repeat' first
    | exact transitionToFailed_loud _
    | exact persist_loud _ not_silent_again
    | exact persist_loud _ (not_silent_after (by decide))
    | refine returns_after fun _ => ?_
    | split

theorem handleCreatingPhase_loud : Loud (handleCreatingPhase v) := by
  repeat' first
    | exact transitionToFailed_loud _
    | exact persist_loud _ not_silent_again
    | exact persist_loud _ (not_silent_after (by decide))
    | exact not_silent_after (by decide)
    | refine returns_after fun _ => ?_
    | split

/-- What is left to retry is scheduled. -/
theorem handleFailedPhase_loud (hphase : v.status.phase = .failed)
    (hretry : permanentlyFailed v = false) :
    Loud (handleFailedPhase v) := by
  unfold handleFailedPhase
  unfold permanentlyFailed at hretry
  split
  · rename_i hpolicy
    simp [hphase, hpolicy] at hretry
  rename_i retryPolicy hpolicy
  split
  · rename_i hcount
    simp [hphase, hpolicy, hcount] at hretry
  refine returns_after fun now => ?_
  dsimp only
  split
  · rename_i hwait
    refine not_silent_after ?_
    cases hlast : v.status.lastRetryTime with
    | none => simp [hlast] at hwait
    | some last =>
      simp only [hlast, Option.map_some, Option.any_some, decide_eq_true_eq] at hwait
      exact fun hzero => absurd (Int.sub_eq_zero.mp hzero) (Int.ne_of_gt hwait)
  · exact persist_loud _ not_silent_again

theorem handleValidatingTargetPhase_ends :
    Ends (Resolved r read) (handleValidatingTargetPhase v) := by
  repeat' first
    | exact (transitionToFailed_loud _).ends
    | exact (persist_loud _ (not_silent_after (by decide))).ends
    | exact persist_ends _ (.inl rfl)
    | refine ends_after fun _ => ?_
    | split

theorem unmarked_of_cleans {before : List LogEntry} {c : Call} (h : Cleans v before log c) :
    Unmarked (mark read) c := by
  cases c <;> first | exact fun _ => rfl | cases h

/-- The clean-up of a complete migration may end with nothing done. -/
theorem handleReadyPhase_ends (hphase : v.status.phase = .ready)
    (hread : Accounted (mark read) log) :
    (r.handleReadyPhase v).Obeys (fun _ _ => True)
      (fun ret log' => Silent ret → Resolved r read log') log := by
  unfold Reconciler.handleReadyPhase
  split
  · exact fun _ => .inl hread
  refine (obeys_of_unmarked (mark read) (cleanupArtifacts_cleans r) fun _ _ =>
    unmarked_of_cleans).bind
    fun out log' _ hout => ?_
  match out with
  | none => exact (not_silent_after (by decide)).elim
  | some (after, performed) =>
    refine (obeys_of_unmarked (mark read) (deleteSourceIfAsked_deletes after) ?_).bind
      fun err log'' _ hsame => ?_
    · rintro _ _ (⟨name, rfl⟩ | ⟨vm, rfl, -⟩) <;> exact fun _ => rfl
    cases err with
    | some err => exact (not_silent_after (by decide)).elim
    | none =>
      dsimp only
      split
      · obtain ⟨⟨snapshotID, -, rfl⟩, -⟩ := hout.1.1 after performed rfl
        have hready : (cleanupComplete { v.status with snapshotID }).phase = .ready := hphase
        exact persist_ends _ (.inl hready) _
      · intro _
        left
        unfold Accounted at hread ⊢
        rw [hsame.2, hout.2]
        exact hread

theorem handleDeletion_ends : Ends (Resolved r read) (r.handleDeletion v) := by
  refine ends_after fun _ => ends_after fun _ => ends_after fun after => ends_after fun _ => ?_
  refine fun log => obeys_perform trivial fun answer => ?_
  cases answer with
  | some err => exact not_silent_error.elim
  | none => exact fun _ => .inl (by simp [Accounted, mark, containsFinalizer_removeFinalizer,
      Mark.accounted])

theorem handlePhase_ends (hretry : permanentlyFailed v = false)
    (hready : v.status.phase = .ready → Accounted (mark v.status.phase) log) :
    (r.handlePhase v).Obeys (fun _ _ => True)
      (fun ret log' => Silent ret → Resolved r v.status.phase log') log := by
  unfold Reconciler.handlePhase
  split <;> rename_i hphase
  · exact ends_return (not_silent_after (by decide)) log
  · exact (persist_loud _ not_silent_again).ends log
  · exact handleValidatingPhase_loud.ends log
  · exact handleSnapshottingPhase_loud.ends log
  · exact hphase ▸ handleExportingPhase_ends log
  · exact (persist_loud _ not_silent_again).ends log
  · exact (persist_loud _ not_silent_again).ends log
  · exact hphase ▸ handleImportingPhase_ends log
  · exact handleCreatingPhase_loud.ends log
  · exact handleValidatingTargetPhase_ends log
  · exact handleReadyPhase_ends hphase (hready hphase)
  · exact (handleFailedPhase_loud hphase hretry).ends log

/-- The phase the reconcile found: its first call reads the object. -/
def phaseRead (log : List LogEntry) : MigrationPhase :=
  match log.getLast? with
  | some ⟨.getMigration _, .ok v⟩ => v.status.phase
  | _ => .unset

theorem phaseRead_of_suffix {key : ObjectKey} (h : [⟨.getMigration key, .ok v⟩] <:+ log) :
    phaseRead log = v.status.phase := by
  obtain ⟨newer, rfl⟩ := h
  simp [phaseRead]

theorem reconcile_ends (key : ObjectKey) :
    (r.reconcile key).Obeys (fun _ _ => True)
      (fun ret log => Silent ret → Resolved r (phaseRead log) log) [] := by
  refine obeys_perform trivial fun answer => ?_
  cases answer with
  | error err =>
    dsimp only
    split
    · rename_i hmissing
      exact fun _ => .inl (by simp [Accounted, mark, hmissing, Mark.accounted])
    · exact not_silent_error.elim
  | ok v =>
    -- the phase the handlers are told is the one that was read
    have hread : ∀ {p : M Return}, p.Obeys (fun _ _ => True)
        (fun ret log => Silent ret → Resolved r v.status.phase log) [⟨.getMigration key, .ok v⟩] →
        p.Obeys (fun _ _ => True) (fun ret log => Silent ret → Resolved r (phaseRead log) log)
          [⟨.getMigration key, .ok v⟩] := by
      intro p hp
      refine hp.mono fun ret log hlog hresolved => ?_
      rw [phaseRead_of_suffix hlog]
      exact hresolved
    dsimp only
    split
    · exact hread (handleDeletion_ends _)
    split
    · refine obeys_perform trivial fun answer => ?_
      cases answer with
      | none => exact not_silent_again.elim
      | some err => exact not_silent_error.elim
    split
    · exact hread (ends_after (fun _ => (persist_loud _ not_silent_again).ends) _)
    split
    · rename_i hfailed
      exact fun _ => .inl (by simp [Accounted, mark, terminal, hfailed, Mark.accounted])
    · rename_i hretry
      refine hread (handlePhase_ends (by simpa using hretry) fun hready => ?_)
      simp [Accounted, mark, terminal, hready, Mark.accounted]

end Virtrigaud.Migration

namespace Virtrigaud.Clone

open Effects Program

/-- What a call tells of the VMClone. -/
def mark : LogEntry → Option Mark
  | ⟨.getClone _, .ok clone⟩ => some (if terminal clone.status.phase then .settled else .pending)
  | ⟨.getClone _, .error err⟩ => if err.reason = .notFound then some .gone else none
  | ⟨.statusUpdate clone, .ok _⟩ =>
    some (if terminal clone.status.phase then .settled else .pending)
  | ⟨.statusUpdate _, .error _⟩ => some .refused
  | ⟨.updateClone clone, none⟩ =>
    some (if clone.objectMeta.containsFinalizer vmCloneFinalizer then .pending else .gone)
  | _ => none

/-- What a reconcile leaves that schedules nothing. -/
def Resolved (log : List LogEntry) : Prop := Accounted mark log ∨ Refused mark log

variable {r : Reconciler} {resolved : List LogEntry → Prop} {clone : VMClone}
  {sourceVM : VirtualMachine} {provider : ObjectKey}

theorem markFailed_ends (reason message : String) :
    Ends Resolved (markFailed clone reason message) := by
  refine fun log => ⟨trivial, fun answer => ?_⟩
  cases answer with
  | error err => exact fun _ => .inr rfl
  | ok resourceVersion => exact fun _ => .inl rfl

theorem markPending_ends (reason message : String) :
    Ends resolved (markPending clone reason message) :=
  ends_after fun _ => ends_return (not_silent_after (by decide))

theorem finalizeReady_ends : Ends Resolved (finalizeReady clone) := by
  refine fun log => ⟨trivial, fun now => ⟨trivial, fun answer => ?_⟩⟩
  cases answer with
  | error err => exact not_silent_error.elim
  | ok resourceVersion => exact fun _ => .inl rfl

theorem seedTargetVM_ends (targetVMID : String) :
    Ends Resolved (seedTargetVM clone targetVMID) := by
  refine ends_after fun err => ?_
  cases err with
  | some err => exact ends_return (not_silent_after (by decide))
  | none => exact finalizeReady_ends

theorem bindTargetVM_ends (targetVMID : String) :
    Ends Resolved (bindTargetVM clone sourceVM targetVMID) := by
  unfold bindTargetVM
  repeat' first
    | exact markFailed_ends _ _
    | exact seedTargetVM_ends _
    | exact ends_return (not_silent_after (by decide))
    | refine ends_after fun _ => ?_
    | split

theorem startClone_ends : Ends Resolved (r.startClone clone sourceVM provider) := by
  repeat' first
    | exact markFailed_ends _ _
    | exact bindTargetVM_ends _
    | exact ends_return not_silent_error
    | exact ends_return (not_silent_after (by decide))
    | refine ends_after fun _ => ?_
    | split

theorem pollCloneTask_ends : Ends Resolved (pollCloneTask clone sourceVM provider) := by
  repeat' first
    | exact markFailed_ends _ _
    | exact bindTargetVM_ends _
    | exact ends_return not_silent_error
    | exact ends_return (not_silent_after (by decide))
    | refine ends_after fun _ => ?_
    | split

theorem reconcileClone_ends : Ends Resolved (r.reconcileClone clone sourceVM provider) := by
  repeat' first
    | exact markFailed_ends _ _
    | exact pollCloneTask_ends
    | exact bindTargetVM_ends _
    | exact startClone_ends
    | exact ends_return (not_silent_after (by decide))
    | refine ends_after fun _ => ?_
    | split

theorem reconcileSource_ends (source : String) :
    Ends Resolved (r.reconcileSource clone source) := by
  repeat' first
    | exact markPending_ends _ _
    | exact reconcileClone_ends
    | exact ends_return (not_silent_after (by decide))
    | refine ends_after fun _ => ?_
    | split

theorem handleDeletion_ends : Ends Resolved (handleDeletion clone) := by
  refine fun log => obeys_perform trivial fun answer => ?_
  cases answer with
  | none => exact fun _ => .inl (by simp [Accounted, mark, containsFinalizer_removeFinalizer,
      Mark.accounted])
  | some err => exact not_silent_error.elim

theorem reconcile_ends (key : ObjectKey) :
    (r.reconcile key).Obeys (fun _ _ => True) (fun ret log => Silent ret → Resolved log) [] := by
  refine obeys_perform trivial fun answer => ?_
  cases answer with
  | error err =>
    dsimp only
    split
    · rename_i hmissing
      exact fun _ => .inl (by simp [Accounted, mark, hmissing, Mark.accounted])
    · exact not_silent_error.elim
  | ok clone =>
    dsimp only
    split
    · exact handleDeletion_ends _
    split
    · refine obeys_perform trivial fun answer => ?_
      cases answer with
      | none => exact not_silent_again.elim
      | some err => exact not_silent_error.elim
    split
    · rename_i hterminal
      exact fun _ => .inl (by simp [Accounted, mark, hterminal, Mark.accounted])
    · split
      · exact markFailed_ends _ _ _
      · exact reconcileSource_ends _ _

end Virtrigaud.Clone

namespace Virtrigaud.Snapshot

open Effects Program

def terminal (phase : SnapshotPhase) : Bool := phase = .ready || phase = .failed

/-- What a call tells of the VMSnapshot. -/
def mark : LogEntry → Option Mark
  | ⟨.getSnapshot _, .ok snapshot⟩ =>
    some (if terminal snapshot.status.phase then .settled else .pending)
  | ⟨.getSnapshot _, .error err⟩ => if err.reason = .notFound then some .gone else none
  | ⟨.statusUpdate snapshot, .ok _⟩ =>
    some (if terminal snapshot.status.phase then .settled else .pending)
  | ⟨.statusUpdate _, .error _⟩ => some .refused
  | ⟨.updateSnapshot snapshot, none⟩ =>
    some (if snapshot.objectMeta.containsFinalizer finalizer then .pending else .gone)
  | ⟨.deleteSnapshot _, none⟩ => some .gone
  | _ => none

/-- What a reconcile leaves that schedules nothing. -/
def Resolved (r : Reconciler) (log : List LogEntry) : Prop :=
  Accounted mark log ∨ r.enforceCapabilities = true ∧ Refused mark log

variable {r : Reconciler} {resolved : List LogEntry → Prop} {log : List LogEntry}
  {snapshot : VMSnapshot} {vm : VirtualMachine}

theorem persistOrNot_ends (status : VMSnapshotStatus) {delay : Duration} (h : delay ≠ 0) :
    Ends resolved (persistOrNot snapshot status (.after delay)) :=
  ends_after fun _ => ends_return (not_silent_after h)

/-- A write of a terminal phase leaves nothing to do. -/
theorem accounted_of_terminal {resourceVersion : Nat}
    (h : terminal snapshot.status.phase = true) :
    Accounted mark (⟨.statusUpdate snapshot, .ok resourceVersion⟩ :: log) := by
  simp [Accounted, mark, h, Mark.accounted]

theorem persist_ends {status : VMSnapshotStatus} {result : Result}
    (h : Silent (result, none) → terminal status.phase = true) :
    Ends (Resolved r) (persist snapshot status result) := by
  refine fun log => ⟨trivial, fun answer => ?_⟩
  cases answer with
  | error err => exact not_silent_error.elim
  | ok resourceVersion => exact fun hsilent => .inl (accounted_of_terminal (h hsilent))

/-- Only an enforced report blocks a snapshot. -/
theorem gateSnapshotCreate_enforced (provider : ObjectKey) (req : SnapshotCreateRequest) :
    (r.gateSnapshotCreate provider req).Obeys (fun _ _ => True)
      (fun refusal _ => refusal ≠ none → r.enforceCapabilities = true) log := by
  unfold Reconciler.gateSnapshotCreate
  split
  · exact fun h => absurd rfl h
  · rename_i henforced
    have henforced : r.enforceCapabilities = true := by simpa using henforced
    refine obeys_perform trivial fun answer => ?_
    split <;> exact fun _ => henforced

theorem blockSnapshot_ends (henforced : r.enforceCapabilities = true) (message : String) :
    Ends (Resolved r) (blockSnapshot snapshot message) := by
  refine fun log => ⟨trivial, fun answer => ?_⟩
  cases answer with
  | error err => exact fun _ => .inr ⟨henforced, rfl⟩
  | ok resourceVersion => exact fun _ => .inl (accounted_of_terminal rfl)

theorem createSnapshot_ends : Ends (Resolved r) (r.createSnapshot snapshot vm) := by
  refine ends_after fun found => ?_
  split
  · exact persistOrNot_ends _ (by decide)
  refine ends_after fun missing => ?_
  split
  · exact persistOrNot_ends _ (by decide)
  refine fun log => (gateSnapshotCreate_enforced _ _).bind fun refusal log' _ henforced => ?_
  cases refusal with
  | some message => exact blockSnapshot_ends (henforced nofun) message log'
  | none =>
    refine ends_after (fun created => ?_) log'
    split
    · exact persistOrNot_ends _ (by decide)
    · refine ends_after fun now => persist_ends fun hsilent => ?_
      -- without a task the snapshot is ready, with one its task is polled
      split at hsilent
      · rename_i htask
        simp only [createdStatus, htask, if_true]
        rfl
      · exact absurd hsilent (not_silent_after (by decide))

theorem checkSnapshotCreation_ends : Ends (Resolved r) (checkSnapshotCreation snapshot vm) := by
  unfold checkSnapshotCreation
  repeat' first
    | exact persist_ends fun _ => rfl
    | exact persist_ends fun _ => by split <;> rfl
    | exact ends_return (not_silent_after (by decide))
    | refine ends_after fun _ => ?_
    | split

theorem deleteObject_ends : Ends (Resolved r) (deleteObject snapshot) := by
  refine fun log => obeys_perform trivial fun answer => ?_
  cases answer with
  | none => exact fun _ => .inl rfl
  | some err => exact not_silent_error.elim

theorem removeFinalizer_ends : Ends (Resolved r) (removeFinalizer snapshot) := by
  refine fun log => obeys_perform trivial fun answer => ?_
  cases answer with
  | none => exact fun _ => .inl (by simp [Accounted, mark, containsFinalizer_removeFinalizer,
      Mark.accounted])
  | some err => exact not_silent_error.elim

theorem handleRetention_ends : Ends (Resolved r) (handleRetention snapshot) := by
  repeat' first
    | exact deleteObject_ends
    | exact ends_return (not_silent_after (by decide))
    | refine ends_after fun _ => ?_
    | split

theorem handleDeletion_ends : Ends (Resolved r) (handleDeletion snapshot) := by
  repeat' first
    | exact removeFinalizer_ends
    | exact ends_return (not_silent_after (by decide))
    | refine ends_after fun _ => ?_
    | split

theorem handlePhase_ends : Ends (Resolved r) (r.handlePhase snapshot vm) := by
  unfold Reconciler.handlePhase
  split
  · exact createSnapshot_ends
  · exact checkSnapshotCreation_ends
  · exact handleRetention_ends
  all_goals exact ends_return (not_silent_after (by decide))

theorem reconcile_ends (key : ObjectKey) :
    (r.reconcile key).Obeys (fun _ _ => True) (fun ret log => Silent ret → Resolved r log) [] := by
  refine obeys_perform trivial fun answer => ?_
  cases answer with
  | error err =>
    dsimp only
    split
    · rename_i hmissing
      exact fun _ => .inl (by simp [Accounted, mark, hmissing, Mark.accounted])
    · exact not_silent_error.elim
  | ok snapshot =>
    dsimp only
    split
    · exact handleDeletion_ends _
    split
    · refine obeys_perform trivial fun answer => ?_
      cases answer with
      | none => exact not_silent_again.elim
      | some err => exact not_silent_error.elim
    · refine ends_after (fun found => ?_) _
      split
      · exact persistOrNot_ends _ (by decide)
      split
      · exact persistOrNot_ends _ (by decide)
      · exact handlePhase_ends

end Virtrigaud.Snapshot

namespace Virtrigaud

open Effects Program List

/-- Whatever the surroundings answer: a reconcile that schedules nothing leaves the object
accounted for, unless it is excused. -/
def Leaves {Call : Type} {Answer : Call → Type} (reconcile : Program Call Answer Return)
    (accounted excused : List (Event Call Answer) → Prop) : Prop :=
  ∀ (σ Choice : Type) (host : Host Call Answer σ Choice) (s : σ) (choices : List Choice)
    (out : Outcome Call Answer σ Return), reconcile.run host s [] choices = some out →
    out.result = some ({}, none) → ¬ excused out.log → accounted out.log

/-- A reconcile of a migration that found the object in some phase. -/
def Migration.Accounts (log : List Migration.LogEntry) : Prop :=
  Accounted (Migration.mark (Migration.phaseRead log)) log

def Migration.Drops (r : Migration.Reconciler) (log : List Migration.LogEntry) : Prop :=
  r.enforceCapabilities = true ∧ Refused (Migration.mark (Migration.phaseRead log)) log

/-- A reconcile that is not repeated leaves nothing to do unless its last status write was
refused; without enforced capabilities that excuses migrations and snapshots no more. -/
theorem silent_reconcile_accounted (migrations : Migration.Reconciler) (clones : Clone.Reconciler)
    (snapshots : Snapshot.Reconciler) (key : ObjectKey) :
    Leaves (migrations.reconcile key) Migration.Accounts (Migration.Drops migrations) ∧
    Leaves (clones.reconcile key) (Accounted Clone.mark) (Refused Clone.mark) ∧
    Leaves (snapshots.reconcile key) (Accounted Snapshot.mark)
      (fun log => snapshots.enforceCapabilities = true ∧ Refused Snapshot.mark log) := by
  refine ⟨?_, ?_, ?_⟩
  · intro σ Choice host s choices out hrun hsilent hwritten
    exact ((Migration.reconcile_ends key).run_result hrun hsilent rfl).resolve_right hwritten
  · intro σ Choice host s choices out hrun hsilent hwritten
    exact ((Clone.reconcile_ends key).run_result hrun hsilent rfl).resolve_right hwritten
  · intro σ Choice host s choices out hrun hsilent hwritten
    exact ((Snapshot.reconcile_ends key).run_result hrun hsilent rfl).resolve_right hwritten

namespace Silence.Sample

def key : ObjectKey := ⟨"vms", "job"⟩

def unreachable : GoError := errorf "etcdserver: request timed out"

def provider : Provider := { objectMeta := { name := "lab", ns := "vms" } }

def vm : VirtualMachine where
  objectMeta := { name := "web", ns := "vms" }
  spec := { providerRef := { name := "lab" } }
  status := { id := "vm-1" }

def migrations : Migration.Reconciler where
  enforceCapabilities := true
  validateS3Endpoint _ := none
  validateHost _ := none
  marshalS3Options _ := .ok ""
  marshalNFSOptions _ := .ok ""
  nfsURL _ _ := .ok ""
  parseQuantity _ := none

/-- A migration that is about to export to the claim `scratch`, or has exported. -/
def migration (exportID : String) : VMMigration where
  objectMeta := { name := "job", ns := "vms", finalizers := [Migration.finalizerName] }
  spec := {
    source := { vmRef := ⟨"web"⟩ }
    target := { name := "web", providerRef := { name := "prod" } }
    storage := some { type := "pvc" } }
  status := { phase := .exporting, exportID, storagePVCName := "scratch" }

/-- The provider exports nothing. -/
def migrating (exportID : String) (written : Except GoError (ObjectMeta × VMMigrationSpec)) :
    (c : Migration.Call) → Option (Migration.Answer c)
  | .getMigration _ => some (.ok (migration exportID))
  | .getVirtualMachine _ => some (.ok vm)
  | .getProvider _ => some (.ok provider)
  | .getProviderInstance _ => some none
  | .longOpLoad _ => some false
  | .getCapabilities _ => some (some (.ok {}))
  | .now => some 0
  | .statusUpdate _ => some written
  | _ => none

/-- A clone without a source. -/
def clone : VMClone where
  objectMeta := { name := "job", ns := "vms", finalizers := [Clone.vmCloneFinalizer] }
  spec := { target := { name := "copy" } }
  status := {}

def cloning (written : Except GoError Nat) : (c : Clone.Call) → Option (Clone.Answer c)
  | .getClone _ => some (.ok clone)
  | .statusUpdate _ => some written
  | _ => none

def snapshots : Snapshot.Reconciler := { enforceCapabilities := true }

def snapshot : Snapshot.VMSnapshot where
  objectMeta := { name := "job", ns := "vms", finalizers := [Snapshot.finalizer] }
  spec := { vmRef := ⟨"web"⟩ }

/-- The provider makes no snapshots. -/
def snapshotting (written : Except GoError Nat) : (c : Snapshot.Call) → Option (Snapshot.Answer c)
  | .getSnapshot _ => some (.ok snapshot)
  | .getVirtualMachine _ => some (.ok vm)
  | .getProvider _ => some (.ok provider)
  | .getProviderInstance _ => some none
  | .getCapabilities _ => some (some (.ok {}))
  | .statusUpdate _ => some written
  | _ => none

end Silence.Sample

open Silence.Sample in
/-- Refused the write of the failure, all three controllers stop in the phase they found. -/
theorem refused_failure_is_dropped :
    (∃ out, (migrations.reconcile key).run Host.scripted () []
        (replicate 8 (migrating "" (.error unreachable))) = some out ∧
      out.result = some ({}, none) ∧ ¬ Migration.Accounts out.log) ∧
    (∃ out, (Clone.Sample.reconciler.reconcile key).run Host.scripted () []
        (replicate 2 (cloning (.error unreachable))) = some out ∧
      out.result = some ({}, none) ∧ ¬ Accounted Clone.mark out.log) ∧
    ∃ out, (snapshots.reconcile key).run Host.scripted () []
        (replicate 6 (snapshotting (.error unreachable))) = some out ∧
      out.result = some ({}, none) ∧ ¬ Accounted Snapshot.mark out.log :=
  ⟨⟨_, rfl, rfl, nofun⟩, ⟨_, rfl, rfl, nofun⟩, ⟨_, rfl, rfl, nofun⟩⟩

open Silence.Sample in
/-- With the writes accepted: an export is recorded as complete, a clone and a snapshot fail. -/
theorem silent_reconcile_accounted_sample :
    (∃ out, (migrations.reconcile key).run Host.scripted () []
        (replicate 5 (migrating "export-1" (.ok ({}, (migration "").spec)))) = some out ∧
      out.result = some ({}, none) ∧ Migration.Accounts out.log) ∧
    (∃ out, (Clone.Sample.reconciler.reconcile key).run Host.scripted () []
        (replicate 2 (cloning (.ok 2))) = some out ∧
      out.result = some ({}, none) ∧ Accounted Clone.mark out.log) ∧
    ∃ out, (snapshots.reconcile key).run Host.scripted () []
        (replicate 6 (snapshotting (.ok 2))) = some out ∧
      out.result = some ({}, none) ∧ Accounted Snapshot.mark out.log := by
  obtain ⟨hmigrations, hclones, hsnapshots⟩ :=
    silent_reconcile_accounted migrations Clone.Sample.reconciler snapshots key
  refine ⟨⟨_, rfl, rfl, ?_⟩, ⟨_, rfl, rfl, ?_⟩, ⟨_, rfl, rfl, ?_⟩⟩
  · exact hmigrations _ _ Host.scripted ()
      (replicate 5 (migrating "export-1" (.ok ({}, (migration "").spec)))) _ rfl rfl nofun
  · exact hclones _ _ Host.scripted () (replicate 2 (cloning (.ok 2))) _ rfl rfl nofun
  · exact hsnapshots _ _ Host.scripted () (replicate 6 (snapshotting (.ok 2))) _ rfl rfl nofun

end Virtrigaud
