import Virtrigaud.Clone.Reconcile
import Virtrigaud.Migration.Phases
import Virtrigaud.Sdk.Client
import Virtrigaud.Snapshot.Reconcile

/-!
# The status of a task

A poll sees one moment of a task of the hypervisor. `TaskStatus` turns what a look-up returns
into an answer, and the controllers take a reported error for the end of the task.
-/

namespace Virtrigaud.Tasks

open Effects Program

open Sdk.Client (TaskStatusResponse)

/-- A task of the hypervisor; PVE counts one that ended with warnings as successful. -/
inductive State
  | running
  | succeeded (warnings : Nat)
  | failed (message : String)
  deriving DecidableEq, Repr

/-- How a request to the API of the hypervisor fails; an expired deadline is a failed request. -/
inductive Fault
  | request (err : String)
  | statusCode (code : Nat)
  | decode (err : String)
  deriving DecidableEq, Repr

/-- One poll: the task when the look-up ends, how the look-up fails, and how the RPC does. -/
structure Poll where
  state : State
  fault : Option Fault := none
  lost : Option GrpcError := none
  deriving DecidableEq, Repr

/-- The id of a task names its node in its second part. -/
abbrev Upid := { id : List Char // 3 ≤ (id.splitOn ':').length }

structure Task where
  status : String
  exitCode : Option String

/-- What the API says of a task. -/
def State.task : State → Task
  | .running => ⟨"running", none⟩
  | .succeeded 0 => ⟨"stopped", some "OK"⟩
  | .succeeded warnings => ⟨"stopped", some ("WARNINGS: " ++ toString warnings)⟩
  | .failed message => ⟨"stopped", some message⟩

def getTaskStatus (p : Poll) : Except String Task :=
  match p.fault with
  | some (.request err) => .error ("failed to get task status: " ++ err)
  | some (.statusCode code) => .error ("unexpected status code: " ++ toString code)
  | some (.decode err) => .error ("failed to decode response: " ++ err)
  | none => .ok p.state.task

def Proxmox.taskStatus (taskID : List Char) (p : Poll) : TaskStatusResponse :=
  if (taskID.splitOn ':').length < 3 then
    ⟨true, "invalid task ID format: " ++ String.ofList taskID⟩
  else
  match getTaskStatus p with
  | .error err => ⟨true, "failed to get task status: " ++ err⟩
  | .ok task =>
    let done := task.status = "stopped"
    match task.exitCode with
    | some code =>
      ⟨done, if done ∧ code ≠ "OK" then "task failed with exit code: " ++ code else ""⟩
    | none => ⟨done, ""⟩

inductive TaskInfoState
  | queued
  | running
  | success
  | error
  | other (name : String)

structure TaskInfo where
  state : TaskInfoState
  /-- The localised message of the error. -/
  error : Option String := none

/-- `WaitForResult` of the vSphere client returns when the task has ended, with an error if the task
ended in one, and when its context ends; it does not return while the task runs. -/
def waitForResult (p : Poll) : Option (Except String TaskInfo) :=
  match p.fault, p.state with
  | some (.request err), _ | some (.decode err), _ => some (.error err)
  | some (.statusCode code), _ => some (.error (toString code))
  | none, .running => none
  | none, .succeeded _ => some (.ok ⟨.success, none⟩)
  | none, .failed message => some (.error message)

def Vsphere.taskStatus (p : Poll) : Option TaskStatusResponse := do
  match ← waitForResult p with
  | .error err => return ⟨true, "task failed: " ++ err⟩
  | .ok info =>
    match info.state with
    | .success => return ⟨true, ""⟩
    | .error => return ⟨true, info.error.getD "task failed with unknown error"⟩
    | .queued | .running => return ⟨false, ""⟩
    | .other name => return ⟨true, "unexpected task state: " ++ name⟩

/-- The provider of a task. -/
inductive Owner
  | proxmox (taskID : Upid)
  | vsphere

def Owner.taskStatus : Owner → Poll → Option TaskStatusResponse
  | .proxmox taskID, p => some (Proxmox.taskStatus taskID.val p)
  | .vsphere, p => Vsphere.taskStatus p

/-- What the RPC returns to the client in the manager. -/
def Owner.rpc (owner : Owner) (p : Poll) : Option (Except GrpcError TaskStatusResponse) :=
  match p.lost with
  | some err => some (.error err)
  | none => (owner.taskStatus p).map .ok

section Client

variable (rpc : Except GrpcError TaskStatusResponse)

def isTaskComplete : Except GoError Bool :=
  match rpc with
  | .error err => .error (mapGRPCError "taskStatus" err)
  | .ok resp =>
    if resp.error ≠ "" then .error (errorf ("task failed: " ++ resp.error)) else .ok resp.done

def taskStatus : Except GoError TaskStatus :=
  match rpc with
  | .error err => .error (mapGRPCError "taskStatus" err)
  | .ok resp => .ok { isCompleted := resp.done, error := resp.error }

/-- Once a poll is answered so, the controllers do nothing more in this reconcile. -/
structure LeftAlone : Prop where
  clone (clone : VMClone) (sourceVM : VirtualMachine) (provider : ObjectKey) :
    (Clone.pollCloneTask clone sourceVM provider).Heeds (fun log _ =>
      log ≠ [⟨.isTaskComplete provider clone.status.taskRef, isTaskComplete rpc⟩]) []
  migration (provider : ObjectKey) (migration : VMMigration) (op failure : String)
    (complete : VMMigrationStatus) :
    (Migration.pollTask provider migration op failure complete).Heeds (fun log _ =>
      log ≠ [⟨.isTaskComplete provider migration.status.taskRef, isTaskComplete rpc⟩]) []
  snapshot (snapshot : Snapshot.VMSnapshot) (vm : VirtualMachine) :
    (Snapshot.checkSnapshotCreation snapshot vm).Heeds (fun log _ => ∀ provider,
      (⟨.taskStatus provider snapshot.status.taskRef, taskStatus rpc⟩ : Snapshot.LogEntry) ∉ log) []

end Client

/-- The answer is true of the task. -/
def Faithful (resp : TaskStatusResponse) (state : State) : Prop :=
  (resp.done = true → state ≠ .running) ∧ (resp.error ≠ "" → ∃ message, state = .failed message)

/-- The answer is true of the task, and no controller fails over it while the task is running. -/
structure Reliable (owner : Owner) (p : Poll) : Prop where
  faithful : ∀ resp ∈ owner.taskStatus p, Faithful resp p.state
  leftAlone : p.state = .running → ∀ rpc ∈ owner.rpc p, LeftAlone rpc

/-- No look-up fails but one of a failed task, no RPC is lost while the task is running, and no task
of PVE ends with warnings. -/
structure Undisturbed (owner : Owner) (p : Poll) : Prop where
  fault : p.fault ≠ none → ∃ message, p.state = .failed message
  lost : p.state = .running → p.lost = none
  warnings : owner ≠ .vsphere → ∀ warnings, p.state = .succeeded warnings → warnings = 0

variable {owner : Owner} {p : Poll}

theorem Vsphere.faithful_iff :
    (∀ resp ∈ Vsphere.taskStatus p, Faithful resp p.state) ↔
      (p.fault ≠ none → ∃ message, p.state = .failed message) := by
  obtain ⟨state, _ | _ | _ | _, lost⟩ := p <;> cases state <;>
    simp [Vsphere.taskStatus, waitForResult, Faithful]

theorem Proxmox.faithful_iff (taskID : Upid) :
    Faithful (Proxmox.taskStatus taskID.val p) p.state ↔
      (p.fault ≠ none → ∃ message, p.state = .failed message) ∧
        ∀ warnings, p.state = .succeeded warnings → warnings = 0 := by
  have hparts : ¬ (taskID.val.splitOn ':').length < 3 := Nat.not_lt.mpr taskID.property
  have hcode : ∀ text : String, "WARNINGS: " ++ text ≠ "OK" := by
    intro text heq
    simpa using congrArg (·.toList.head?) heq
  unfold Proxmox.taskStatus
  rw [if_neg hparts]
  obtain ⟨state, _ | _ | _ | _, lost⟩ := p <;> rcases state with _ | (_ | _) | _ <;>
    simp [getTaskStatus, State.task, Faithful, hcode]

theorem obeys_after {Call : Type} {Answer : Call → Type} {α : Type} {p : Program Call Answer α}
    {event other : Event Call Answer} (h : other ≠ event) :
    p.Heeds (fun log _ => log ≠ [event]) [other] := by
  refine obeys_of_always fun log hlog _ heq => h ?_
  rw [heq] at hlog
  exact List.mem_singleton.mp (hlog.subset (.head _))

/-- An answer that the task is not done lets all controllers wait. -/
theorem leftAlone_running : LeftAlone (.ok ⟨false, ""⟩) where
  clone clone sourceVM provider := by
    refine obeys_perform nofun ?_
    rintro (err | _ | _)
    · exact obeys_after fun h => by cases h
    · trivial
    · exact obeys_after fun h => by cases h
  migration provider migration op failure complete := by
    unfold Migration.pollTask
    split
    · exact obeys_perform nofun fun _ => obeys_after fun h => by cases h
    refine obeys_perform nofun ?_
    rintro (err | _ | _)
    · trivial
    · trivial
    · exact obeys_after fun h => by cases h
  snapshot snapshot vm := by
    unfold Snapshot.checkSnapshotCreation
    split
    · exact obeys_perform (fun _ h => by cases h) fun r => by cases r <;> trivial
    refine obeys_perform (fun _ h => by cases h) ?_
    rintro (err | provider)
    · trivial
    refine obeys_perform (by simp) ?_
    rintro (_ | err)
    swap
    · trivial
    refine obeys_perform (by simp) ?_
    rintro (err | status)
    · trivial
    dsimp only
    split
    · rename_i hcompleted
      refine obeys_perform (fun other hmem => ?_) fun r => by cases r <;> trivial
      rcases List.mem_cons.mp hmem with heq | hmem
      · cases heq
        cases hcompleted
      · simp at hmem
    · trivial

/-- The clone controller fails over any error of a poll. -/
theorem LeftAlone.complete {rpc : Except GrpcError TaskStatusResponse} (h : LeftAlone rpc) :
    ∃ done, isTaskComplete rpc = .ok done := by
  cases hcomplete : isTaskComplete rpc with
  | ok done => exact ⟨done, rfl⟩
  | error err =>
    have hclone := (h.clone { spec := { target := { name := "" } } } { spec := {} } ⟨"", ""⟩).2
      (.error err)
    exact absurd (by rw [hcomplete]) hclone.1

end Virtrigaud.Tasks
