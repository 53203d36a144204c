import Virtrigaud.Api.Contracts

/-!
# The SDK client

`errors.FromGRPCError` returns a pointer. A method that returns the pointer as its `error` returns
an interface value with a type, which is not nil even when the pointer is.
-/

namespace Virtrigaud.Sdk.Client

/-- What a stub returns besides its response. -/
inductive RpcError
  | status (err : GrpcError)
  | other (text : String)
  deriving DecidableEq, Repr

/-- `errors.ProviderError`. -/
structure ProviderError where
  code : GrpcCode
  message : String
  cause : Option RpcError := none
  retryable : Bool := false
  deriving DecidableEq, Repr

/-- A value of the interface `error`. -/
inductive ErrorValue
  | nil
  /-- A `*ProviderError`, which may be nil itself. -/
  | pointer (err : Option ProviderError)
  | plain (text : String)
  | wrap (message : String) (err : ErrorValue)
  deriving DecidableEq, Repr

def isRetryable : GrpcCode → Bool
  | .unavailable | .resourceExhausted | .deadlineExceeded => true
  | _ => false

def newInternal (message : String) (cause : RpcError) : ProviderError where
  code := .internal
  message := message
  cause := some cause

def fromGRPCError : Option RpcError → Option ProviderError
  | none => none
  | some (.status st) =>
    some { code := st.code, message := st.message, retryable := isRetryable st.code }
  | some (.other text) => some (newInternal "unknown error" (.other text))

/-- The methods of the client. -/
inductive Method
  | validate
  | create
  | delete
  | power
  | reconfigure
  | describe
  | listVMs
  | taskStatus
  | snapshotCreate
  | snapshotDelete
  | snapshotRevert
  | clone
  | imagePrepare
  | getCapabilities
  deriving DecidableEq, Repr

/-- The error a method returns for the error of its RPC. `ListVMs` looks at the error itself; the
others return what `FromGRPCError` makes of it. -/
def Method.error (m : Method) (rpc : Option RpcError) : ErrorValue :=
  match m, rpc with
  | .listVMs, none => .nil
  | _, rpc => .pointer (fromGRPCError rpc)

theorem Method.error_eq_nil {m : Method} {rpc : Option RpcError} :
    m.error rpc = .nil ↔ m = .listVMs ∧ rpc = none := by
  cases m <;> cases rpc <;> simp [Method.error]

structure TaskStatusResponse where
  done : Bool
  error : String
  deriving DecidableEq, Repr

/-- What ends one round of the loop: the context, or a tick and the outcome of its poll. -/
inductive Wake
  | contextDone (text : String)
  | tick (rpc : Except RpcError TaskStatusResponse)

/-- The loop of `WaitForTask`, over what happens: nothing is returned while it waits. -/
def poll : List Wake → Option ErrorValue
  | [] => none
  | .contextDone text :: _ => some (.plain text)
  | .tick (.error rpc) :: _ =>
    some (.wrap "failed to check task status" (Method.taskStatus.error (some rpc)))
  | .tick (.ok resp) :: wakes =>
    let err := Method.taskStatus.error none
    if err ≠ .nil then some (.wrap "failed to check task status" err)
    else if resp.done then
      if resp.error ≠ "" then some (.plain ("task failed: " ++ resp.error)) else some .nil
    else poll wakes

def waitForTask (taskRef : Option String) (wakes : List Wake) : Option ErrorValue :=
  if taskRef.getD "" = "" then some .nil else poll wakes

/-- Some poll reports the task done and no error, before the context ends, an RPC fails or an
error is reported. -/
def completed : List Wake → Bool
  | [] => false
  | .contextDone _ :: _ => false
  | .tick (.error _) :: _ => false
  | .tick (.ok resp) :: wakes => resp.error = "" && (resp.done || completed wakes)

/-- The RPC fails, or the error of the task is reported. -/
def Wake.fails : Wake → Bool
  | .contextDone _ => false
  | .tick (.error _) => true
  | .tick (.ok resp) => resp.error ≠ ""

/-- The loop ends at its first wake, and not with nil. -/
theorem poll_cons (w : Wake) : ∃ err, (∀ wakes, poll (w :: wakes) = some err) ∧ err ≠ .nil := by
  cases w with
  | contextDone text => exact ⟨_, fun _ => rfl, nofun⟩
  | tick rpc => cases rpc <;> exact ⟨_, fun _ => rfl, nofun⟩

theorem poll_ne_nil (wakes : List Wake) : poll wakes ≠ some .nil := by
  cases wakes with
  | nil => nofun
  | cons w wakes =>
    obtain ⟨err, hpoll, herr⟩ := poll_cons w
    rw [hpoll]
    exact fun heq => herr (Option.some.inj heq)

/-- What a client relies on: a nil error is that of an RPC that succeeded; a nil `WaitForTask` is
that of a task that was completed, and it ends with the first failure. -/
structure Meant (m : Method) (rpc : Option RpcError) (id : String) (wakes : List Wake) : Prop where
  error : m.error rpc = .nil ↔ rpc = none
  wait : waitForTask (some id) wakes = some .nil ↔ completed wakes = true
  stops : ∀ front w rest, wakes = front ++ w :: rest → w.fails = true →
    ∃ err, waitForTask (some id) wakes = some err ∧
      waitForTask (some id) (front ++ [w]) = some err

/-- The errors are as they are meant exactly if there is no success to report: the method is
`ListVMs` or its RPC fails, and no poll completes the task. -/
theorem error_nil_iff_succeeded (m : Method) (rpc : Option RpcError) {id : String} (hid : id ≠ "")
    (wakes : List Wake) :
    Meant m rpc id wakes ↔ (m = .listVMs ∨ rpc ≠ none) ∧ completed wakes = false := by
  have hwait : ∀ wakes, waitForTask (some id) wakes = poll wakes := fun _ => if_neg hid
  have herror : (m.error rpc = .nil ↔ rpc = none) ↔ m = .listVMs ∨ rpc ≠ none := by
    rw [Method.error_eq_nil]
    tauto
  constructor
  · rintro ⟨hmethod, htask, -⟩
    refine ⟨herror.mp hmethod, Bool.eq_false_iff.mpr fun hcompleted => ?_⟩
    exact poll_ne_nil wakes (hwait wakes ▸ htask.mpr hcompleted)
  · rintro ⟨hmethod, htask⟩
    refine ⟨herror.mpr hmethod, ?_, ?_⟩
    · rw [hwait, htask]
      exact iff_of_false (poll_ne_nil wakes) nofun
    · rintro front w rest rfl -
      simp only [hwait]
      cases front with
      | nil =>
        obtain ⟨err, hpoll, -⟩ := poll_cons w
        exact ⟨err, hpoll rest, hpoll []⟩
      | cons first front =>
        obtain ⟨err, hpoll, -⟩ := poll_cons first
        exact ⟨err, hpoll _, hpoll _⟩

theorem error_nil_iff_succeeded_sample :
    Meant .listVMs none "task-1"
      [.tick (.ok ⟨false, ""⟩), .tick (.error (.other "EOF")), .tick (.ok ⟨true, ""⟩)] :=
  (error_nil_iff_succeeded _ _ (by decide) _).mpr ⟨.inl rfl, rfl⟩

/-- A successful Delete returns an error, and so does a wait whose first poll reports the task
done. -/
theorem success_is_an_error :
    Method.delete.error none ≠ .nil ∧
    completed [.tick (.ok ⟨true, ""⟩)] = true ∧
    waitForTask (some "task-1") [.tick (.ok ⟨true, ""⟩)] =
      some (.wrap "failed to check task status" (.pointer none)) :=
  ⟨nofun, rfl, rfl⟩

end Virtrigaud.Sdk.Client
