import Virtrigaud.Api.Contracts
import Virtrigaud.Resilience.CircuitBreaker

/-!
# What the manager sees of an error of the libvirt provider

An error of a provider is a chain of values, each of which may wrap the next. The handlers of
the server wrap it or put its text into their response; the first value that has a status
decides the status, and `contracts.ProviderError` has none. The client's interceptor records the
outcome with the breaker of the Provider, and `mapGRPCError` makes an error again of the status.
-/

namespace Virtrigaud.Transport

/-- `contracts.ErrorType`. -/
inductive ErrorType
  | notFound
  | invalidSpec
  | retryable
  | unauthorized
  | notSupported
  | rateLimit
  | unavailable
  | timeout
  | quotaExceeded
  | conflict
  deriving DecidableEq, Repr

def ErrorType.text : ErrorType → String
  | .notFound => "NotFound"
  | .invalidSpec => "InvalidSpec"
  | .retryable => "Retryable"
  | .unauthorized => "Unauthorized"
  | .notSupported => "NotSupported"
  | .rateLimit => "RateLimit"
  | .unavailable => "Unavailable"
  | .timeout => "Timeout"
  | .quotaExceeded => "QuotaExceeded"
  | .conflict => "Conflict"

/-- A value of the interface `error`. -/
inductive ErrorValue
  /-- `errors.New`, or `fmt.Errorf` that wraps nothing. -/
  | plain (text : String)
  /-- `fmt.Errorf("message: %w", err)`. -/
  | wrap (message : String) (err : ErrorValue)
  /-- A `contracts.ProviderError` without a cause. -/
  | provider (type : ErrorType) (message : String)
  /-- A `contracts.ProviderError` with its cause. -/
  | caused (type : ErrorType) (message : String) (cause : ErrorValue)
  /-- The error of a gRPC status. -/
  | status (err : GrpcError)
  /-- `context.DeadlineExceeded`. -/
  | deadlineExceeded
  /-- `context.Canceled`. -/
  | canceled
  deriving DecidableEq, Repr

variable (err : ErrorValue)

namespace ErrorValue

/-- `Error()`. -/
def text : ErrorValue → String
  | .plain text => text
  | .wrap message err => message ++ ": " ++ err.text
  | .provider type message => type.text ++ ": " ++ message
  | .caused type message cause =>
    type.text ++ ": " ++ message ++ " (caused by: " ++ cause.text ++ ")"
  | .status err => err.text
  | .deadlineExceeded => "context deadline exceeded"
  | .canceled => "context canceled"

/-- The type of the first `contracts.ProviderError` in the chain, as `errors.As` finds it. -/
def class? : ErrorValue → Option ErrorType
  | .wrap _ err => err.class?
  | .provider type _ => some type
  | .caused type _ _ => some type
  | _ => none

/-- `contracts.IsNotFound`. -/
def isNotFound : Bool := err.class? = some .notFound

/-- The first status in the chain, as `errors.As` finds it. -/
def status? : ErrorValue → Option GrpcError
  | .wrap _ err => err.status?
  | .caused _ _ cause => cause.status?
  | .status err => some err
  | _ => none

/-- `errors.Is(err, context.DeadlineExceeded)`. -/
def isDeadlineExceeded : ErrorValue → Bool
  | .wrap _ err => err.isDeadlineExceeded
  | .caused _ _ cause => cause.isDeadlineExceeded
  | .deadlineExceeded => true
  | _ => false

/-- `errors.Is(err, context.Canceled)`. -/
def isCanceled : ErrorValue → Bool
  | .wrap _ err => err.isCanceled
  | .caused _ _ cause => cause.isCanceled
  | .canceled => true
  | _ => false

/-- The text and the reason that controllers see. -/
def toGoError : GoError := ⟨if err.isNotFound then .notFound else .other, err.text⟩

end ErrorValue

/-- `status.FromError` of an error, and whether the error has a status. A wrapped status keeps
its code and takes the text of the whole error. -/
def fromError : GrpcError × Bool :=
  match err with
  | .status status => (status, true)
  | _ =>
    match err.status? with
    | some status => ({ status with message := err.text }, true)
    | none => (.plain err.text, false)

/-- `status.FromContextError`. -/
def fromContextError : GrpcError :=
  if err.isDeadlineExceeded then ⟨.deadlineExceeded, err.text⟩
  else if err.isCanceled then ⟨.canceled, err.text⟩
  else .plain err.text

/-- The status a gRPC server sends when its handler returns the error. -/
def serverStatus : GrpcError :=
  match fromError err with
  | (status, true) => status
  | (_, false) => fromContextError err

/-- The code that reaches the client. -/
def wireCode : GrpcCode := (serverStatus err).code

variable {err : ErrorValue}

theorem wireCode_of_status {status : GrpcError} (h : err.status? = some status) :
    wireCode err = status.code := by
  unfold wireCode serverStatus fromError
  cases err with
  | status inner =>
    cases h
    rfl
  | _ => simp [h]

theorem wireCode_of_context (h : err.status? = none) :
    wireCode err = (fromContextError err).code := by
  unfold wireCode serverStatus fromError
  cases err with
  | status inner => cases h
  | _ => simp [h]

/-- Wrapping keeps the code. -/
theorem wireCode_wrap (message : String) (err : ErrorValue) :
    wireCode (.wrap message err) = wireCode err := by
  cases hstatus : err.status? with
  | some status =>
    have hwrapped : (ErrorValue.wrap message err).status? = some status := hstatus
    rw [wireCode_of_status hstatus, wireCode_of_status hwrapped]
  | none =>
    have hwrapped : (ErrorValue.wrap message err).status? = none := hstatus
    rw [wireCode_of_context hstatus, wireCode_of_context hwrapped]
    cases hdeadline : err.isDeadlineExceeded <;> cases hcanceled : err.isCanceled <;>
      simp [fromContextError, ErrorValue.isDeadlineExceeded, ErrorValue.isCanceled, hdeadline,
        hcanceled, GrpcError.plain]

open Resilience List

/-- The methods whose errors come from the provider. -/
inductive Method
  | validate
  | create
  | delete
  | power
  | reconfigure
  | describe
  | taskStatus
  | clone
  | imagePrepare
  | exportDisk
  | getDiskInfo
  | listVMs
  deriving DecidableEq, Repr

/-- The text that the handler puts before the error. -/
def Method.failure : Method → String
  | .validate | .taskStatus => ""
  | .create => "failed to create VM"
  | .delete => "failed to delete VM"
  | .power => "failed to perform power operation"
  | .reconfigure => "failed to reconfigure VM"
  | .describe => "failed to describe VM"
  | .clone => "failed to clone VM"
  | .imagePrepare => "failed to prepare image"
  | .exportDisk => "failed to export disk"
  | .getDiskInfo => "failed to get disk info"
  | .listVMs => "failed to list VMs"

/-- The name of the operation in the errors of the client. -/
def Method.operation : Method → String
  | .validate => "validate"
  | .create => "create"
  | .delete => "delete"
  | .power => "power"
  | .reconfigure => "reconfigure"
  | .describe => "describe"
  | .taskStatus => "taskStatus"
  | .clone => "clone"
  | .imagePrepare => "image prepare"
  | .exportDisk => "exportDisk"
  | .getDiskInfo => "getDiskInfo"
  | .listVMs => "listVMs"

/-- How an RPC ends whose provider failed. -/
inductive Reply
  | status (err : GrpcError)
  /-- A `ValidateResponse` that is not `Ok`. -/
  | notOk (message : String)
  /-- A `TaskStatusResponse` that is not `Done`. -/
  | taskError (error : String)
  deriving DecidableEq, Repr

/-- The handlers of the libvirt server, for an error of the provider. -/
def Method.handle (m : Method) (err : ErrorValue) : Reply :=
  match m with
  | .validate => .notOk err.text
  | .taskStatus => .taskError err.text
  | m => .status (serverStatus (.wrap m.failure err))

def mapGRPCError (operation : String) (err : GrpcError) : ErrorValue :=
  let message := operation ++ ": " ++ err.message
  match err.code with
  | .notFound => .caused .notFound message (.status err)
  | .invalidArgument => .caused .invalidSpec message (.status err)
  | .unavailable | .deadlineExceeded => .caused .retryable message (.status err)
  | _ => .plain (operation ++ " failed: " ++ err.message)

/-- What the controllers see of it. -/
theorem toGoError_mapGRPCError (operation : String) (err : GrpcError) :
    (mapGRPCError operation err).toGoError = Virtrigaud.mapGRPCError operation err := by
  obtain ⟨code, message⟩ := err
  cases code <;>
    simp [mapGRPCError, Virtrigaud.mapGRPCError, ErrorValue.toGoError, ErrorValue.isNotFound,
      ErrorValue.class?, ErrorValue.text, ErrorType.text, String.append_assoc]

/-- The methods of the client, for an RPC whose provider failed. -/
def Method.receive (m : Method) : Reply → ErrorValue
  | .status err => mapGRPCError m.operation err
  | .notOk message => .plain ("provider validation failed: " ++ message)
  | .taskError error => .plain ("task failed: " ++ error)

def isInfraFailure (err : GrpcError) : Bool :=
  match err.code with
  | .unavailable | .deadlineExceeded | .internal | .unknown => true
  | _ => false

/-- What the interceptor tells the breaker. -/
def Reply.failure? : Reply → Option GoError
  | .status err => if isInfraFailure err then some (errorf err.text) else none
  | .notOk _ => none
  | .taskError _ => none

/-- A call that the breaker lets in and whose provider fails, at that time. -/
structure FailedCall where
  method : Method
  err : ErrorValue
  now : Time

/-- `providerCircuitBreakerInterceptor`: a call that is not let in leaves the breaker as
`allowCall` does. -/
def intercept (cb : CircuitBreaker) (call : FailedCall) : CircuitBreaker :=
  match cb.allowCall call.now with
  | (true, cb) => cb.recordResult (call.method.handle call.err).failure? call.now
  | (false, cb) => cb

/-- The breaker after calls of the Provider, one after the other. -/
def interceptAll (cb : CircuitBreaker) (calls : List FailedCall) : CircuitBreaker :=
  calls.foldl intercept cb

/-- A fault of the request, not of the infrastructure. -/
def ErrorType.business : ErrorType → Bool
  | .notFound | .invalidSpec | .unauthorized => true
  | _ => false

/-- The status of the error, or the lack of one, is what the client reads as that class. -/
def Coded (err : ErrorValue) : ErrorType → Prop
  | .notFound => ∃ status, err.status? = some status ∧ status.code = .notFound
  | .invalidSpec => ∃ status, err.status? = some status ∧ status.code = .invalidArgument
  | .retryable =>
    (∃ status, err.status? = some status ∧
      (status.code = .unavailable ∨ status.code = .deadlineExceeded)) ∨
    (err.status? = none ∧ err.isDeadlineExceeded = true)
  | _ => False

/-- The two methods that answer an error with a response. -/
def Method.swallows (m : Method) : Bool := m = .validate || m = .taskStatus

theorem handle_of_not_swallows {m : Method} (h : m.swallows = false) (err : ErrorValue) :
    ∃ status, m.handle err = .status status ∧ status.code = wireCode err := by
  refine ⟨serverStatus (.wrap m.failure err), ?_, wireCode_wrap m.failure err⟩
  cases m with
  | validate | taskStatus => cases h
  | _ => rfl

/-- The class that the client makes of a code. -/
def readClass : GrpcCode → Option ErrorType
  | .notFound => some .notFound
  | .invalidArgument => some .invalidSpec
  | .unavailable | .deadlineExceeded => some .retryable
  | _ => none

theorem class_mapGRPCError (operation : String) (err : GrpcError) :
    (mapGRPCError operation err).class? = readClass err.code := by
  obtain ⟨code, message⟩ := err
  cases code <;> rfl

variable {type : ErrorType}

theorem readClass_wireCode : readClass (wireCode err) = some type ↔ Coded err type := by
  cases hstatus : err.status? with
  | some status =>
    rw [wireCode_of_status hstatus]
    cases hcode : status.code <;> cases type <;> simp [readClass, Coded, hstatus, hcode]
  | none =>
    rw [wireCode_of_context hstatus, fromContextError]
    cases hdeadline : err.isDeadlineExceeded <;> cases err.isCanceled <;> cases type <;>
      simp [readClass, Coded, hstatus, hdeadline, GrpcError.plain]

/-- The two responses carry no class. -/
theorem class_receive (m : Method) : (m.receive (m.handle err)).class? = some type ↔
    m.swallows = false ∧ Coded err type := by
  cases hm : m.swallows with
  | true =>
    cases m with
    | validate | taskStatus => simp [Method.receive, Method.handle, ErrorValue.class?]
    | _ => cases hm
  | false =>
    obtain ⟨status, hhandle, hcode⟩ := handle_of_not_swallows hm err
    rw [hhandle, Method.receive, class_mapGRPCError, hcode, readClass_wireCode]
    simp

/-- What is no fault of the infrastructure is not told to the breaker. -/
theorem Coded.not_counted (h : Coded err type) (htype : type.business = true) (m : Method) :
    (m.handle err).failure? = none := by
  cases hm : m.swallows with
  | true =>
    cases m with
    | validate | taskStatus => rfl
    | _ => cases hm
  | false =>
    obtain ⟨status, hhandle, hcode⟩ := handle_of_not_swallows hm err
    have hclass := readClass_wireCode.mpr h
    rw [← hcode] at hclass
    rw [hhandle]
    unfold readClass at hclass
    split at hclass
    · rename_i hnotFound
      simp [Reply.failure?, isInfraFailure, hnotFound]
    · rename_i hinvalid
      simp [Reply.failure?, isInfraFailure, hinvalid]
    · cases hclass
      cases htype
    · cases hclass
      cases htype
    · cases hclass

/-- A call that is no failure never opens the breaker. -/
theorem intercept_not_opened {cb : CircuitBreaker} {call : FailedCall}
    (h : (call.method.handle call.err).failure? = none) (hopen : cb.state ≠ .stateOpen) :
    (intercept cb call).state ≠ .stateOpen := by
  have hsuccess : ∀ {cb : CircuitBreaker}, cb.state ≠ .stateOpen →
      (cb.recordResult none call.now).state ≠ .stateOpen := by
    intro cb hopen
    rw [CircuitBreaker.recordResult, if_neg (by simp), CircuitBreaker.recordSuccess]
    split
    · split
      · exact nofun
      · exact hopen
    · exact hopen
    · exact hopen
  unfold intercept
  rw [h]
  generalize hallow : cb.allowCall call.now = asked
  obtain ⟨allowed, after⟩ := asked
  have hasks := CircuitBreaker.allowCall_asks cb call.now
  rw [hallow] at hasks
  cases hasks with
  | closed hstate | probe hstate hcalls => exact hsuccess hopen
  | early hstate | entered hstate | blocked hstate => exact absurd hstate hopen
  | full hstate hcalls => exact hopen

/-- The manager gets the class of the error, and no error that is not one of the infrastructure
counts towards opening the breaker. -/
structure FailedCall.Kept (call : FailedCall) : Prop where
  received : (call.method.receive (call.method.handle call.err)).class? = call.err.class?
  uncounted : call.err.class?.any ErrorType.business = true →
    (call.method.handle call.err).failure? = none ∧
    ∀ cb : CircuitBreaker, cb.state ≠ .stateOpen → (intercept cb call).state ≠ .stateOpen

/-- The class of an error is kept exactly if its status is one that the client reads as that class
and the method passes errors on. -/
theorem coded_classes_kept {call : FailedCall} (hclass : call.err.class? = some type) :
    call.Kept ↔ call.method.swallows = false ∧ Coded call.err type := by
  constructor
  · intro h
    exact (class_receive call.method).mp (h.received.trans hclass)
  · intro h
    refine ⟨((class_receive call.method).mpr h).trans hclass.symm, fun htype => ?_⟩
    rw [hclass] at htype
    have huncounted := h.2.not_counted htype call.method
    exact ⟨huncounted, fun cb => intercept_not_opened huncounted⟩

theorem coded_classes_kept_deadline : FailedCall.Kept
    ⟨.power, .caused .retryable "guest" (.status ⟨.deadlineExceeded, "no answer"⟩), 0⟩ :=
  (@coded_classes_kept .retryable _ rfl).mpr ⟨rfl, Or.inl ⟨_, rfl, .inr rfl⟩⟩

namespace Sample

/-- The Clone of the libvirt provider, for a request without a target name. -/
def unnamed : FailedCall := ⟨.clone, .provider .invalidSpec "clone target name is required", 0⟩

end Sample

open Sample

/-- Ten requests without a target name lose their class and open the breaker. -/
theorem invalid_spec_opens_breaker :
    unnamed.err.class? = some .invalidSpec ∧
    (unnamed.method.receive (unnamed.method.handle unnamed.err)).class? =
      none ∧
    (interceptAll (newCircuitBreaker "lab" "libvirt" "lab" none)
      (replicate 10 unnamed)).state = .stateOpen := by
  refine ⟨rfl, by decide, by decide⟩

end Virtrigaud.Transport
