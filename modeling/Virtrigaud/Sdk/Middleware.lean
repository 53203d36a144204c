import Virtrigaud.Api.Meta
import Virtrigaud.Effects.Program

/-!
# The interceptors of the provider servers

An interceptor decides whether, and with which context, the handler of a method is entered.
Entering a handler is the only call of these programs, and a handler may answer anything: a
response, a status or a panic. Unary and streaming interceptors differ in what a handler gets,
a `Carrier`, and are otherwise one definition.
-/

namespace Virtrigaud.Sdk

open Effects List

inductive Code
  | unauthenticated
  | permissionDenied
  | internal
  | other (number : Nat)
  deriving DecidableEq, Repr

structure Status where
  code : Code
  message : String
  deriving DecidableEq, Repr

structure Certificate where
  commonName : String := ""
  (dnsNames uris : List String := [])
  deriving DecidableEq, Repr

/-- `credentials.TLSInfo`: the chains that `crypto/tls` has verified, leaf first. -/
structure TLSInfo where
  verifiedChains : List (List Certificate)
  deriving DecidableEq, Repr

inductive AuthInfo
  | tlsInfo (info : TLSInfo)
  | other (authType : String)
  deriving DecidableEq, Repr

structure Peer where
  authInfo : Option AuthInfo
  deriving DecidableEq, Repr

/-- `authorization` is the header of that name; `none` stands for a request without metadata. -/
structure Context where
  peer : Option Peer := none
  authorization : Option (List String) := none
  timeout : Option Duration := none
  deriving DecidableEq, Repr

variable (Request : Type) (ctx : Context)

/-- `context.WithTimeout`: an earlier deadline of the parent stays. -/
def Context.withTimeout (timeout : Duration) : Context :=
  { ctx with timeout := some ((ctx.timeout.map (min · timeout)).getD timeout) }

structure AuthConfig where
  requireTLS : Bool := false
  allowedSANs : List String := []
  bearerTokenAuth : Bool := false
  validateToken : Context → String → Option String := fun _ _ => none

def certMatchesAllowList (leaf : Certificate) (allowedSANs : List String) : Bool :=
  allowedSANs.any fun allowed =>
    leaf.dnsNames.any (· = allowed) || leaf.uris.any (· = allowed) ||
      (leaf.commonName ≠ "" && leaf.commonName = allowed)

def validateTLSPeer (allowedSANs : List String) : Option Status :=
  match ctx.peer with
  | none => some ⟨.unauthenticated, "mTLS required: no peer information"⟩
  | some peer =>
    match peer.authInfo with
    | none => some ⟨.unauthenticated, "mTLS required: connection is not TLS"⟩
    | some (.other _) =>
      some ⟨.unauthenticated, "mTLS required: TLS handshake info unavailable"⟩
    | some (.tlsInfo info) =>
      match info.verifiedChains with
      | (leaf :: _) :: _ =>
        if allowedSANs.isEmpty then none
        else if certMatchesAllowList leaf allowedSANs then none
        else some ⟨.permissionDenied,
          "client certificate does not match the configured allow-list"⟩
      | _ => some ⟨.unauthenticated, "mTLS required: no verified client certificate"⟩

def validateBearerToken (validate : Context → String → Option String) : Option String :=
  match ctx.authorization with
  | none => some "no metadata"
  | some [] => some "no authorization header"
  | some (token :: _) =>
    if token.toList.take 7 ≠ "Bearer ".toList then some "invalid authorization header format"
    else validate ctx (String.ofList (token.toList.drop 7))

def authenticateRequest (config : AuthConfig) : Option Status :=
  match if config.requireTLS then validateTLSPeer ctx config.allowedSANs else none with
  | some err => some err
  | none =>
    if config.bearerTokenAuth && (validateBearerToken ctx config.validateToken).isSome then
      some ⟨.permissionDenied, "permission denied: token authentication failed"⟩
    else none

/-- An entry of the allow-list names the certificate. -/
def Certificate.Matches (leaf : Certificate) (allowed : String) : Prop :=
  allowed ∈ leaf.dnsNames ∨ allowed ∈ leaf.uris ∨ allowed ≠ "" ∧ allowed = leaf.commonName

theorem certMatchesAllowList_iff {leaf : Certificate} {allowedSANs : List String} :
    certMatchesAllowList leaf allowedSANs = true ↔
      ∃ allowed ∈ allowedSANs, leaf.Matches allowed := by
  simp only [certMatchesAllowList, Certificate.Matches, any_eq_true]
  refine exists_congr fun allowed => and_congr_right fun _ => ?_
  simp only [Bool.or_eq_true, any_eq_true, Bool.and_eq_true, decide_eq_true_eq,
    exists_eq_right, or_assoc]
  refine or_congr_right (or_congr_right ?_)
  constructor
  · rintro ⟨hne, rfl⟩
    exact ⟨hne, rfl⟩
  · rintro ⟨hne, rfl⟩
    exact ⟨hne, rfl⟩

/-- The peer of the call has a verified chain whose leaf passes the allow-list. -/
def Context.Admitted (allowedSANs : List String) (chain : List Certificate) : Prop :=
  ∃ info leaf, ctx.peer = some ⟨some (.tlsInfo info)⟩ ∧ chain ∈ info.verifiedChains ∧
    chain.head? = some leaf ∧ (allowedSANs ≠ [] → ∃ allowed ∈ allowedSANs, leaf.Matches allowed)

theorem validateTLSPeer_eq_none {ctx : Context} {allowedSANs : List String}
    (h : validateTLSPeer ctx allowedSANs = none) : ∃ chain, ctx.Admitted allowedSANs chain := by
  unfold validateTLSPeer at h
  split at h
  · cases h
  · rename_i peer hpeer
    split at h
    · cases h
    · cases h
    · rename_i info hinfo
      split at h
      · rename_i leaf chain chains hchains
        refine ⟨leaf :: chain, info, leaf, ?_, by simp [hchains], rfl, fun hne => ?_⟩
        · rw [hpeer, ← hinfo]
        · rw [if_neg (by simpa using hne)] at h
          split at h
          · rename_i hmatch
            exact certMatchesAllowList_iff.mp hmatch
          · cases h
      · cases h

theorem authenticateRequest_eq_none {ctx : Context} {config : AuthConfig}
    (h : authenticateRequest ctx config = none) (htls : config.requireTLS = true) :
    ∃ chain, ctx.Admitted config.allowedSANs chain := by
  unfold authenticateRequest at h
  rw [if_pos htls] at h
  split at h
  · cases h
  · rename_i hpeer
    exact validateTLSPeer_eq_none hpeer

/-- What a handler ends with. -/
inductive Outcome (ρ : Type)
  | returned (resp : ρ)
  | failed (status : Status)
  | panicked (reason : String)
  deriving DecidableEq, Repr

/-- The handler of a method is entered with an argument. -/
structure Invocation (χ : Type) where
  fullMethod : String
  argument : χ
  deriving DecidableEq, Repr

/-- What a panic becomes in the deferred function of the recovery interceptors. -/
def Outcome.recovered {ρ : Type} : Outcome ρ → Outcome ρ
  | .panicked _ => .failed ⟨.internal, "internal server error"⟩
  | outcome => outcome

abbrev Serving (χ ρ : Type) : Type → Type := Program (Invocation χ) (fun _ => Outcome ρ)

abbrev Handler (χ ρ : Type) : Type := χ → Serving χ ρ (Outcome ρ)

/-- A function of `info.FullMethod`, the handler that comes next and its argument. -/
abbrev Interceptor (χ ρ : Type) : Type := String → Handler χ ρ → Handler χ ρ

/-- An argument of a handler that carries the context of the call. -/
structure Carrier (χ : Type) where
  context : χ → Context
  withContext : χ → Context → χ

structure UnaryCall where
  ctx : Context
  req : Request
  deriving DecidableEq, Repr

/-- A `grpc.ServerStream`; `id` tells the streams apart. -/
structure ServerStream where
  ctx : Context
  id : Nat
  deriving DecidableEq, Repr

def unaryCarrier : Carrier (UnaryCall Request) where
  context := UnaryCall.ctx
  withContext call ctx := { call with ctx := ctx }

/-- `timeoutServerStream` replaces the context and nothing else. -/
def streamCarrier : Carrier ServerStream where
  context := ServerStream.ctx
  withContext stream ctx := { stream with ctx := ctx }

structure LoggingConfig where
  enabled : Bool

structure RecoveryConfig where
  enabled : Bool

structure RateLimitConfig where
  enabled : Bool

structure TimeoutConfig where
  defaultTimeout : Duration
  perMethodTimeouts : String → Option Duration

structure MetricsConfig where
  enabled : Bool

namespace Middleware

structure Config where
  logging : Option LoggingConfig := none
  recovery : Option RecoveryConfig := none
  auth : Option AuthConfig := none
  rateLimit : Option RateLimitConfig := none
  timeout : Option TimeoutConfig := none
  metrics : Option MetricsConfig := none

section Interceptors

variable {χ ρ : Type}

def recoveryInterceptor : Interceptor χ ρ := fun _ handler argument => do
  let outcome ← handler argument
  pure outcome.recovered

def authInterceptor (carrier : Carrier χ) (config : AuthConfig) : Interceptor χ ρ :=
  fun _ handler argument =>
    match authenticateRequest (carrier.context argument) config with
    | some err => pure (.failed err)
    | none => handler argument

def timeoutInterceptor (carrier : Carrier χ) (config : TimeoutConfig) : Interceptor χ ρ :=
  fun fullMethod handler argument =>
    let timeout := (config.perMethodTimeouts fullMethod).getD config.defaultTimeout
    handler (carrier.withContext argument ((carrier.context argument).withTimeout timeout))

/-- The rate limit is not implemented; metrics and logging observe the call only. -/
def passInterceptor : Interceptor χ ρ := fun _ handler argument => handler argument

end Interceptors

section Unary

variable {Request Response : Type}

def recoveryUnaryInterceptor (_ : RecoveryConfig) : Interceptor (UnaryCall Request) Response :=
  recoveryInterceptor

def authUnaryInterceptor (config : AuthConfig) : Interceptor (UnaryCall Request) Response :=
  authInterceptor (unaryCarrier Request) config

def rateLimitUnaryInterceptor (_ : RateLimitConfig) :
    Interceptor (UnaryCall Request) Response := passInterceptor

def timeoutUnaryInterceptor (config : TimeoutConfig) :
    Interceptor (UnaryCall Request) Response :=
  timeoutInterceptor (unaryCarrier Request) config

def metricsUnaryInterceptor (_ : MetricsConfig) : Interceptor (UnaryCall Request) Response :=
  passInterceptor

def loggingUnaryInterceptor (_ : LoggingConfig) : Interceptor (UnaryCall Request) Response :=
  passInterceptor

end Unary

/-- A streaming handler returns an error or nothing. -/
def recoveryStreamInterceptor (_ : RecoveryConfig) : Interceptor ServerStream Unit :=
  recoveryInterceptor

def authStreamInterceptor (config : AuthConfig) : Interceptor ServerStream Unit :=
  authInterceptor streamCarrier config

def rateLimitStreamInterceptor (_ : RateLimitConfig) : Interceptor ServerStream Unit :=
  passInterceptor

def timeoutStreamInterceptor (config : TimeoutConfig) : Interceptor ServerStream Unit :=
  timeoutInterceptor streamCarrier config

def metricsStreamInterceptor (_ : MetricsConfig) : Interceptor ServerStream Unit :=
  passInterceptor

def loggingStreamInterceptor (_ : LoggingConfig) : Interceptor ServerStream Unit :=
  passInterceptor

/-- `Build` fills both lists in step, each interceptor under one test. -/
structure Built (Response : Type) where
  unaryInterceptors : List (Interceptor (UnaryCall Request) Response)
  streamInterceptors : List (Interceptor ServerStream Unit)

namespace Built

variable {Request Response : Type}

/-- Append an interceptor of each kind if the configuration asks for it. -/
def add {γ : Type} (built : Built Request Response) (config : Option γ) (enabled : γ → Bool)
    (unary : γ → Interceptor (UnaryCall Request) Response)
    (stream : γ → Interceptor ServerStream Unit) : Built Request Response :=
  match config with
  | none => built
  | some c =>
    if enabled c then
      { unaryInterceptors := built.unaryInterceptors ++ [unary c]
        streamInterceptors := built.streamInterceptors ++ [stream c] }
    else built

end Built

def build (Response : Type) (config : Option Config) : Built Request Response :=
  match config with
  | none => ⟨[], []⟩
  | some config =>
    (((((Built.mk [] []
      |>.add config.recovery (·.enabled) recoveryUnaryInterceptor recoveryStreamInterceptor)
      |>.add config.auth (fun auth => auth.requireTLS || auth.bearerTokenAuth)
        authUnaryInterceptor authStreamInterceptor)
      |>.add config.rateLimit (·.enabled) rateLimitUnaryInterceptor rateLimitStreamInterceptor)
      |>.add config.timeout (0 < ·.defaultTimeout) timeoutUnaryInterceptor
        timeoutStreamInterceptor)
      |>.add config.metrics (·.enabled) metricsUnaryInterceptor metricsStreamInterceptor)
      |>.add config.logging (·.enabled) loggingUnaryInterceptor loggingStreamInterceptor

/-- `grpc.ChainUnaryInterceptor` and `grpc.ChainStreamInterceptor`: the first is outermost. -/
def chain {χ ρ : Type} (interceptors : List (Interceptor χ ρ)) : Interceptor χ ρ :=
  fun fullMethod handler =>
    interceptors.foldr (fun interceptor next => interceptor fullMethod next) handler

/-- What a registered method does with a call: enter its handler behind the interceptors. -/
def serve {χ ρ : Type} (interceptors : List (Interceptor χ ρ)) (fullMethod : String)
    (argument : χ) : Serving χ ρ (Outcome ρ) :=
  chain interceptors fullMethod (fun argument => Program.perform ⟨fullMethod, argument⟩) argument

section Guards

variable {χ ρ : Type} {interceptor guard : Interceptor χ ρ}
  {interceptors rest : List (Interceptor χ ρ)}

/-- The next handler is entered with the same argument, if at all. -/
def Transparent (interceptor : Interceptor χ ρ) : Prop :=
  ∀ (P : Invocation χ → Prop) (fullMethod : String) (handler : Handler χ ρ) (argument : χ),
    (handler argument).Only P → (interceptor fullMethod handler argument).Only P

/-- Every call reaches the guard as it came in. -/
def Guarded (guard : Interceptor χ ρ) (interceptors : List (Interceptor χ ρ)) : Prop :=
  ∃ front rest, interceptors = front ++ guard :: rest ∧ ∀ i ∈ front, Transparent i

theorem transparent_recovery : Transparent (recoveryInterceptor : Interceptor χ ρ) :=
  fun _ _ _ _ h => h.bind fun _ => trivial

theorem Guarded.append (h : Guarded guard interceptors) : Guarded guard (interceptors ++ rest) := by
  obtain ⟨front, back, rfl, hfront⟩ := h
  exact ⟨front, back ++ rest, by simp, hfront⟩

theorem chain_append (fullMethod : String) (handler : Handler χ ρ) :
    chain (interceptors ++ rest) fullMethod handler =
      chain interceptors fullMethod (chain rest fullMethod handler) := by
  simp [chain]

theorem chain_transparent (h : ∀ i ∈ interceptors, Transparent i) :
    Transparent (chain interceptors) := by
  intro P fullMethod handler argument honly
  induction interceptors with
  | nil => exact honly
  | cons first others ih =>
    exact h first (by simp) P fullMethod _ argument (ih fun i hi => h i (by simp [hi]))

theorem authInterceptor_only (carrier : Carrier χ) (config : AuthConfig) (fullMethod : String)
    (handler : Handler χ ρ) (argument : χ) :
    (authInterceptor carrier config fullMethod handler argument).Only
      fun _ => authenticateRequest (carrier.context argument) config = none := by
  unfold authInterceptor
  split
  · exact trivial
  · rename_i hauth
    exact Program.only_of_forall fun _ => hauth

/-- Behind the authentication a handler is entered only for an accepted call, whatever the
other interceptors are. -/
theorem serve_only {carrier : Carrier χ} {config : AuthConfig}
    (h : Guarded (authInterceptor carrier config) interceptors) (fullMethod : String)
    (argument : χ) :
    (serve interceptors fullMethod argument).Only
      fun _ => authenticateRequest (carrier.context argument) config = none := by
  obtain ⟨front, rest, rfl, hfront⟩ := h
  rw [serve, chain_append]
  exact chain_transparent hfront _ fullMethod _ argument
    (authInterceptor_only carrier config fullMethod _ argument)

end Guards

section Build

variable {Request Response : Type}

/-- Both kinds of calls are authenticated first. -/
def Built.Authenticated (built : Built Request Response) (auth : AuthConfig) : Prop :=
  Guarded (authUnaryInterceptor auth) built.unaryInterceptors ∧
    Guarded (authStreamInterceptor auth) built.streamInterceptors

theorem Built.Authenticated.add {γ : Type} {built : Built Request Response} {auth : AuthConfig}
    (h : built.Authenticated auth) (config : Option γ) (enabled : γ → Bool)
    (unary : γ → Interceptor (UnaryCall Request) Response)
    (stream : γ → Interceptor ServerStream Unit) :
    (built.add config enabled unary stream).Authenticated auth := by
  unfold Built.add
  split
  · exact h
  · split
    · exact ⟨h.1.append, h.2.append⟩
    · exact h

theorem build_authenticated {config : Config} {auth : AuthConfig} (hauth : config.auth = some auth)
    (hon : (auth.requireTLS || auth.bearerTokenAuth) = true) :
    (build Request Response (some config)).Authenticated auth := by
  refine .add (.add (.add (.add ?_ ..) ..) ..) ..
  -- only the recovery interceptors can stand before the authentication
  rw [hauth, Built.add, if_pos hon]
  cases hrecovery : config.recovery with
  | none => exact ⟨⟨[], [], rfl, by simp⟩, [], [], rfl, by simp⟩
  | some recovery =>
    by_cases henabled : recovery.enabled = true
    · rw [Built.add, if_pos henabled]
      exact ⟨⟨[_], [], rfl, forall_mem_singleton.mpr transparent_recovery⟩,
        [_], [], rfl, forall_mem_singleton.mpr transparent_recovery⟩
    · rw [Built.add, if_neg henabled]
      exact ⟨⟨[], [], rfl, by simp⟩, [], [], rfl, by simp⟩

end Build

end Middleware

end Virtrigaud.Sdk
