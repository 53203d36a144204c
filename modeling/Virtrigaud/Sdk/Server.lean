import Virtrigaud.Go.Strings
import Virtrigaud.Sdk.Middleware

/-!
# Starting a provider server

The mains of the providers resolve the TLS material, give it to the SDK's server together with
the authentication that goes with it, and refuse to start otherwise. Certificates are read by
`crypto/tls`, `crypto/x509` and the certificate watcher, the parameters of `TLSLibrary`.
-/

namespace Virtrigaud.Sdk

open Effects

/-- What is at a path. A `hidden` file is there, but `os.Stat` fails on it: a directory above it
may not be searched, say. A regular file has no content if it cannot be read. -/
inductive File
  | absent
  | hidden
  | irregular
  | regular (content : Option (List Char))
  deriving DecidableEq, Repr

structure Environment where
  files : String → File
  getenv : String → String

def providerTLSMountPath : String := "/etc/virtrigaud/tls"

def providerTLSCertFile : String := providerTLSMountPath ++ "/tls.crt"

def providerTLSKeyFile : String := providerTLSMountPath ++ "/tls.key"

def providerTLSCAFile : String := providerTLSMountPath ++ "/ca.crt"

def envAllowedSANs : String := "VIRTRIGAUD_PROVIDER_ALLOWED_SANS"

def envInsecure : String := "VIRTRIGAUD_PROVIDER_INSECURE"

structure TLSConfig where
  (certFile keyFile : String)
  caFile : String := ""
  (requireClientCert autoReload : Bool := false)
  deriving DecidableEq, Repr

structure TLSResolution where
  tls : Option TLSConfig
  auth : AuthConfig
  insecure : Bool := false

/-- `ErrInsecureModeOptedIn` is a sentinel that comes with a resolution. -/
inductive ResolveError
  | insecureModeOptedIn
  | failed (text : String)
  deriving DecidableEq, Repr

def fileExists (env : Environment) (path : String) : Bool :=
  match env.files path with
  | .absent | .hidden | .irregular => false
  | .regular _ => true

def parseAllowedSANs (raw : String) : List String :=
  if raw = "" then []
  else ((raw.toList.splitOn ',').map Go.trimSpace |>.filter (· ≠ [])).map String.ofList

def isInsecureOptedIn (env : Environment) : Bool :=
  Go.toLower (Go.trimSpace (env.getenv envInsecure).toList) = "true".toList

def resolveTLSAndAuth (env : Environment) : Option TLSResolution × Option ResolveError :=
  let certExists := fileExists env providerTLSCertFile
  let keyExists := fileExists env providerTLSKeyFile
  let caExists := fileExists env providerTLSCAFile
  let allFilesPresent := certExists && keyExists && caExists
  let allFilesAbsent := !certExists && !keyExists && !caExists
  let allowedSANs := parseAllowedSANs (env.getenv envAllowedSANs)
  if allFilesPresent then
    (some
      { tls := some
          { certFile := providerTLSCertFile, keyFile := providerTLSKeyFile
            caFile := providerTLSCAFile, requireClientCert := true, autoReload := true }
        auth := { requireTLS := true, allowedSANs := allowedSANs } }, none)
  else if allFilesAbsent && isInsecureOptedIn env then
    (some { tls := none, auth := { requireTLS := false }, insecure := true },
      some .insecureModeOptedIn)
  else if allFilesAbsent then
    (none, some (.failed ("TLS material missing at " ++ providerTLSMountPath ++ " and " ++
      envInsecure ++ " is not set to \"true\"; either provision " ++ providerTLSMountPath ++
      "/\x7btls.crt,tls.key,ca.crt\x7d or set " ++ envInsecure ++
      "=true to opt into plaintext (audit-flagged)")))
  else
    let missing := (if certExists then [] else [providerTLSCertFile]) ++
      (if keyExists then [] else [providerTLSKeyFile]) ++
      (if caExists then [] else [providerTLSCAFile])
    (none, some (.failed ("TLS material partially present; missing required files: " ++
      ", ".intercalate missing)))

/-- The libraries that read certificates; `none` stands for success where an error is returned.
`appendCertsFromPEM` gives the certificates of a bundle that parse. -/
structure TLSLibrary where
  (newCertWatcher loadX509KeyPair : File → File → Option String)
  readFile : File → Except String (List Char)
  appendCertsFromPEM : List Char → List Certificate

inductive ClientAuth
  | noClientCert
  | requireAndVerifyClientCert
  deriving DecidableEq, Repr

/-- The server side `tls.Config`; `watched` tells whether `GetCertificate` is that of a watcher. -/
structure ServerTLSConfig where
  watched : Bool
  clientCAs : List Certificate := []
  clientAuth : ClientAuth := .noClientCert
  deriving DecidableEq, Repr

/-- The part of `buildServerTLSConfig` that loads the server's own certificate. -/
def loadLeaf (lib : TLSLibrary) (env : Environment) (tlsConfig : TLSConfig) :
    Except String Unit :=
  let cert := env.files tlsConfig.certFile
  let key := env.files tlsConfig.keyFile
  let pair := "(cert=" ++ tlsConfig.certFile ++ " key=" ++ tlsConfig.keyFile ++ "): "
  if tlsConfig.autoReload then
    match lib.newCertWatcher cert key with
    | some err => .error ("failed to create certificate watcher " ++ pair ++ err)
    | none => .ok ()
  else
    match lib.loadX509KeyPair cert key with
    | some err => .error ("failed to load key pair " ++ pair ++ err)
    | none => .ok ()

/-- The part of `buildServerTLSConfig` for a server that requires client certificates. -/
def loadClientCAs (lib : TLSLibrary) (env : Environment) (tlsConfig : TLSConfig) :
    Except String (List Certificate) :=
  if tlsConfig.caFile = "" then .error "RequireClientCert=true requires CAFile to be set"
  else
    match lib.readFile (env.files tlsConfig.caFile) with
    | .error err =>
      .error ("failed to read client CA bundle (" ++ tlsConfig.caFile ++ "): " ++ err)
    | .ok caPEM =>
      let pool := lib.appendCertsFromPEM caPEM
      if pool.isEmpty then
        .error ("failed to parse any certificates from CA bundle " ++ tlsConfig.caFile)
      else .ok pool

def buildServerTLSConfig (lib : TLSLibrary) (env : Environment) (tlsConfig : TLSConfig) :
    Except String ServerTLSConfig := do
  let config : ServerTLSConfig := { watched := tlsConfig.autoReload }
  loadLeaf lib env tlsConfig
  if tlsConfig.requireClientCert then
    let pool ← loadClientCAs lib env tlsConfig
    return { config with clientCAs := pool, clientAuth := .requireAndVerifyClientCert }
  return config

namespace Server

structure Config where
  tls : Option TLSConfig := none
  middleware : Option Middleware.Config := none

end Server

/-- The gRPC server. Without credentials it serves plaintext. -/
structure Server (Request Response : Type) where
  creds : Option ServerTLSConfig
  interceptors : Middleware.Built Request Response

def Server.new (Request Response : Type) (lib : TLSLibrary) (env : Environment)
    (config : Server.Config) : Except String (Server Request Response) :=
  let interceptors := Middleware.build Request Response config.middleware
  match config.tls with
  | none => .ok { creds := none, interceptors := interceptors }
  | some tlsConfig =>
    match buildServerTLSConfig lib env tlsConfig with
    | .error err => .error ("failed to build TLS credentials: " ++ err)
    | .ok creds => .ok { creds := some creds, interceptors := interceptors }

/-- A `main` that takes TLS and authentication from `ResolveTLSAndAuth` and the rest of its
middleware from elsewhere. -/
def startProvider (Request Response : Type) (lib : TLSLibrary) (env : Environment)
    (rest : Middleware.Config) : Except String (Server Request Response) :=
  match resolveTLSAndAuth env with
  | (_, some (.failed text)) => .error text
  | (none, _) => .error "invalid memory address or nil pointer dereference"
  | (some resolution, _) =>
    Server.new Request Response lib env
      { tls := resolution.tls, middleware := some { rest with auth := some resolution.auth } }

/-- The mains of the libvirt, vSphere, Proxmox and mock providers. -/
def main (Request Response : Type) (lib : TLSLibrary) (env : Environment) :
    Except String (Server Request Response) :=
  startProvider Request Response lib env { logging := some ⟨true⟩, recovery := some ⟨true⟩ }

variable {Request Response : Type} {lib : TLSLibrary} {env : Environment}

def tlsFiles : List String := [providerTLSCertFile, providerTLSKeyFile, providerTLSCAFile]

/-- The operator has set the escape hatch to "true", in any case and with blanks around it. -/
def OptedIn (env : Environment) : Prop :=
  Go.toLower (Go.trimSpace (env.getenv envInsecure).toList) = "true".toList

/-- The three outcomes of `ResolveTLSAndAuth`. -/
inductive Resolves (env : Environment) : Option TLSResolution × Option ResolveError → Prop
  | mtls : Resolves env
      (some
        { tls := some
            { certFile := providerTLSCertFile, keyFile := providerTLSKeyFile
              caFile := providerTLSCAFile, requireClientCert := true, autoReload := true }
          auth :=
            { requireTLS := true
              allowedSANs := parseAllowedSANs (env.getenv envAllowedSANs) } }, none)
  | insecure (habsent : ∀ path ∈ tlsFiles, fileExists env path = false) (hopted : OptedIn env) :
      Resolves env (some { tls := none, auth := { requireTLS := false }, insecure := true },
        some .insecureModeOptedIn)
  | refused (text : String) : Resolves env (none, some (.failed text))

theorem resolves (env : Environment) : Resolves env (resolveTLSAndAuth env) := by
  unfold resolveTLSAndAuth
  dsimp only
  split
  · exact .mtls
  · split
    · rename_i h
      simp only [Bool.and_eq_true, Bool.not_eq_true'] at h
      obtain ⟨⟨⟨hcert, hkey⟩, hca⟩, hopted⟩ := h
      refine .insecure ?_ (by simpa [isInsecureOptedIn, OptedIn] using hopted)
      simpa [tlsFiles] using ⟨hcert, hkey, hca⟩
    · split
      · exact .refused _
      · exact .refused _

theorem loadClientCAs_ok {tlsConfig : TLSConfig} {pool : List Certificate}
    (h : loadClientCAs lib env tlsConfig = .ok pool) :
    ∃ caPEM, lib.readFile (env.files tlsConfig.caFile) = .ok caPEM ∧
      pool = lib.appendCertsFromPEM caPEM := by
  unfold loadClientCAs at h
  split at h
  · cases h
  · split at h
    · cases h
    · rename_i caPEM hread
      dsimp only at h
      split at h
      · cases h
      · cases h
        exact ⟨caPEM, hread, rfl⟩

/-- With client certificates required, a configuration is built from a readable bundle only. -/
theorem buildServerTLSConfig_ok {tlsConfig : TLSConfig} {creds : ServerTLSConfig}
    (h : buildServerTLSConfig lib env tlsConfig = .ok creds)
    (hrequire : tlsConfig.requireClientCert = true) :
    creds.clientAuth = .requireAndVerifyClientCert ∧
      ∃ caPEM, lib.readFile (env.files tlsConfig.caFile) = .ok caPEM ∧
        creds.clientCAs = lib.appendCertsFromPEM caPEM := by
  unfold buildServerTLSConfig at h
  simp only [hrequire, ↓reduceIte] at h
  cases hleaf : loadLeaf lib env tlsConfig with
  | error err =>
    rw [hleaf] at h
    cases h
  | ok _ =>
    cases hpool : loadClientCAs lib env tlsConfig with
    | error err =>
      rw [hleaf, hpool] at h
      cases h
    | ok pool =>
      rw [hleaf, hpool] at h
      cases h
      exact ⟨rfl, loadClientCAs_ok hpool⟩

/-- A started server: plaintext by the escape hatch alone, or with TLS and authentication. -/
inductive Started (lib : TLSLibrary) (env : Environment) (server : Server Request Response) : Prop
  | insecure (hcreds : server.creds = none)
      (habsent : ∀ path ∈ tlsFiles, fileExists env path = false) (hopted : OptedIn env)
  | mtls (creds : ServerTLSConfig) (caPEM : List Char) (hcreds : server.creds = some creds)
      (hclientAuth : creds.clientAuth = .requireAndVerifyClientCert)
      (hread : lib.readFile (env.files providerTLSCAFile) = .ok caPEM)
      (hpool : creds.clientCAs = lib.appendCertsFromPEM caPEM)
      (hauth : server.interceptors.Authenticated
        { requireTLS := true, allowedSANs := parseAllowedSANs (env.getenv envAllowedSANs) })

theorem startProvider_ok {rest : Middleware.Config} {server : Server Request Response}
    (h : startProvider Request Response lib env rest = .ok server) : Started lib env server := by
  have hresolves := resolves env
  unfold startProvider at h
  generalize resolveTLSAndAuth env = resolution at h hresolves
  cases hresolves with
  | refused text => cases h
  | insecure habsent hopted =>
    cases h
    exact .insecure rfl habsent hopted
  | mtls =>
    simp only [Server.new] at h
    split at h
    · cases h
    · rename_i creds hbuild
      cases h
      obtain ⟨hclientAuth, caPEM, hread, hpool⟩ := buildServerTLSConfig_ok hbuild rfl
      exact .mtls creds caPEM rfl hclientAuth hread hpool (Middleware.build_authenticated rfl rfl)

/-- `crypto/tls` keeps to its configuration: with client certificates required, the chains of a
connection are those it has verified against the pool. -/
def Handshake (verifies : List Certificate → List Certificate → Prop) (creds : ServerTLSConfig)
    (ctx : Context) : Prop :=
  creds.clientAuth = .requireAndVerifyClientCert →
    ∀ info, ctx.peer = some ⟨some (.tlsInfo info)⟩ →
      ∀ chain ∈ info.verifiedChains, verifies creds.clientCAs chain

/-- The call comes over a connection whose client chain verifies against the bundle, and whose
leaf is on the allow-list unless that is empty. -/
def Authentic (verifies : List Certificate → List Certificate → Prop) (lib : TLSLibrary)
    (env : Environment) (ctx : Context) : Prop :=
  ∃ caPEM chain, lib.readFile (env.files providerTLSCAFile) = .ok caPEM ∧
    verifies (lib.appendCertsFromPEM caPEM) chain ∧
    ctx.Admitted (parseAllowedSANs (env.getenv envAllowedSANs)) chain

theorem authentic_of_handshake {verifies : List Certificate → List Certificate → Prop}
    {creds : ServerTLSConfig} {caPEM : List Char} {ctx : Context}
    (hclientAuth : creds.clientAuth = .requireAndVerifyClientCert)
    (hread : lib.readFile (env.files providerTLSCAFile) = .ok caPEM)
    (hpool : creds.clientCAs = lib.appendCertsFromPEM caPEM)
    (hhandshake : Handshake verifies creds ctx)
    (hauth : authenticateRequest ctx
      { requireTLS := true
        allowedSANs := parseAllowedSANs (env.getenv envAllowedSANs) } = none) :
    Authentic verifies lib env ctx := by
  obtain ⟨chain, info, leaf, hpeer, hchain, hleaf, hallowed⟩ :=
    authenticateRequest_eq_none hauth rfl
  have hverified := hhandshake hclientAuth info hpeer chain hchain
  exact ⟨caPEM, chain, hread, hpool ▸ hverified, info, leaf, hpeer, hchain, hleaf, hallowed⟩

theorem startProvider_insecure (habsent : ∀ path ∈ tlsFiles, fileExists env path = false)
    (hopted : OptedIn env) (rest : Middleware.Config) :
    ∃ server, startProvider Request Response lib env rest = .ok server ∧ server.creds = none := by
  have hfiles := habsent
  simp only [tlsFiles, List.forall_mem_cons] at hfiles
  obtain ⟨hcert, hkey, hca, -⟩ := hfiles
  have hinsecure : isInsecureOptedIn env = true := decide_eq_true hopted
  simp only [startProvider, resolveTLSAndAuth, hcert, hkey, hca, hinsecure]
  exact ⟨_, rfl, rfl⟩

/-- With TLS, the handlers of a server that was started through the SDK run only for authentic
connections. And it serves plaintext only without TLS files and with the escape hatch, exactly if
the operator who opens the hatch has a regular file in place, or no file at all. -/
theorem provider_serves_mtls (lib : TLSLibrary) (env : Environment) (rest : Middleware.Config) :
    (∀ server : Server Request Response, startProvider Request Response lib env rest = .ok server →
      (server.creds = none → (∀ path ∈ tlsFiles, env.files path = .absent) ∧ OptedIn env) ∧
      ∀ creds verifies ctx, server.creds = some creds → Handshake verifies creds ctx →
        (∀ fullMethod req,
          (Middleware.serve server.interceptors.unaryInterceptors fullMethod ⟨ctx, req⟩).Only
            fun _ => Authentic verifies lib env ctx) ∧
        (∀ fullMethod id,
          (Middleware.serve server.interceptors.streamInterceptors fullMethod ⟨ctx, id⟩).Only
            fun _ => Authentic verifies lib env ctx)) ↔
      (OptedIn env → (∃ path ∈ tlsFiles, fileExists env path = true) ∨
        ∀ path ∈ tlsFiles, env.files path = .absent) := by
  constructor
  · intro h hopted
    by_cases habsent : ∀ path ∈ tlsFiles, fileExists env path = false
    · obtain ⟨server, hstart, hcreds⟩ := startProvider_insecure habsent hopted rest
      exact .inr ((h server hstart).1 hcreds).1
    · simp only [not_forall, Bool.not_eq_false] at habsent
      obtain ⟨path, hpath, hexists⟩ := habsent
      exact .inl ⟨path, hpath, hexists⟩
  · intro hfiles server hstart
    cases startProvider_ok hstart with
    | insecure hcreds habsent hopted =>
      refine ⟨fun _ => ⟨(hfiles hopted).resolve_left ?_, hopted⟩, fun creds _ _ h => ?_⟩
      · rintro ⟨path, hpath, hexists⟩
        rw [habsent path hpath] at hexists
        cases hexists
      · rw [hcreds] at h
        cases h
    | mtls creds caPEM hcreds hclientAuth hread hpool hauth =>
      refine ⟨fun h => ?_, fun creds' verifies ctx h hhandshake => ?_⟩
      · rw [hcreds] at h
        cases h
      · rw [hcreds] at h
        cases h
        have hcalls {χ : Type} (_ : Invocation χ) :=
          authentic_of_handshake hclientAuth hread hpool hhandshake
        exact ⟨fun _ _ => (Middleware.serve_only hauth.1 _ _).mono hcalls,
          fun _ _ => (Middleware.serve_only hauth.2 _ _).mono hcalls⟩

namespace Sample

def ca : Certificate := { commonName := "ca" }

def manager : Certificate := { commonName := "manager", dnsNames := ["virtrigaud-manager"] }

/-- A library for which every file with content is valid. -/
def library : TLSLibrary where
  newCertWatcher cert key :=
    match cert, key with
    | .regular (some _), .regular (some _) => none
    | _, _ => some "permission denied"
  loadX509KeyPair _ _ := none
  readFile
    | .regular (some content) => .ok content
    | _ => .error "permission denied"
  appendCertsFromPEM _ := [ca]

def environment (file : File) (insecure : String) : Environment where
  files _ := file
  getenv name := if name = envInsecure then insecure else "virtrigaud-manager, spare"

def call (chains : List (List Certificate)) : Context where
  peer := some ⟨some (.tlsInfo ⟨chains⟩)⟩

/-- A chain is verified by the certificate at its end. -/
def verifies (pool chain : List Certificate) : Prop := ∃ root ∈ pool, chain.getLast? = some root

end Sample

open Sample

/-- With files the manager is served, over a connection that is then authentic. -/
theorem provider_serves_mtls_sample :
    ∃ server next, main Unit Unit library (environment (.regular (some [])) "true") = .ok server ∧
      Middleware.serve server.interceptors.unaryInterceptors "/Create"
        ⟨call [[manager, ca]], ()⟩ =
          .call ⟨"/Create", call [[manager, ca]], ()⟩ next ∧
      Authentic verifies library (environment (.regular (some [])) "true")
        (call [[manager, ca]]) := by
  have hserved := ((provider_serves_mtls _ _ _).mpr (fun _ => .inl (by decide)) _
    (rfl : main Unit Unit library (environment (.regular (some [])) "true") = .ok _)).2 _ verifies
      (call [[manager, ca]]) rfl (by
        rintro - _ ⟨⟩ chain hchain
        obtain rfl := List.mem_singleton.mp hchain
        exact ⟨ca, by decide, rfl⟩)
  exact ⟨_, _, rfl, rfl, (hserved.1 "/Create" ()).1⟩

/-- Files that cannot be seen count as absent, so a server with TLS material starts in
plaintext. -/
theorem plaintext_with_hidden_files :
    ∃ server, main Unit Unit library (environment .hidden "true") = .ok server ∧
      server.creds = none ∧ ∀ path ∈ tlsFiles,
        (environment .hidden "true").files path ≠ .absent :=
  ⟨_, rfl, rfl, by simp [environment]⟩

end Virtrigaud.Sdk
