import Virtrigaud.Go.Net
import Virtrigaud.Migration.StagedURL
import Virtrigaud.Uri.Authority

/-!
# The policy for storage hosts

The manager checks the addresses of an S3 endpoint or an NFS server, and the providers dial a
URL that is made from the same text. The check splits host and port at a colon, and the URL
has its authority read by RFC 3986. Without an at sign in the authority, the host of the URL is
the one whose addresses were checked; with one, what is checked is the user of the URL.
-/

namespace Virtrigaud.Storage

/-- An address; IPv4 includes the mapped addresses of IPv6, which has eight groups. -/
inductive IP
  | v4 (a b c d : Nat)
  | v6 (groups : List Nat)
  deriving DecidableEq, Repr

namespace IP

def isLoopback : IP → Bool
  | v4 a _ _ _ => a == 127
  | v6 groups => groups == [0, 0, 0, 0, 0, 0, 0, 1]

def isUnspecified : IP → Bool
  | v4 a b c d => a == 0 && b == 0 && c == 0 && d == 0
  | v6 groups => groups.all (· == 0)

/-- `169.254.0.0/16` and `fe80::/10`. -/
def isLinkLocalUnicast : IP → Bool
  | v4 a b _ _ => a == 169 && b == 254
  | v6 groups => groups.head?.any (· / 64 == 0x3fa)

/-- `224.0.0.0/24` and the multicast addresses of scope 2. -/
def isLinkLocalMulticast : IP → Bool
  | v4 a b c _ => a == 224 && b == 0 && c == 0
  | v6 groups => groups.head?.any fun g => g / 256 == 255 && g % 16 == 2

def isInterfaceLocalMulticast : IP → Bool
  | v4 _ _ _ _ => false
  | v6 groups => groups.head?.any fun g => g / 256 == 255 && g % 16 == 1

def isMulticast : IP → Bool
  | v4 a _ _ _ => a / 16 == 14
  | v6 groups => groups.head?.any (· / 256 == 255)

/-- The address as a number. -/
def value : IP → Nat
  | v4 a b c d => ((a * 256 + b) * 256 + c) * 256 + d
  | v6 groups => groups.foldl (fun n g => n * 65536 + g) 0

def width : IP → Nat
  | v4 _ _ _ _ => 32
  | v6 _ => 128

end IP

/-- A network, by an address and the length of its mask. -/
structure IPNet where
  ip : IP
  ones : Nat
  deriving DecidableEq, Repr

def IPNet.contains (net : IPNet) (ip : IP) : Bool :=
  net.ip.width == ip.width &&
    net.ip.value >>> (ip.width - net.ones) == ip.value >>> (ip.width - net.ones)

structure URL where
  scheme : String
  host : List Char
  deriving DecidableEq, Repr

/-- What the code takes from Go's `net` and `net/url`. -/
structure Net where
  parseIP : List Char → Option IP
  parseCIDR : List Char → Option IPNet
  text : IP → String
  lookupIP : List Char → Except GoError (List IP)
  parseURL : List Char → Except GoError URL

structure HostPolicy where
  allow : List IPNet := []
  allowConfigured : Bool := false
  deriving DecidableEq, Repr

def singleHostNet (ip : IP) : IPNet := ⟨ip, ip.width⟩

section Policy

variable (p : HostPolicy) (net : Net) (host endpoint : List Char)

/-- The loop of `NewHostPolicy`: one entry of the allowlist. -/
def HostPolicy.addEntry (raw : String) : Except GoError HostPolicy :=
  let entry := Go.trimSpace raw.toList
  if entry = [] then .ok p
  else
  match net.parseCIDR entry with
  | some ipnet => .ok { p with allowConfigured := true, allow := p.allow ++ [ipnet] }
  | none =>
  match net.parseIP entry with
  | some ip => .ok { p with allowConfigured := true, allow := p.allow ++ [singleHostNet ip] }
  | none =>
    .error (errorf ("invalid storage-host allowlist entry " ++ Go.quoted (String.ofList entry) ++
      " (want an IP or CIDR)"))

def newHostPolicy (allow : List String) : Except GoError HostPolicy :=
  allow.foldlM (HostPolicy.addEntry · net) {}

def isAlwaysDenied (ip : IP) : Bool :=
  ip.isLoopback || ip.isUnspecified || ip.isLinkLocalUnicast || ip.isLinkLocalMulticast ||
    ip.isInterfaceLocalMulticast || ip.isMulticast

def HostPolicy.inAllowlist (ip : IP) : Bool := p.allow.any (·.contains ip)

def resolveHost : Except GoError (List IP) :=
  match net.parseIP host with
  | some ip => .ok [ip]
  | none => net.lookupIP host

/-- The host that `ValidateHost` resolves, from the trimmed text. -/
def checkedHost (h : List Char) : List Char :=
  Go.trim Go.isBracket
    (match Go.splitHostPort h with
    | some (hostOnly, _) => hostOnly
    | none => h)

/-- What `ValidateHost` says about one address of the host. -/
def HostPolicy.refuse (h : String) (ip : IP) : Option GoError :=
  if isAlwaysDenied ip then
    some (errorf ("storage host " ++ Go.quoted h ++ " resolves to forbidden address " ++
      net.text ip ++ " (loopback/link-local/metadata/multicast are blocked)"))
  else if p.allowConfigured && !p.inAllowlist ip then
    some (errorf ("storage host " ++ Go.quoted h ++ " (" ++ net.text ip ++
      ") is not in the configured storage-host allowlist"))
  else none

def HostPolicy.validateHost : Option GoError :=
  let h := Go.trimSpace host
  if h = [] then some (errorf "storage host is empty")
  else
  let h := checkedHost h
  let text := String.ofList h
  match resolveHost net h with
  | .error err => some (err.wrap ("cannot resolve storage host " ++ Go.quoted text))
  | .ok [] => some (errorf ("storage host " ++ Go.quoted text ++ " resolved to no addresses"))
  | .ok ips => ips.findSome? (p.refuse net text)

def hostFromS3Endpoint : List Char :=
  let e := Go.trimSpace endpoint
  if e = [] then []
  else if Go.contains e "://".toList then
    match net.parseURL e with
    | .ok u => if u.host ≠ [] then u.host else e
    | .error _ => e
  else e

def defaultS3Endpoint : List Char := "s3.amazonaws.com".toList

def HostPolicy.validateS3Endpoint : Option GoError :=
  let host := hostFromS3Endpoint net endpoint
  p.validateHost net (if host = [] then defaultS3Endpoint else host)

/-- `parseS3Endpoint`: the host that the client is made with, and whether it uses TLS. -/
def parseS3Endpoint : Except GoError (List Char × Bool) :=
  if endpoint = [] then .ok (defaultS3Endpoint, true)
  else if ¬ Go.contains endpoint "://".toList then .ok (endpoint, true)
  else
  match net.parseURL endpoint with
  | .error err =>
    .error (err.wrap ("invalid s3 endpoint " ++ Go.quoted (String.ofList endpoint)))
  | .ok u =>
    if u.scheme = "http" then .ok (u.host, false)
    else if u.scheme = "https" then .ok (u.host, true)
    else .error (errorf ("unsupported s3 endpoint scheme " ++ Go.quoted u.scheme ++
      " (use http or https)"))

/-- The URL that the S3 client dials. -/
def s3URL (secure : Bool) : List Char :=
  (if secure then "https://".toList else "http://".toList) ++ host

end Policy

open Uri List Go

/-- What `net` and `net/url` promise. Addresses are written with hexadecimal digits, dots and
colons; Go's resolver answers only for letters, digits, hyphens, underscores and dots; the host
of a URL is without its user; and blanks around a URL are an error or part of its path. -/
structure Net.Lawful (net : Net) : Prop where
  literal : ∀ h ip, net.parseIP h = some ip → ∀ c ∈ h, isHexDigit c = true ∨ c = '.' ∨ c = ':'
  name : ∀ h ips, net.lookupIP h = .ok ips →
    ∀ c ∈ h, c.isAlphanum = true ∨ c = '-' ∨ c = '_' ∨ c = '.'
  user : ∀ e u, net.parseURL e = .ok u → '@' ∉ u.host
  blanks : ∀ e u, net.parseURL e = .ok u →
    ∃ u', net.parseURL (trimSpace e) = .ok u' ∧ u'.host = u.host

/-- Nothing in the text ends an authority or a user, or is a bracket. -/
def Plain (s : List Char) : Prop :=
  ∀ c ∈ s, endsAuthority c = false ∧ isBracket c = false ∧ c ≠ '@'

/-- The policy lets the address pass. -/
def HostPolicy.permits (p : HostPolicy) (ip : IP) : Bool :=
  !isAlwaysDenied ip && (!p.allowConfigured || p.inAllowlist ip)

/-- The policy has resolved the host, and lets all its addresses pass. -/
def HostPolicy.Passed (p : HostPolicy) (net : Net) (host : List Char) : Prop :=
  ∃ ips, resolveHost net host = .ok ips ∧ ips ≠ [] ∧ ∀ ip ∈ ips, p.permits ip = true

variable {p : HostPolicy}

theorem refuse_eq_none_iff {net : Net} {h : String} {ip : IP} :
    p.refuse net h ip = none ↔ p.permits ip = true := by
  unfold HostPolicy.refuse HostPolicy.permits
  cases isAlwaysDenied ip <;> cases p.allowConfigured <;> cases p.inAllowlist ip <;> simp

/-- A host is accepted exactly if the policy lets all addresses that it has pass. -/
theorem validateHost_eq_none_iff {net : Net} {host : List Char} :
    p.validateHost net host = none ↔
      trimSpace host ≠ [] ∧ p.Passed net (checkedHost (trimSpace host)) := by
  unfold HostPolicy.validateHost HostPolicy.Passed
  by_cases hempty : trimSpace host = []
  · simp [hempty]
  dsimp only
  rw [if_neg hempty, and_iff_right hempty]
  cases hresolved : resolveHost net (checkedHost (trimSpace host)) with
  | error err => simp
  | ok ips =>
    cases ips with
    | nil => simp
    | cons ip ips => simp [refuse_eq_none_iff]

theorem plain_of_isAlphanum {c : Char} (h : c.isAlphanum = true) :
    endsAuthority c = false ∧ isBracket c = false ∧ c ≠ '@' := by
  have hne : ∀ d : Char, d.isAlphanum = false → c ≠ d := by
    rintro d hd rfl
    rw [h] at hd
    cases hd
  simp [endsAuthority, isBracket, hne '/' rfl, hne '?' rfl, hne '#' rfl, hne '[' rfl, hne ']' rfl,
    hne '@' rfl]

theorem plain_of_passed {net : Net} (hnet : net.Lawful) {host : List Char} (h : p.Passed net host) :
    Plain host := by
  obtain ⟨ips, hresolved, -, -⟩ := h
  unfold resolveHost at hresolved
  intro c hc
  split at hresolved
  · rename_i ip hip
    rcases hnet.literal host ip hip c hc with hhex | rfl | rfl
    · have hplain : ("0123456789abcdefABCDEF".toList.all
          fun c => !endsAuthority c && (!isBracket c && c != '@')) = true := rfl
      simpa using all_eq_true.mp hplain c (contains_iff_mem.mp hhex)
    · decide
    · decide
  · rcases hnet.name host ips hresolved c hc with halnum | rfl | rfl | rfl
    · exact plain_of_isAlphanum halnum
    · decide
    · decide
    · decide

variable {s : List Char}

theorem trim_of_any_eq_false {cut : Char → Bool} (h : s.any cut = false) : trim cut s = s := by
  have hcut : ∀ c ∈ s, cut c = false := fun c hc => Bool.eq_false_iff.mpr (any_eq_false.mp h c hc)
  exact trim_eq_self (fun c hc => hcut c (mem_of_mem_head? hc))
    fun c hc => hcut c (mem_of_mem_getLast? hc)

variable {x : List Char}

/-- What is between the brackets is what trimming leaves. -/
theorem trim_brackets {after : List Char} (hne : x ≠ []) (hx : x.any isBracket = false)
    (hplain : Plain (trim isBracket ('[' :: (x ++ ']' :: after)))) :
    trim isBracket ('[' :: (x ++ ']' :: after)) = x := by
  have hnot : ∀ c ∈ x, (!isBracket c) = true := by
    intro c hc
    rw [Bool.eq_false_iff.mpr (any_eq_false.mp hx c hc)]
    rfl
  have hdrop : ('[' :: (x ++ ']' :: after)).dropWhile isBracket = x ++ ']' :: after := by
    obtain ⟨c, rest, rfl⟩ := exists_cons_of_ne_nil hne
    have hc : ¬ isBracket c = true := any_eq_false.mp hx c (.head _)
    rw [dropWhile_cons_of_pos rfl, cons_append, dropWhile_cons_of_neg hc]
  have heq : trim isBracket ('[' :: (x ++ ']' :: after)) ++
      (x ++ ']' :: after).rtakeWhile isBracket = x ++ ']' :: after := by
    rw [trim, hdrop, rdropWhile_append_rtakeWhile]
  -- Both are the text before the first bracket.
  have hleft : (x ++ ']' :: after).takeWhile (!isBracket ·) = x := by
    rw [takeWhile_append_of_pos hnot, takeWhile_cons_of_neg (by decide), append_nil]
  have hback : ∀ back : List Char, (∀ c ∈ back, isBracket c = true) →
      back.takeWhile (!isBracket ·) = [] := by
    intro back hback
    cases back with
    | nil => rfl
    | cons c back => exact takeWhile_cons_of_neg (by simp [hback c mem_cons_self])
  rw [← heq, takeWhile_append_of_pos (fun c hc => by rw [(hplain c hc).2.1]; rfl),
    hback _ (fun c => mem_rtakeWhile_imp), append_nil] at hleft
  exact hleft

variable {h host port : List Char}

/-- The host of the authority, if the text can be split. -/
theorem host_of_split (hsplit : splitHostPort h = some (host, port))
    (hends : ∀ c ∈ host, endsAuthority c = false) (hx : Uri.host (authority h) = some x) :
    x = host := by
  obtain ⟨hbracket, heq⟩ := splitHostPort_eq hsplit
  have hclosing : ']' ∉ host := (any_isBracket.mp hbracket).2
  rcases heq with rfl | ⟨rfl, hcolon, -, hnone⟩
  · rw [authority_cons rfl, authority_append hends, authority_cons rfl] at hx
    rcases host_eq_some hx with ⟨after, heq, hmem, -, -⟩ | ⟨hhead, -⟩
    · exact (append_cons_inj hclosing hmem (cons.inj heq).2).1.symm
    · exact absurd rfl hhead
  · have heq : authority (host ++ ':' :: port) = host ++ ':' :: authority port := by
      rw [authority_append hends, authority_cons rfl]
    rcases host_eq_some hx with ⟨after, hafter, -, -, -⟩ | ⟨-, rest, hrest, hcolon', -, -, hport⟩
    · -- The address would begin with a bracket.
      have hmem : '[' ∈ authority (host ++ ':' :: port) := hafter ▸ .head _
      exact absurd (takeWhile_subset _ hmem) (any_isBracket.mp hnone).1
    · rw [heq] at hrest
      cases rest with
      | nil =>
        rw [append_nil] at hrest
        exact absurd (hrest ▸ mem_append_right _ (.head _)) hcolon'
      | cons c digits =>
        obtain rfl : c = ':' := beq_iff_eq.mp (Bool.and_eq_true_iff.mp hport).1
        exact (append_cons_inj hcolon hcolon' hrest).1.symm

/-- The host of the authority, if the text is taken as a whole. -/
theorem host_of_whole (hsplit : splitHostPort h = none) (hplain : Plain (trim isBracket h))
    (hx : Uri.host (authority h) = some x) : x = trim isBracket h := by
  have hends : ∀ c ∈ h, endsAuthority c = false := by
    intro c hc
    rcases cut_or_mem_trim isBracket hc with hbracket | hin
    · rcases Bool.or_eq_true_iff.mp hbracket with hc | hc <;> rw [beq_iff_eq.mp hc] <;> rfl
    · exact (hplain c hin).1
  rw [authority_eq_self hends] at hx
  rcases host_eq_some hx with ⟨after, rfl, hclosing, hliteral, -⟩ |
    ⟨-, rest, rfl, hcolon, -, hname, hport⟩
  · have hopening : '[' ∉ x := ipLiteral_not_mem rfl (by decide) (by decide) hliteral
    have hne : x ≠ [] := by
      rintro rfl
      cases hliteral
    exact (trim_brackets hne (any_isBracket.mpr ⟨hopening, hclosing⟩) hplain).symm
  · have hnone : (x ++ rest).any isBracket = false := by
      simp only [any_isBracket, mem_append, not_or]
      exact ⟨⟨regName_not_mem rfl (by decide) (by decide) (by decide) hname,
          optionalPort_not_mem rfl (by decide) hport⟩,
        regName_not_mem rfl (by decide) (by decide) (by decide) hname,
          optionalPort_not_mem rfl (by decide) hport⟩
    rw [trim_of_any_eq_false hnone]
    cases rest with
    | nil => exact (append_nil x).symm
    | cons c digits =>
      obtain ⟨hc, hdigits⟩ := Bool.and_eq_true_iff.mp hport
      obtain rfl : c = ':' := beq_iff_eq.mp hc
      have hdigit : ':' ∉ digits := fun hmem => absurd (all_eq_true.mp hdigits _ hmem) (by decide)
      rw [splitHostPort_of_colon hcolon hdigit hnone] at hsplit
      cases hsplit

/-- The host of the authority is the one that is checked. -/
theorem host_checked (hplain : Plain (checkedHost h)) (hx : Uri.host (authority h) = some x) :
    x = checkedHost h := by
  unfold checkedHost at hplain ⊢
  cases hsplit : splitHostPort h with
  | some parts =>
    rw [hsplit] at hplain
    rw [trim_of_any_eq_false (splitHostPort_eq hsplit).1] at hplain ⊢
    exact host_of_split hsplit (fun c hc => (hplain c hc).1) hx
  | none =>
    rw [hsplit] at hplain
    exact host_of_whole hsplit hplain hx

/-- What follows an at sign in the authority is the text before the first colon. Without an at
sign there is nothing to show. -/
def Harmless (s : List Char) : Prop :=
  ∀ user host, authority s = user ++ '@' :: host → host = s.takeWhile (· ≠ ':')

theorem harmless_of_not_mem {s : List Char} (h : '@' ∉ s) : Harmless s := by
  intro user host hs
  have hmem : '@' ∈ authority s := hs ▸ mem_append_right _ (.head _)
  exact absurd (takeWhile_subset _ hmem) h

theorem authorityHost_of_not_mem {s : List Char} (hat : '@' ∉ s) (h : authorityHost s = some x) :
    Uri.host s = some x := by
  unfold authorityHost at h
  split at h
  · rwa [if_neg (by simpa using hat)] at h
  · cases h

/-- With an at sign, the text before the colon is checked, and the text after the at sign is the
host of the URL. -/
theorem host_of_user {user host : List Char} (hplain : Plain (checkedHost s))
    (hs : authority s = user ++ '@' :: host) (hx : authorityHost (authority s) = some x) :
    host = x ∧ s.takeWhile (· ≠ ':') = checkedHost s := by
  rw [hs] at hx
  obtain ⟨hbracket, hat, hhost⟩ := authorityHost_user hx
  have hmem : ∀ c ∈ user ++ '@' :: host, c ∈ s := fun c hc =>
    takeWhile_subset _ (hs.symm ▸ hc : c ∈ authority s)
  have hlost : '@' ∉ checkedHost s := fun hin => (hplain _ hin).2.2 rfl
  unfold checkedHost at hplain hlost ⊢
  cases hsplit : splitHostPort s with
  | none =>
    -- Trimming brackets would leave the at sign.
    rw [hsplit] at hlost
    rcases cut_or_mem_trim isBracket (hmem '@' (mem_append_right _ (.head _))) with hcut | hin
    · exact absurd hcut (by decide)
    · exact absurd hin hlost
  | some parts =>
    obtain ⟨checked, port⟩ := parts
    rw [hsplit] at hplain hlost
    obtain ⟨hnone, heq⟩ := splitHostPort_eq hsplit
    dsimp only at hplain hlost ⊢
    rw [trim_of_any_eq_false hnone] at hplain hlost ⊢
    rcases heq with rfl | ⟨rfl, hcolon, hport, hplainS⟩
    · rw [authority_cons rfl] at hs
      cases user with
      | nil => cases hs
      | cons c user =>
        rw [cons_append] at hs
        obtain rfl := (cons.inj hs).1
        exact absurd (.head _) hbracket
    · refine ⟨?_, (cut_append hcolon port).1⟩
      have hends : ∀ c ∈ checked, endsAuthority c = false := fun c hc => (hplain c hc).1
      rw [authority_append hends, authority_cons rfl] at hs
      rcases host_eq_some hhost with ⟨after, rfl, -, -, -⟩ | ⟨-, rest, rfl, -, -, -, hrest⟩
      · exact absurd (hmem '[' (mem_append_right _ (.tail _ (.head _))))
          (any_isBracket.mp hplainS).1
      · cases rest with
        | nil => exact append_nil x
        | cons c digits =>
          -- The port of the URL would be a second colon.
          obtain rfl : c = ':' := beq_iff_eq.mp (Bool.and_eq_true_iff.mp hrest).1
          rcases append_eq_append_iff.mp hs with ⟨mid, rfl, hmid⟩ | ⟨mid, rfl, hmid⟩
          · cases mid with
            | nil => cases hmid
            | cons c mid =>
              have hauthority := (cons.inj hmid).2
              refine absurd (takeWhile_subset _ (hauthority.symm ▸ ?_ : ':' ∈ authority port)) hport
              exact mem_append_right _ (.tail _ (mem_append_right _ (.head _)))
          · cases mid with
            | nil => cases hmid
            | cons c mid =>
              obtain rfl := (cons.inj hmid).1
              exact absurd (mem_append_right _ (.head _)) hlost

theorem isSpace_hidden {c : Char} (h : isSpace c = true) :
    isVisible c = false ∧ endsAuthority c = false := by
  have hrange : ¬ (33 ≤ c.toNat ∧ c.toNat ≤ 126) := by
    simp only [isSpace, Bool.or_eq_true, Bool.and_eq_true, decide_eq_true_eq, beq_iff_eq] at h
    omega
  refine ⟨by simpa [isVisible] using hrange, ?_⟩
  cases hends : endsAuthority c with
  | false => rfl
  | true =>
    simp only [endsAuthority, Bool.or_eq_true, beq_iff_eq] at hends
    rcases hends with (rfl | rfl) | rfl <;> exact absurd h (by decide)

variable {s x : List Char}

theorem visible_of_authorityHost (h : authorityHost s = some x) : ∀ c ∈ s, isVisible c = true := by
  unfold authorityHost at h
  split at h
  · rename_i hall
    exact all_eq_true.mp hall
  · cases h

/-- A text with blanks around it designates no other host than without them. -/
theorem authorityHost_trimSpace (h : authorityHost (authority s) = some x) :
    authorityHost (authority (trimSpace s)) = some x := by
  obtain ⟨front, back, heq, hfront, hback⟩ := exists_eq_trim isSpace s
  have hspace : ∀ c, isSpace c = true → c ∉ authority s := by
    intro c hc hmem
    have hvisible := visible_of_authorityHost h c hmem
    rw [(isSpace_hidden hc).1] at hvisible
    cases hvisible
  change authorityHost (authority (trim isSpace s)) = some x
  generalize trim isSpace s = inner at heq ⊢
  subst heq
  cases front with
  | cons c front =>
    have hc := hfront c (.head _)
    refine absurd ?_ (hspace c hc)
    rw [cons_append, cons_append, authority_cons (isSpace_hidden hc).2]
    exact .head _
  | nil =>
    rw [nil_append] at h hspace
    cases back with
    | nil => rwa [append_nil] at h
    | cons c back =>
      have hc := hback c (.head _)
      by_cases hends : ∃ d ∈ inner, endsAuthority d = true
      · obtain ⟨d, hd, hend⟩ := hends
        rwa [authority_append_of_ends hd hend] at h
      · have hplain : ∀ d ∈ inner, endsAuthority d = false := fun d hd =>
          Bool.eq_false_iff.mpr fun hend => hends ⟨d, hd, hend⟩
        refine absurd ?_ (hspace c hc)
        rw [authority_append hplain, authority_cons (isSpace_hidden hc).2]
        exact mem_append_right _ (.head _)

theorem mem_of_mem_trimSpace {c : Char} (h : c ∈ trimSpace s) : c ∈ s :=
  (trim_sublist isSpace s).mem h

/-- The host of a URL is the one that the policy was asked about, and it has let all its
addresses pass, also if it is written as an address. -/
structure Checked (p : HostPolicy) (net : Net) (asked host : List Char) : Prop where
  eq : host = checkedHost (trimSpace asked)
  passed : p.Passed net host
  literal : ∀ ip, net.parseIP host = some ip → p.permits ip = true

theorem checked_of_eq {net : Net} {asked : List Char} (hvalid : p.validateHost net asked = none)
    (heq : x = checkedHost (trimSpace asked)) : Checked p net asked x := by
  obtain ⟨-, hpassed⟩ := validateHost_eq_none_iff.mp hvalid
  refine ⟨heq, heq ▸ hpassed, fun ip hip => ?_⟩
  obtain ⟨ips, hresolved, -, hall⟩ := hpassed
  rw [← heq, resolveHost, hip] at hresolved
  obtain rfl := Except.ok.inj hresolved
  exact hall ip (.head _)

theorem checked_iff_harmless {net : Net} (hnet : net.Lawful) {asked : List Char}
    (hvalid : p.validateHost net asked = none)
    (hx : authorityHost (authority (trimSpace asked)) = some x) :
    Checked p net asked x ↔ Harmless (trimSpace asked) := by
  have hplain := plain_of_passed hnet (validateHost_eq_none_iff.mp hvalid).2
  constructor
  · intro hchecked user host hs
    obtain ⟨rfl, hcolon⟩ := host_of_user hplain hs hx
    rw [hcolon, hchecked.eq]
  · intro hharmless
    refine checked_of_eq hvalid ?_
    by_cases hat : '@' ∈ authority (trimSpace asked)
    · obtain ⟨user, host, hs, -⟩ := eq_append_cons_of_mem hat
      obtain ⟨rfl, hcolon⟩ := host_of_user hplain hs hx
      rw [← hcolon]
      exact hharmless user _ hs
    · exact host_checked hplain (authorityHost_of_not_mem hat hx)

theorem uriHost_s3URL (host : List Char) (secure : Bool) :
    uriHost (s3URL host secure) = authorityHost (authority host) := by
  cases secure <;> rfl

/-- The text whose host the policy checks for an endpoint. -/
def askedS3 (net : Net) (endpoint : List Char) : List Char :=
  if hostFromS3Endpoint net endpoint = [] then defaultS3Endpoint
  else hostFromS3Endpoint net endpoint

theorem host_ne_nil {host : List Char} (h : authorityHost (authority host) = some x) :
    host ≠ [] := by
  rintro rfl
  cases h

section

variable {net : Net} {endpoint : List Char}

/-- A bare host is asked about as it is. -/
theorem askedS3_bare (hbare : contains endpoint "://".toList = false)
    (hne : trimSpace endpoint ≠ []) : askedS3 net endpoint = trimSpace endpoint := by
  have htrim : contains (trimSpace endpoint) "://".toList = false := by
    rw [Bool.eq_false_iff] at hbare ⊢
    intro hcontains
    obtain ⟨front, back, heq, -, -⟩ := exists_eq_trim isSpace endpoint
    refine hbare (contains_iff_isInfix.mpr ((contains_iff_isInfix.mp hcontains).trans ?_))
    exact ⟨front, back, heq.symm⟩
  have hfrom : hostFromS3Endpoint net endpoint = trimSpace endpoint := by
    unfold hostFromS3Endpoint
    rw [if_neg hne, if_neg (Bool.eq_false_iff.mp htrim)]
  rw [askedS3, hfrom, if_neg hne]

/-- Of a URL its host is asked about. -/
theorem askedS3_url (hnet : net.Lawful) {u : URL} (hurl : contains endpoint "://".toList = true)
    (hu : net.parseURL endpoint = .ok u) (hne : u.host ≠ []) :
    askedS3 net endpoint = u.host := by
  obtain ⟨u', hu', hhost⟩ := hnet.blanks endpoint u hu
  have hsolid : ("://".toList.all fun c => !isSpace c) = true := rfl
  have hcontains : contains (trimSpace endpoint) "://".toList = true :=
    contains_iff_isInfix.mpr (infix_trim (by decide)
      (fun c hc => by simpa using all_eq_true.mp hsolid c hc) (contains_iff_isInfix.mp hurl))
  have htrim : trimSpace endpoint ≠ [] := by
    intro hnil
    rw [hnil] at hcontains
    cases hcontains
  have hfrom : hostFromS3Endpoint net endpoint = u.host := by
    unfold hostFromS3Endpoint
    rw [if_neg htrim, if_pos hcontains, hu']
    dsimp only
    rw [hhost, if_pos hne]
  rw [askedS3, hfrom, if_neg hne]

theorem checked_s3 (hnet : net.Lawful) {host : List Char} {secure : Bool}
    (hvalid : p.validateS3Endpoint net endpoint = none)
    (hparse : parseS3Endpoint net endpoint = .ok (host, secure))
    (hx : uriHost (s3URL host secure) = some x) :
    Checked p net (askedS3 net endpoint) x ↔
      (contains endpoint "://".toList = false → Harmless (trimSpace endpoint)) := by
  rw [uriHost_s3URL] at hx
  have hvalid : p.validateHost net (askedS3 net endpoint) = none := hvalid
  unfold parseS3Endpoint at hparse
  split at hparse
  · rename_i hempty
    cases hparse
    subst hempty
    have hasked : askedS3 net [] = defaultS3Endpoint := rfl
    rw [hasked] at hvalid ⊢
    refine iff_of_true ((checked_iff_harmless hnet hvalid hx).mpr ?_) fun _ => ?_
    · exact harmless_of_not_mem (by decide)
    · exact harmless_of_not_mem (by decide)
  rename_i hne
  split at hparse
  · rename_i hbare
    cases hparse
    rw [Bool.not_eq_true] at hbare
    have hsome := authorityHost_trimSpace hx
    rw [askedS3_bare hbare (host_ne_nil hsome)] at hvalid ⊢
    rw [forall_prop_of_true hbare, checked_iff_harmless hnet hvalid
      (by rwa [trimSpace_trimSpace]), trimSpace_trimSpace]
  · rename_i hurl
    rw [not_not] at hurl
    split at hparse
    · cases hparse
    · rename_i u hu
      obtain rfl : u.host = host := by
        split at hparse
        · cases hparse
          rfl
        split at hparse
        · cases hparse
          rfl
        · cases hparse
      rw [askedS3_url hnet hurl hu (host_ne_nil hx)] at hvalid ⊢
      refine iff_of_true ((checked_iff_harmless hnet hvalid (authorityHost_trimSpace hx)).mpr ?_)
        fun hbare => ?_
      · exact harmless_of_not_mem fun hmem => hnet.user endpoint u hu (mem_of_mem_trimSpace hmem)
      · rw [hurl] at hbare
        cases hbare

end

theorem endsAuthority_of_rejectURLUnsafe {name : String} {value : List Char}
    (h : Migration.rejectURLUnsafe name value false = none) :
    ∀ c ∈ value, endsAuthority c = false := by
  unfold Migration.rejectURLUnsafe at h
  split at h
  · cases h
  rename_i hnone
  intro c hc
  have hsafe := findSome?_eq_none_iff.mp hnone c hc
  cases hends : endsAuthority c with
  | false => rfl
  | true =>
    simp only [endsAuthority, Bool.or_eq_true, beq_iff_eq] at hends
    rcases hends with (rfl | rfl) | rfl <;> cases hsafe

variable {config : NFSStorageConfig}

theorem nfsURL_eq {key url : String} (h : Migration.nfsURL config key = .ok url) : ∃ rest,
      url.toList = "nfs://".toList ++ (trimSpace config.server.toList ++ '/' :: rest) ∧
      ∀ c ∈ trimSpace config.server.toList, endsAuthority c = false := by
  obtain ⟨query, -, hserver, -, rfl⟩ := Migration.nfsURL_ok h
  obtain ⟨kept, hpath⟩ : ∃ kept, Migration.nfsPath (trimSpace config.export.toList) config
      key.toList = '/' :: kept := ⟨_, rfl⟩
  refine ⟨kept ++ query, ?_, endsAuthority_of_rejectURLUnsafe hserver⟩
  rw [String.toList_ofList, hpath, append_assoc, append_assoc, cons_append]

theorem checked_nfs {net : Net} (hnet : net.Lawful) {key url : String}
    (hvalid : p.validateHost net config.server.toList = none)
    (hurl : Migration.nfsURL config key = .ok url) (hx : uriHost url.toList = some x) :
    Checked p net config.server.toList x ↔ Harmless (trimSpace config.server.toList) := by
  obtain ⟨rest, heq, hends⟩ := nfsURL_eq hurl
  have hafter : uriHost url.toList =
      authorityHost (authority (trimSpace config.server.toList ++ '/' :: rest)) := by
    rw [heq]
    rfl
  rw [hafter, authority_append hends, authority_cons_of_ends rfl, append_nil,
    ← authority_eq_self hends] at hx
  exact checked_iff_harmless hnet hvalid hx

namespace Sample

/-- Four decimal numbers up to 255. -/
def parseIPv4 (s : List Char) : Option IP :=
  if s.all fun c => isHexDigit c || c == '.' then
    match (s.splitOn '.').map digits? with
    | [some a, some b, some c, some d] =>
      if [a, b, c, d].all (· ≤ 255) then some (.v4 a b c d) else none
    | _ => none
  else none

/-- No names are known, and no URLs are used. -/
def net : Net where
  parseIP := parseIPv4
  parseCIDR := fun _ => none
  text := fun _ => ""
  lookupIP := fun _ => .error (errorf "no such host")
  parseURL := fun _ => .error (errorf "invalid URL")

theorem net_lawful : net.Lawful where
  literal h ip hip c hc := by
    have hip : parseIPv4 h = some ip := hip
    unfold parseIPv4 at hip
    split at hip
    · rename_i hall
      have hchar := all_eq_true.mp hall c hc
      rw [Bool.or_eq_true, beq_iff_eq] at hchar
      exact hchar.imp_right .inl
    · cases hip
  name _ _ h := by cases h
  user _ _ h := by cases h
  blanks _ _ h := by cases h

def endpoint : List Char := "10.0.0.5:x@169.254.169.254".toList

def filer : NFSStorageConfig := { server := "10.0.0.5:x@127.0.0.1", «export» := "/stage" }

end Sample

open Sample

/-- The network that an entry of an allowlist stands for. -/
def entryNet (net : Net) (raw : String) : Option IPNet :=
  let entry := trimSpace raw.toList
  if entry = [] then none
  else (net.parseCIDR entry).or ((net.parseIP entry).map singleHostNet)

/-- An entry that is neither blank nor an error adds its network. -/
theorem addEntry_ok {net : Net} {q : HostPolicy} {raw : String} (h : p.addEntry net raw = .ok q) :
    q.allow = p.allow ++ (entryNet net raw).toList ∧
      q.allowConfigured = (p.allowConfigured || decide (trimSpace raw.toList ≠ [])) := by
  unfold HostPolicy.addEntry at h
  unfold entryNet
  dsimp only at h ⊢
  by_cases hblank : trimSpace raw.toList = []
  · rw [if_pos hblank] at h ⊢
    cases h
    exact ⟨(append_nil _).symm, by rw [hblank]; exact (Bool.or_false _).symm⟩
  · rw [if_neg hblank] at h ⊢
    rw [decide_eq_true hblank, Bool.or_true]
    cases hcidr : net.parseCIDR (trimSpace raw.toList) with
    | some ipnet =>
      rw [hcidr] at h
      cases h
      exact ⟨rfl, rfl⟩
    | none =>
      cases hip : net.parseIP (trimSpace raw.toList) with
      | some ip =>
        rw [hcidr, hip] at h
        cases h
        exact ⟨rfl, rfl⟩
      | none =>
        rw [hcidr, hip] at h
        cases h

theorem newHostPolicy_ok {net : Net} {allow : List String} (h : newHostPolicy net allow = .ok p) :
    p.allow = allow.filterMap (entryNet net) ∧
      p.allowConfigured = allow.any (trimSpace ·.toList ≠ []) := by
  -- The loop, from any policy it may have built so far.
  suffices hloop : p.allow = ({} : HostPolicy).allow ++ allow.filterMap (entryNet net) ∧
      p.allowConfigured = (({} : HostPolicy).allowConfigured ||
        allow.any (trimSpace ·.toList ≠ [])) from hloop
  unfold newHostPolicy at h
  generalize ({} : HostPolicy) = q at h ⊢
  induction allow generalizing q with
  | nil =>
    cases h
    exact ⟨(append_nil _).symm, (Bool.or_false _).symm⟩
  | cons raw allow ih =>
    rw [foldlM_cons] at h
    cases hadd : q.addEntry net raw with
    | error err =>
      rw [hadd] at h
      cases h
    | ok next =>
      rw [hadd] at h
      obtain ⟨hallow, hconfigured⟩ := ih next h
      obtain ⟨hnets, hadded⟩ := addEntry_ok hadd
      rw [hallow, hconfigured, hnets, hadded, filterMap_cons, any_cons, append_assoc, Bool.or_assoc]
      refine ⟨?_, rfl⟩
      cases entryNet net raw with
      | none | some ipnet => rfl

/-- Whatever the resolver answers, a host is accepted exactly if it has addresses, none of which
is always denied, and which all are in the allowlist unless every entry of that is blank. -/
theorem accepted_in_allowlist {net : Net} {allow : List String} {host : List Char}
    (hpolicy : newHostPolicy net allow = .ok p) :
    p.validateHost net host = none ↔ trimSpace host ≠ [] ∧
      ∃ ips, resolveHost net (checkedHost (trimSpace host)) = .ok ips ∧ ips ≠ [] ∧
        ∀ ip ∈ ips, isAlwaysDenied ip = false ∧ ((∀ raw ∈ allow, trimSpace raw.toList = []) ∨
          ∃ raw ∈ allow, ∃ ipnet, entryNet net raw = some ipnet ∧ ipnet.contains ip) := by
  obtain ⟨hallow, hconfigured⟩ := newHostPolicy_ok hpolicy
  have hpermits : ∀ ip, p.permits ip = true ↔ isAlwaysDenied ip = false ∧
      ((∀ raw ∈ allow, trimSpace raw.toList = []) ∨
        ∃ raw ∈ allow, ∃ ipnet, entryNet net raw = some ipnet ∧ ipnet.contains ip) := by
    intro ip
    rw [HostPolicy.permits, HostPolicy.inAllowlist, hallow, hconfigured]
    simp only [Bool.and_eq_true, Bool.not_eq_true', Bool.or_eq_true, any_eq_false, any_eq_true,
      decide_eq_true_eq, not_not, mem_filterMap]
    refine and_congr_right fun _ => or_congr_right ?_
    exact ⟨fun ⟨ipnet, ⟨raw, hraw, hentry⟩, hin⟩ => ⟨raw, hraw, ipnet, hentry, hin⟩,
      fun ⟨raw, hraw, ipnet, hentry, hin⟩ => ⟨ipnet, ⟨raw, hraw, hentry⟩, hin⟩⟩
  rw [validateHost_eq_none_iff, HostPolicy.Passed]
  simp only [hpermits]

/-- A blank entry leaves the policy open to all but the denied addresses; one address closes it. -/
theorem accepted_in_allowlist_address :
    HostPolicy.validateHost {} net "10.0.0.6".toList = none ∧
      HostPolicy.validateHost ⟨[singleHostNet (.v4 10 0 0 5)], true⟩ net "10.0.0.6".toList ≠
        none := by
  constructor
  · have hpolicy : newHostPolicy net [" "] = .ok {} := rfl
    refine (accepted_in_allowlist hpolicy).mpr ⟨by decide, [.v4 10 0 0 6], by decide +kernel,
      by decide, fun ip hip => ?_⟩
    rw [mem_singleton.mp hip]
    exact ⟨rfl, .inl (by decide)⟩
  · have hpolicy : newHostPolicy net [" ", "10.0.0.5"] =
      .ok ⟨[singleHostNet (.v4 10 0 0 5)], true⟩ := by decide +kernel
    intro haccepted
    obtain ⟨-, ips, hresolved, -, hips⟩ := (accepted_in_allowlist hpolicy).mp haccepted
    have hips' : resolveHost net (checkedHost (trimSpace "10.0.0.6".toList)) =
      .ok [.v4 10 0 0 6] := by decide +kernel
    rw [hips'] at hresolved
    cases hresolved
    have hentries : ∀ raw ∈ [" ", "10.0.0.5"],
        (entryNet net raw).all (!·.contains (.v4 10 0 0 6)) = true := by decide +kernel
    rcases (hips _ (.head _)).2 with hblank | ⟨raw, hraw, ipnet, hentry, hin⟩
    · exact absurd (hblank "10.0.0.5" (.tail _ (.head _))) (by decide)
    · have hout := hentries raw hraw
      rw [hentry, Option.all_some, hin] at hout
      cases hout

end Virtrigaud.Storage
