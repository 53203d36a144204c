import Virtrigaud.Go.Strings

/-!
# The host of a URI

The authority of a URI by RFC 3986: `[userinfo "@"] host [":" port]`, up to the first slash,
question mark or number sign. A host is a name or an address in brackets; what does not have
this form designates no host.
-/

namespace Uri

open List

variable (c : Char) (s : List Char)

def isUnreserved : Bool := c.isAlphanum || c == '-' || c == '.' || c == '_' || c == '~'

def isSubDelim : Bool := "!$&'()*+,;=".toList.contains c

def isHexDigit : Bool := "0123456789abcdefABCDEF".toList.contains c

/-- `reg-name`. -/
def regName : List Char → Bool
  | [] => true
  | '%' :: a :: b :: rest => isHexDigit a && isHexDigit b && regName rest
  | c :: rest => (isUnreserved c || isSubDelim c) && regName rest

/-- `userinfo`: a `reg-name` with colons. -/
def userinfo : Bool := regName (s.filter (· ≠ ':'))

/-- What may stand between the brackets of `IP-literal`. -/
def ipLiteral : Bool :=
  !s.isEmpty && s.all fun c => isUnreserved c || isSubDelim c || c == ':'

/-- Nothing, or a colon with a `port`. -/
def optionalPort : List Char → Bool
  | [] => true
  | c :: digits => c == ':' && digits.all Char.isDigit

/-- The host before a port. -/
def host : Option (List Char) :=
  match s with
  | '[' :: rest =>
    let inner := rest.takeWhile (· ≠ ']')
    match rest.dropWhile (· ≠ ']') with
    | _ :: after => if ipLiteral inner && optionalPort after then some inner else none
    | [] => none
  | _ =>
    let name := s.takeWhile (· ≠ ':')
    if !name.isEmpty && regName name && optionalPort (s.dropWhile (· ≠ ':')) then some name
    else none

/-- URIs are made of visible ASCII characters. -/
def isVisible : Bool := 33 ≤ c.toNat && c.toNat ≤ 126

/-- The host of an authority. -/
def authorityHost : Option (List Char) :=
  if s.all isVisible then
    if s.contains '@' then
      let user := s.takeWhile (· ≠ '@')
      if userinfo user then host (s.dropWhile (· ≠ '@')).tail else none
    else host s
  else none

def endsAuthority : Bool := c == '/' || c == '?' || c == '#'

/-- The authority, from the text after the slashes. -/
def authority : List Char := s.takeWhile fun c => !endsAuthority c

/-- The host of a URI with a scheme and an authority. -/
def uriHost (uri : List Char) : Option (List Char) :=
  (Go.afterFirst "://".toList uri).bind fun rest => authorityHost (authority rest)

example : uriHost "https://10.0.0.5:9000/bucket".toList = some "10.0.0.5".toList := by
  decide +kernel

example : uriHost "nfs://10.0.0.5:x@169.254.169.254/e".toList = some "169.254.169.254".toList := by
  decide +kernel

variable {c : Char} {s : List Char}

theorem regName_not_mem (hplain : isUnreserved c = false) (hsub : isSubDelim c = false)
    (hhex : isHexDigit c = false) (hpercent : c ≠ '%') (h : regName s = true) : c ∉ s := by
  intro hmem
  fun_induction regName s with
  | case1 => cases hmem
  | case2 a b rest ih =>
    simp only [Bool.and_eq_true] at h
    simp only [mem_cons] at hmem
    rcases hmem with rfl | rfl | rfl | hmem
    · exact hpercent rfl
    · rw [h.1.1] at hhex; cases hhex
    · rw [h.1.2] at hhex; cases hhex
    · exact ih h.2 hmem
  | case3 d rest _ ih =>
    simp only [Bool.and_eq_true, Bool.or_eq_true] at h
    rcases mem_cons.mp hmem with rfl | hmem
    · rcases h.1 with h | h
      · rw [h] at hplain; cases hplain
      · rw [h] at hsub; cases hsub
    · exact ih h.2 hmem

theorem ipLiteral_not_mem (hplain : isUnreserved c = false) (hsub : isSubDelim c = false)
    (hcolon : c ≠ ':') (h : ipLiteral s = true) : c ∉ s := by
  intro hmem
  have hall := all_eq_true.mp (Bool.and_eq_true_iff.mp h).2 c hmem
  simp [hplain, hsub, hcolon] at hall

theorem optionalPort_not_mem (hdigit : c.isDigit = false) (hcolon : c ≠ ':')
    (h : optionalPort s = true) : c ∉ s := by
  cases s with
  | nil => exact not_mem_nil
  | cons d digits =>
    obtain ⟨hd, hdigits⟩ := Bool.and_eq_true_iff.mp h
    rw [mem_cons, not_or]
    refine ⟨fun heq => hcolon (heq.trans (beq_iff_eq.mp hd)), fun hmem => ?_⟩
    rw [all_eq_true.mp hdigits c hmem] at hdigit
    cases hdigit

/-- A host is an address in brackets, or a name before the first colon. -/
theorem host_eq_some {s x : List Char} (h : host s = some x) :
    (∃ after, s = '[' :: (x ++ ']' :: after) ∧ ']' ∉ x ∧ ipLiteral x = true ∧
        optionalPort after = true) ∨
      s.head? ≠ some '[' ∧ ∃ rest, s = x ++ rest ∧ ':' ∉ x ∧ x ≠ [] ∧ regName x = true ∧
        optionalPort rest = true := by
  unfold host at h
  split at h
  · rename_i rest
    dsimp only at h
    split at h
    · rename_i c after hdrop
      obtain ⟨rfl, hrest, hinner⟩ := Go.cut_eq hdrop
      split at h
      · rename_i hvalid
        cases h
        exact .inl ⟨after, congrArg _ hrest, hinner, Bool.and_eq_true_iff.mp hvalid⟩
      · cases h
    · cases h
  · rename_i hhead
    dsimp only at h
    split at h
    · rename_i hvalid
      cases h
      simp only [Bool.and_eq_true, Bool.not_eq_true', isEmpty_eq_false_iff] at hvalid
      refine .inr ⟨fun hsome => ?_, s.dropWhile (· ≠ ':'), takeWhile_append_dropWhile.symm,
        fun hmem => by simpa using mem_takeWhile_imp hmem, hvalid.1.1, hvalid.1.2, hvalid.2⟩
      obtain ⟨tail, rfl⟩ := head?_eq_some_iff.mp hsome
      exact hhead tail rfl
    · cases h

theorem at_not_mem_of_host {s x : List Char} (h : host s = some x) : '@' ∉ s := by
  rcases host_eq_some h with ⟨after, rfl, -, hliteral, hport⟩ | ⟨-, rest, rfl, -, -, hname, hport⟩
  · have hx : '@' ∉ x := ipLiteral_not_mem rfl (by decide) (by decide) hliteral
    have hafter : '@' ∉ after := optionalPort_not_mem rfl (by decide) hport
    simp only [mem_cons, mem_append, not_or]
    exact ⟨by decide, hx, by decide, hafter⟩
  · exact not_mem_append (regName_not_mem rfl (by decide) (by decide) (by decide) hname)
      (optionalPort_not_mem rfl (by decide) hport)

/-- A user has no bracket and no at sign, and what follows it is the host. -/
theorem authorityHost_user {user rest x : List Char}
    (h : authorityHost (user ++ '@' :: rest) = some x) :
    '[' ∉ user ∧ '@' ∉ user ∧ host rest = some x := by
  unfold authorityHost at h
  split at h
  · rw [if_pos (by simp)] at h
    dsimp only at h
    split at h
    · rename_i huser
      by_cases hat : '@' ∈ user
      · -- What follows the first at sign would have another.
        obtain ⟨front, back, rfl, hfront⟩ := eq_append_cons_of_mem hat
        rw [append_assoc, cons_append, (Go.cut_append hfront _).2, tail_cons] at h
        exact absurd (mem_append_right _ (.head _)) (at_not_mem_of_host h)
      · obtain ⟨htake, hdrop⟩ := Go.cut_append hat rest
        rw [hdrop] at h
        rw [htake] at huser
        refine ⟨fun hmem => ?_, hat, h⟩
        exact regName_not_mem rfl (by decide) (by decide) (by decide) huser
          (mem_filter.mpr ⟨hmem, by decide⟩)
    · cases h
  · cases h

/-- The authority ends where its end is. -/
theorem authority_append {front rest : List Char} (h : ∀ c ∈ front, endsAuthority c = false) :
    authority (front ++ rest) = front ++ authority rest :=
  takeWhile_append_of_pos fun c hc => by rw [h c hc]; rfl

theorem authority_cons (h : endsAuthority c = false) (rest : List Char) :
    authority (c :: rest) = c :: authority rest :=
  takeWhile_cons_of_pos (by rw [h]; rfl)

theorem authority_cons_of_ends (h : endsAuthority c = true) (rest : List Char) :
    authority (c :: rest) = [] :=
  takeWhile_cons_of_neg (by rw [h]; decide)

/-- What follows the end of the authority does not matter. -/
theorem authority_append_of_ends {front : List Char} (hmem : c ∈ front)
    (h : endsAuthority c = true) (rest : List Char) :
    authority (front ++ rest) = authority front := by
  induction front with
  | nil => cases hmem
  | cons d front ih =>
    cases hd : endsAuthority d with
    | true =>
      rw [authority_cons_of_ends hd, cons_append, authority_cons_of_ends hd]
    | false =>
      rcases mem_cons.mp hmem with rfl | hmem
      · rw [h] at hd
        cases hd
      · rw [cons_append, authority_cons hd, authority_cons hd, ih hmem]

theorem authority_eq_self (h : ∀ c ∈ s, endsAuthority c = false) :
    authority s = s :=
  takeWhile_eq_self_iff.mpr fun c hc => by rw [h c hc]; rfl

end Uri
