import Mathlib.Data.List.Forall2
import Virtrigaud.Go.Strings

/-!
# Forms

`url.Values` of Go's `net/url`, and what is read in the form that `Encode` makes of them.
-/

namespace Go.Url

open List

abbrev Bytes := List UInt8

/-- The bytes of an ASCII text. -/
def ascii (s : String) : Bytes := s.toList.map fun c => c.toNat.toUInt8

def unreserved (b : UInt8) : Bool :=
  0x61 ≤ b && b ≤ 0x7A || 0x41 ≤ b && b ≤ 0x5A || 0x30 ≤ b && b ≤ 0x39 ||
    b = 0x2D || b = 0x5F || b = 0x2E || b = 0x7E

def hexDigit (n : UInt8) : UInt8 := if n < 10 then 0x30 + n else 0x37 + n

def unhex (b : UInt8) : Option UInt8 :=
  if 0x30 ≤ b ∧ b ≤ 0x39 then some (b - 0x30)
  else if 0x61 ≤ b ∧ b ≤ 0x66 then some (b - 0x57)
  else if 0x41 ≤ b ∧ b ≤ 0x46 then some (b - 0x37)
  else none

def escapeByte (b : UInt8) : Bytes :=
  if unreserved b then [b]
  else if b = 0x20 then [0x2B]
  else [0x25, hexDigit (b / 16), hexDigit (b % 16)]

/-- `url.QueryEscape`. -/
def queryEscape (s : Bytes) : Bytes := s.flatMap escapeByte

/-- `url.QueryUnescape`, or `url.PathUnescape`, to which a plus is a plus. -/
def unescape (plus : Bool) : Bytes → Option Bytes
  | [] => some []
  | b :: rest =>
    if b = 0x25 then
      match rest with
      | hi :: lo :: rest => do
        let hi ← unhex hi
        let lo ← unhex lo
        (unescape plus rest).map ((16 * hi + lo) :: ·)
      | _ => none
    else (unescape plus rest).map ((if plus = true ∧ b = 0x2B then 0x20 else b) :: ·)

/-- `strings.ReplaceAll(s, "+", "%20")`. -/
def replacePlus (s : Bytes) : Bytes := s.flatMap fun b => if b = 0x2B then ascii "%20" else [b]

theorem forall_byte {P : UInt8 → Prop} (h : ∀ n : Fin 256, P (.ofFin n)) (b : UInt8) : P b :=
  h b.toFin

variable {plus : Bool} {b : UInt8}

theorem unescape_hex (b : UInt8) (rest : Bytes) :
    unescape plus (0x25 :: hexDigit (b / 16) :: hexDigit (b % 16) :: rest) =
      (unescape plus rest).map (b :: ·) := by
  have hdigits : ∀ b : UInt8, unhex (hexDigit (b / 16)) = some (b / 16) ∧
      unhex (hexDigit (b % 16)) = some (b % 16) ∧ 16 * (b / 16) + b % 16 = b :=
    forall_byte (by decide +kernel)
  obtain ⟨hhi, hlo, heq⟩ := hdigits b
  simp [unescape, hhi, hlo, heq]

theorem unescape_cons (h : b ≠ 0x25) (rest : Bytes) : unescape plus (b :: rest) =
    (unescape plus rest).map ((if plus = true ∧ b = 0x2B then 0x20 else b) :: ·) := by
  rw [unescape.eq_def]
  exact if_neg h

theorem unescape_unreserved (h : unreserved b = true) (rest : Bytes) :
    unescape plus (b :: rest) = (unescape plus rest).map (b :: ·) := by
  have hplain : ∀ b : UInt8, unreserved b = true → b ≠ 0x25 ∧ b ≠ 0x2B :=
    forall_byte (by decide +kernel)
  rw [unescape_cons (hplain b h).1, if_neg fun heq => (hplain b h).2 heq.2]

/-- What has a meaning of its own in a form. -/
def separators : Bytes := ascii "&;="

/-- A way to write bytes that a decoder undoes, without a separator of forms in it. -/
structure Code (plus : Bool) (code : UInt8 → Bytes) : Prop where
  read : ∀ b rest, unescape plus (code b ++ rest) = (unescape plus rest).map (b :: ·)
  clean : ∀ b, ∀ c ∈ separators, c ∉ code b

theorem code_escapeByte : Code true escapeByte where
  read b rest := by
    unfold escapeByte
    split
    · exact unescape_unreserved ‹_› rest
    · split
      · rename_i hspace
        rw [hspace]
        exact unescape_cons (by decide) rest
      · exact unescape_hex b rest
  clean := forall_byte (by decide +kernel)

/-- With the plus replaced it makes no difference how a plus is read. -/
theorem code_replacePlus : Code plus fun b => replacePlus (escapeByte b) where
  read b rest := by
    have hcode : ∀ b, replacePlus (escapeByte b) = if unreserved b then [b]
        else [0x25, hexDigit (b / 16), hexDigit (b % 16)] := forall_byte (by decide +kernel)
    rw [hcode]
    split
    · exact unescape_unreserved ‹_› rest
    · exact unescape_hex b rest
  clean := forall_byte (by decide +kernel)

theorem replacePlus_queryEscape (s : Bytes) :
    replacePlus (queryEscape s) = s.flatMap fun b => replacePlus (escapeByte b) := flatMap_assoc

variable {code code' : UInt8 → Bytes}

theorem Code.unescape (h : Code plus code) (s : Bytes) :
    unescape plus (s.flatMap code) = some s := by
  induction s with
  | nil => rw [flatMap_nil, Url.unescape]
  | cons b s ih => rw [flatMap_cons, h.read, ih, Option.map_some]

theorem Code.not_mem (h : Code plus code) (s : Bytes) : ∀ c ∈ separators, c ∉ s.flatMap code := by
  intro c hc hmem
  obtain ⟨b, -, hb⟩ := mem_flatMap.mp hmem
  exact h.clean b c hc hb

/-! ### Forms -/

/-- One pair of a form. A semicolon is not allowed in it. -/
def parsePair (text : Bytes) : Option (Bytes × Bytes) :=
  if 0x3B ∈ text then none
  else do
    let key ← unescape true (text.takeWhile (· ≠ 0x3D))
    let value ← unescape true ((text.dropWhile (· ≠ 0x3D)).drop 1)
    return (key, value)

/-- The pairs of a form, in the order of the text. -/
def parseForm (form : Bytes) : Option (List (Bytes × Bytes)) :=
  ((form.splitOn 0x26).filter (· ≠ [])).mapM parsePair

def joined (texts : List Bytes) : Bytes := [0x26].intercalate texts

/-- The text is one for the pair. -/
def Writes (text : Bytes) (pair : Bytes × Bytes) : Prop :=
  (text ≠ [] ∧ 0x26 ∉ text) ∧ parsePair text = some pair

theorem writes_pair (h : Code true code) (h' : Code true code') (key value : Bytes) :
    Writes (key.flatMap code ++ 0x3D :: value.flatMap code') (key, value) := by
  have hkey := h.not_mem key
  have hvalue := h'.not_mem value
  have hclean : ∀ c ∈ separators, c ≠ 0x3D →
      c ∉ key.flatMap code ++ 0x3D :: value.flatMap code' := fun c hc hne =>
    not_mem_append (hkey c hc) (not_mem_cons_of_ne_of_not_mem hne (hvalue c hc))
  obtain ⟨htake, hdrop⟩ := cut_append (hkey 0x3D (by decide)) (value.flatMap code')
  refine ⟨⟨by simp, hclean 0x26 (by decide) (by decide)⟩, ?_⟩
  rw [parsePair, if_neg (hclean 0x3B (by decide) (by decide)), htake, hdrop]
  simp [h.unescape, h'.unescape]

theorem parseForm_joined {texts : List Bytes} {pairs : List (Bytes × Bytes)}
    (h : Forall₂ Writes texts pairs) : parseForm (joined texts) = some pairs := by
  have htexts : ∀ text ∈ texts, text ≠ [] ∧ 0x26 ∉ text := by
    induction h with
    | nil => exact forall_mem_nil _
    | cons htext _ ih => exact forall_mem_cons.mpr ⟨htext.1, ih⟩
  have hparts : ((joined texts).splitOn 0x26).filter (· ≠ []) = texts := by
    by_cases hne : texts = []
    · subst hne
      simp [joined]
    · rw [joined, splitOn_intercalate _ (fun text htext => (htexts text htext).2) hne]
      exact filter_eq_self.mpr fun text htext => decide_eq_true (htexts text htext).1
  rw [parseForm, hparts]
  clear hparts htexts
  induction h with
  | nil => rfl
  | cons htext _ ih => simp [mapM_cons, htext.2, ih]

/-- `url.Values`, with the keys in the order in which `Encode` goes through them. -/
structure Values where
  keys : List Bytes
  sorted : keys.Pairwise (· < ·)
  values : Bytes → List Bytes

variable (data : Values) (key : Bytes)

/-- The values of a key. -/
def Values.lookup : List Bytes := if key ∈ data.keys then data.values key else []

/-- `Get`. -/
def Values.get : Bytes := (data.lookup key).headD []

/-- `Del`. -/
def Values.del : Values where
  keys := data.keys.filter (· ≠ key)
  sorted := data.sorted.filter _
  values := data.values

def Values.pairs : List (Bytes × Bytes) :=
  data.keys.flatMap fun key => (data.values key).map (key, ·)

def encodePair (pair : Bytes × Bytes) : Bytes := queryEscape pair.1 ++ 0x3D :: queryEscape pair.2

/-- `Encode`. -/
def Values.encode : Bytes := joined (data.pairs.map encodePair)

theorem Values.writes : Forall₂ Writes (data.pairs.map encodePair) data.pairs :=
  forall₂_map_left_iff.mpr (forall₂_same.mpr fun pair _ =>
    writes_pair code_escapeByte code_escapeByte pair.1 pair.2)

/-- The values that the pairs of a form have for a key. -/
def valuesOf (pairs : List (Bytes × Bytes)) : List Bytes :=
  (pairs.filter (·.1 = key)).map Prod.snd

variable {key} {values : List Bytes}

theorem valuesOf_append (pairs pairs' : List (Bytes × Bytes)) :
    valuesOf key (pairs ++ pairs') = valuesOf key pairs ++ valuesOf key pairs' := by
  rw [valuesOf, filter_append, map_append]
  rfl

theorem valuesOf_self : valuesOf key (values.map (key, ·)) = values := by
  simp [valuesOf, filter_map, Function.comp_def]

theorem valuesOf_of_ne {other : Bytes} (h : other ≠ key) :
    valuesOf key (values.map (other, ·)) = [] := by
  simp [valuesOf, filter_map, Function.comp_def, h]

theorem Values.valuesOf_pairs : valuesOf key data.pairs = data.lookup key := by
  have hnodup : data.keys.Nodup := data.sorted.imp (S := (· ≠ ·)) fun hlt heq =>
    List.lt_irrefl _ (heq ▸ hlt)
  unfold Values.pairs Values.lookup
  generalize data.keys = keys at hnodup ⊢
  induction keys with
  | nil => rfl
  | cons first keys ih =>
    obtain ⟨hfirst, hkeys⟩ := nodup_cons.mp hnodup
    rw [flatMap_cons, valuesOf_append, ih hkeys]
    by_cases heq : first = key
    · subst heq
      rw [valuesOf_self, if_neg hfirst, if_pos mem_cons_self, append_nil]
    · rw [valuesOf_of_ne heq, nil_append]
      simp [Ne.symm heq]

end Go.Url
