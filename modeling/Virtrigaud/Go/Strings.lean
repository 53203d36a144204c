import Mathlib.Data.List.DropRight

/-!
# Go string functions

The functions of Go's `strings` package that the modelled code calls, on lists of
characters.
-/

namespace Go

open List

/-- `strings.Trim` for the characters of the cutset. -/
def trim (cut : Char → Bool) (s : List Char) : List Char :=
  (s.dropWhile cut).rdropWhile cut

/-- `strings.Trim(s, "/")`. -/
def trimSlashes (s : String) : String := String.ofList (trim (· = '/') s.toList)

/-- `unicode.IsSpace`. -/
def isSpace (c : Char) : Bool :=
  let n := c.toNat
  (9 ≤ n && n ≤ 13) || n == 32 || n == 0x85 || n == 0xA0 || n == 0x1680 ||
    (0x2000 ≤ n && n ≤ 0x200A) || n == 0x2028 || n == 0x2029 || n == 0x202F || n == 0x205F ||
    n == 0x3000

/-- `strings.TrimSpace`. -/
def trimSpace (s : List Char) : List Char := trim isSpace s

/-- Text without blanks at its ends. -/
def Trimmed (s : List Char) : Prop :=
  (∀ c ∈ s.head?, isSpace c = false) ∧ ∀ c ∈ s.getLast?, isSpace c = false

instance (s : List Char) : Decidable (Trimmed s) :=
  decidable_of_iff
    (s.head?.all (fun c => !isSpace c) = true ∧ s.getLast?.all (fun c => !isSpace c) = true)
    (by simp [Trimmed, Option.all_eq_true])

variable {s : List Char}

section

variable {cut : Char → Bool} {c : Char}

/-- Text whose ends are not in the cutset stays. -/
theorem trim_eq_self (hhead : ∀ c ∈ s.head?, cut c = false)
    (hlast : ∀ c ∈ s.getLast?, cut c = false) : trim cut s = s := by
  have hfront : s.dropWhile cut = s := by
    cases s with
    | nil => rfl
    | cons c rest => rw [dropWhile_cons_of_neg (by simp [hhead c rfl])]
  rw [trim, hfront, rdropWhile_eq_self_iff]
  intro hne hcut
  rw [hlast _ (getLast?_eq_some_getLast hne)] at hcut
  cases hcut

theorem trim_sublist (cut : Char → Bool) (s : List Char) : trim cut s <+ s := by
  have hback : trim cut s <+: s.dropWhile cut := rdropWhile_prefix cut _
  exact hback.sublist.trans (dropWhile_suffix cut).sublist

theorem cut_head?_trim (h : c ∈ (trim cut s).head?) : cut c = false := by
  obtain ⟨rest, hrest⟩ : trim cut s <+: s.dropWhile cut := rdropWhile_prefix cut _
  have hfirst : (s.dropWhile cut).head? = some c := by
    rw [← hrest, head?_append_of_ne_nil _ (ne_nil_of_mem (mem_of_mem_head? h))]
    exact h
  simpa [hfirst] using head?_dropWhile_not cut s

theorem cut_getLast?_trim (h : c ∈ (trim cut s).getLast?) : cut c = false := by
  obtain ⟨hne, rfl⟩ := mem_getLast?_eq_getLast h
  exact Bool.eq_false_iff.mpr (rdropWhile_last_not cut _ hne)

end

theorem trimSpace_eq (h : Trimmed s) : trimSpace s = s := trim_eq_self h.1 h.2

theorem trimSpace_trimSpace (s : List Char) : trimSpace (trimSpace s) = trimSpace s :=
  trimSpace_eq ⟨fun _ hc => cut_head?_trim hc, fun _ hc => cut_getLast?_trim hc⟩

/-- Blanks around a text. -/
theorem trimSpace_surround {front back : List Char} (h : Trimmed s) (hne : s ≠ [])
    (hfront : ∀ c ∈ front, isSpace c = true) (hback : ∀ c ∈ back, isSpace c = true) :
    trimSpace (front ++ s ++ back) = s := by
  have hdrop : (front ++ s ++ back).dropWhile isSpace = s ++ back := by
    rw [append_assoc, dropWhile_append_of_pos hfront]
    cases s with
    | nil => exact absurd rfl hne
    | cons c rest => exact dropWhile_cons_of_neg (by simp [h.1 c rfl])
  have hlast : s.rdropWhile isSpace = s := rdropWhile_eq_self_iff.mpr fun hne => by
    simp [h.2 _ (getLast?_eq_some_getLast hne)]
  have hreverse : ∀ c ∈ back.reverse, isSpace c = true := fun c hc => hback c (mem_reverse.mp hc)
  rw [trimSpace, trim, hdrop, rdropWhile, reverse_append, dropWhile_append_of_pos hreverse]
  exact hlast

/-- Text in the middle does not matter. -/
theorem Trimmed.append {front back : List Char} (hfront : Trimmed front) (hne : front ≠ [])
    (hback : Trimmed back) (hne' : back ≠ []) (mid : List Char) :
    Trimmed (front ++ (mid ++ back)) := by
  constructor
  · intro c hc
    rw [head?_append_of_ne_nil front hne] at hc
    exact hfront.1 c hc
  · intro c hc
    rw [← append_assoc, getLast?_append_of_ne_nil _ hne'] at hc
    exact hback.2 c hc

/-- One more part after others. -/
theorem intercalate_concat {α : Type} {parts : List (List α)} (hne : parts ≠ []) (sep : α)
    (last : List α) :
    [sep].intercalate (parts ++ [last]) = [sep].intercalate parts ++ sep :: last := by
  induction parts with
  | nil => exact absurd rfl hne
  | cons part rest ih =>
    cases rest with
    | nil => simp
    | cons next rest =>
      have hrest := ih (cons_ne_nil next rest)
      simp only [cons_append, intercalate_cons_cons, append_assoc] at hrest ⊢
      rw [hrest]

/-- `strings.Split(s, "\n")`. -/
def lines (s : List Char) : List (List Char) := s.splitOn '\n'

/-- `s[i+len(sub):]` for `i := strings.Index(s, sub)`, if there is an occurrence. -/
def afterFirst (sub : List Char) : List Char → Option (List Char)
  | [] => if sub = [] then some [] else none
  | c :: rest =>
    if sub.isPrefixOf (c :: rest) then some ((c :: rest).drop sub.length)
    else afterFirst sub rest

/-- `s[:i]` for `i := strings.Index(s, sub)`, if there is an occurrence. -/
def beforeFirst (sub : List Char) : List Char → Option (List Char)
  | [] => if sub = [] then some [] else none
  | c :: rest =>
    if sub.isPrefixOf (c :: rest) then some [] else (beforeFirst sub rest).map (c :: ·)

/-- `strings.Contains`. -/
def contains (s sub : List Char) : Bool := (afterFirst sub s).isSome

/-- `s[:i]` for the first `i` with a character of the cutset, if there is one. -/
def beforeAny (cut : Char → Bool) (s : List Char) : Option (List Char) :=
  if s.any cut then some (s.takeWhile fun c => !cut c) else none

variable {rest : List Char} {c : Char}

theorem beforeAny_append {cut : Char → Bool} (hs : ∀ d ∈ s, cut d = false) (hc : cut c = true) :
    beforeAny cut (s ++ c :: rest) = some s := by
  have hany : (s ++ c :: rest).any cut = true :=
    any_eq_true.mpr ⟨c, mem_append_right s (.head _), hc⟩
  have htake : ∀ d ∈ s, (!cut d) = true := by
    intro d hd
    rw [hs d hd]
    rfl
  unfold beforeAny
  rw [if_pos hany, takeWhile_append_of_pos htake]
  simp [hc]

/-- `s[:i]` for `i := strings.LastIndex(s, c)`, or `s` if there is none. -/
def beforeLast (c : Char) (s : List Char) : List Char :=
  if s.contains c then (s.rdropWhile (· ≠ c)).dropLast else s

/-- `strings.TrimSuffix`. -/
def trimSuffix (s ending : String) : String :=
  if ending.toList.isSuffixOf s.toList then
    String.ofList (s.toList.take (s.toList.length - ending.toList.length))
  else s

/-- `strings.ReplaceAll` for one character. -/
def replaceChar (old new : Char) (s : List Char) : List Char :=
  s.map fun c => if c = old then new else c

/-- `strings.ReplaceAll` for two dots, which are looked for from the left. -/
def replaceDots (new : Char) : List Char → List Char
  | '.' :: '.' :: rest => new :: replaceDots new rest
  | c :: rest => c :: replaceDots new rest
  | [] => []

theorem replaceChar_eq_self {old : Char} (h : old ∉ s) (new : Char) :
    replaceChar old new s = s := by
  refine (map_congr_left fun c hc => ?_).trans (map_id s)
  exact if_neg fun heq : c = old => h (heq ▸ hc)

theorem mem_replaceDots {new : Char} (h : c ∈ replaceDots new s) : c = new ∨ c ∈ s := by
  fun_induction replaceDots new s with
  | case1 rest ih | case2 d rest _ ih => grind
  | case3 => exact .inr h

theorem head?_replaceDots (h : (replaceDots '-' s).head? = some '.') : s.head? = some '.' := by
  unfold replaceDots at h
  split at h
  · cases h
  · exact h
  · exact h

/-- Of two dots in sequence the second would have been read with the first. -/
theorem not_infix_replaceDots (s : List Char) : ¬ ['.', '.'] <:+: replaceDots '-' s := by
  fun_induction replaceDots '-' s with
  | case1 rest ih =>
    rw [infix_cons_iff]
    rintro (⟨_, heq⟩ | hrest)
    · cases heq
    · exact ih hrest
  | case2 c rest hdots ih =>
    rw [infix_cons_iff]
    rintro (⟨after, heq⟩ | hrest)
    · obtain ⟨rfl, hafter⟩ := cons.inj heq
      obtain ⟨tail, htail⟩ := head?_eq_some_iff.mp
        (head?_replaceDots ((congrArg head? hafter).symm.trans rfl))
      exact hdots tail rfl htail
    · exact ih hrest
  | case3 => exact fun h => by simpa using h.length_le

/-- `strings.ToLower`, for ASCII. -/
def toLower (s : List Char) : List Char := s.map Char.toLower

/-- `strings.Fields`. -/
def fields (s : List Char) : List (List Char) := (s.splitOnP isSpace).filter (· ≠ [])

/-- How `%v` prints a slice of strings. -/
def formatList (items : List String) : String := "[" ++ " ".intercalate items ++ "]"

/-- How `%q` prints a string without special characters. -/
def quoted (s : String) : String := "\"" ++ s ++ "\""

/-- A text is cut at its first separator. -/
theorem cut_append {α : Type} [DecidableEq α] {c : α} {s : List α} (h : c ∉ s) (rest : List α) :
    (s ++ c :: rest).takeWhile (· ≠ c) = s ∧ (s ++ c :: rest).dropWhile (· ≠ c) = c :: rest := by
  have hpos : ∀ d ∈ s, decide (d ≠ c) = true := fun d hd => decide_eq_true fun heq => h (heq ▸ hd)
  rw [takeWhile_append_of_pos hpos, dropWhile_append_of_pos hpos]
  simp

/-- What precedes the first separator, and what follows it, are determined by the text. -/
theorem append_cons_inj {front front' rest' : List Char} (h : c ∉ front) (h' : c ∉ front')
    (heq : front ++ c :: rest = front' ++ c :: rest') : front = front' ∧ rest = rest' := by
  have hfront := (cut_append h rest).1
  rw [heq, (cut_append h' rest').1] at hfront
  subst hfront
  exact ⟨rfl, (cons.inj (append_cancel_left heq)).2⟩

/-- Text up to a separator. -/
theorem cut_eq {d : Char} (h : s.dropWhile (· ≠ c) = d :: rest) :
    d = c ∧ s = s.takeWhile (· ≠ c) ++ c :: rest ∧ c ∉ s.takeWhile (· ≠ c) := by
  have hhead := head?_dropWhile_not (fun e => decide (e ≠ c)) s
  rw [h] at hhead
  obtain rfl : d = c := by simpa using hhead
  refine ⟨rfl, ?_, fun hmem => ?_⟩
  · rw [← h, takeWhile_append_dropWhile]
  · simpa using mem_takeWhile_imp hmem

/-- Trimming takes characters of the cutset from both ends. -/
theorem exists_eq_trim (cut : Char → Bool) (s : List Char) : ∃ front back,
    s = front ++ trim cut s ++ back ∧ (∀ c ∈ front, cut c = true) ∧ ∀ c ∈ back, cut c = true := by
  refine ⟨s.takeWhile cut, (s.dropWhile cut).rtakeWhile cut, ?_,
    fun c => mem_takeWhile_imp, fun c => mem_rtakeWhile_imp⟩
  rw [append_assoc, trim, rdropWhile_append_rtakeWhile, takeWhile_append_dropWhile]

theorem cut_or_mem_trim (cut : Char → Bool) {c : Char} (h : c ∈ s) :
    cut c = true ∨ c ∈ trim cut s := by
  obtain ⟨front, back, heq, hfront, hback⟩ := exists_eq_trim cut s
  rw [heq, mem_append, mem_append] at h
  rcases h with (hc | hc) | hc
  · exact .inl (hfront c hc)
  · exact .inr hc
  · exact .inl (hback c hc)

theorem contains_iff_isInfix {sub : List Char} : contains s sub = true ↔ sub <:+: s := by
  induction s with
  | nil => simp [contains, afterFirst]
  | cons c rest ih =>
    rw [infix_cons_iff, ← ih, ← isPrefixOf_iff_prefix, contains, contains, afterFirst]
    split
    · rename_i hhere
      simp [hhere]
    · rename_i hhere
      simp [hhere]

/-- Text without characters of the cutset is not at the ends that trimming takes. -/
theorem infix_trim {cut : Char → Bool} {sub : List Char} (hne : sub ≠ [])
    (hsub : ∀ c ∈ sub, cut c = false) (h : sub <:+: s) : sub <:+: trim cut s := by
  obtain ⟨front, back, heq, hfront, hback⟩ := exists_eq_trim cut s
  generalize trim cut s = inner at heq ⊢
  subst heq
  have hinner : sub <:+: inner ++ back := by
    rw [append_assoc] at h
    induction front with
    | nil => exact h
    | cons c front ih =>
      rcases infix_cons_iff.mp h with hhere | hlater
      · obtain ⟨d, rest, rfl⟩ := exists_cons_of_ne_nil hne
        have hd := hsub d (.head _)
        rw [(cons_prefix_cons.mp hhere).1, hfront c mem_cons_self] at hd
        cases hd
      · exact ih (fun d hd => hfront d (.tail _ hd)) hlater
  clear h hfront
  induction back using reverseRecOn with
  | nil => rwa [append_nil] at hinner
  | append_singleton back c ih =>
    rw [← append_assoc] at hinner
    rcases infix_concat_iff.mp hinner with hhere | hearlier
    · obtain ⟨rest, d, rfl⟩ := (eq_nil_or_concat' sub).resolve_left hne
      have hd := hsub d (mem_append_right _ (.head _))
      have hlast : d = c := by
        obtain ⟨more, hmore⟩ := hhere
        rw [← append_assoc] at hmore
        exact cons.inj (append_inj_right' hmore rfl) |>.1
      rw [hlast, hback c (mem_append_right _ mem_cons_self)] at hd
      cases hd
    · exact ih (fun d hd => hback d (mem_append_left _ hd)) hearlier

end Go
