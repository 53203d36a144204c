import Virtrigaud.Go.Strings

/-!
# Go path functions

`Clean`, `Dir` and `Join` of Go's `path` package, on lists of characters. A path of
ordinary components is clean already.
-/

namespace Go.Path

open List

section

variable (path : List Char)

/-- Components between slashes. -/
def components : List (List Char) := path.splitOn '/'

def render (parts : List (List Char)) : List Char := ['/'].intercalate parts

/-- One component, after those that are kept (innermost first). -/
def step (rooted : Bool) (kept : List (List Char)) (part : List Char) : List (List Char) :=
  if part = [] ∨ part = ['.'] then kept
  else if part = ['.', '.'] then
    match kept with
    | [] => if rooted then [] else [part]
    | last :: rest => if last = ['.', '.'] then part :: kept else rest
  else part :: kept

/-- `path.Clean`. -/
def clean : List Char :=
  let rooted := path.head? = some '/'
  let kept := render ((components path).foldl (step rooted) []).reverse
  if rooted then '/' :: kept else if kept = [] then ['.'] else kept

/-- The part of `path.Split` up to the last slash, with the slash. -/
def directory : List Char := path.rdropWhile (· ≠ '/')

/-- The part of `path.Split` after the last slash. -/
def file : List Char := path.rtakeWhile (· ≠ '/')

/-- `path.Dir`. -/
def dir : List Char := clean (directory path)

end

/-- `path.Join`. -/
def join (parts : List (List Char)) : List Char :=
  match parts.filter (· ≠ []) with
  | [] => []
  | parts => clean (render parts)

/-- A component that `Clean` keeps. -/
def Ordinary (part : List Char) : Prop :=
  part ≠ [] ∧ part ≠ ['.'] ∧ part ≠ ['.', '.'] ∧ '/' ∉ part

instance (part : List Char) : Decidable (Ordinary part) := inferInstanceAs (Decidable (_ ∧ _))

variable {parts : List (List Char)} {kept : List (List Char)} {part : List Char} {rooted : Bool}

theorem ordinary_of_length (hlength : 3 ≤ part.length) (hslash : '/' ∉ part) : Ordinary part := by
  refine ⟨?_, ?_, ?_, hslash⟩
  all_goals
    rintro rfl
    simp at hlength

theorem step_ordinary (h : Ordinary part) : step rooted kept part = part :: kept := by
  obtain ⟨hne, hdot, hdots, -⟩ := h
  simp [step, hne, hdot, hdots]

theorem foldl_step_ordinary (h : ∀ part ∈ parts, Ordinary part) :
    parts.foldl (step rooted) kept = parts.reverse ++ kept := by
  induction parts generalizing kept with
  | nil => rfl
  | cons part parts ih =>
    obtain ⟨hpart, hparts⟩ := forall_mem_cons.mp h
    rw [foldl_cons, step_ordinary hpart, ih hparts]
    simp

theorem components_render (hne : parts ≠ []) (h : ∀ part ∈ parts, Ordinary part) :
    components (render parts) = parts :=
  splitOn_intercalate '/' (fun part hpart => (h part hpart).2.2.2) hne

theorem render_cons (hne : parts ≠ []) : render (part :: parts) = part ++ '/' :: render parts := by
  cases parts with
  | nil => exact absurd rfl hne
  | cons next rest => simp [render]

theorem head?_render (h : ∀ part ∈ parts, Ordinary part) : (render parts).head? ≠ some '/' := by
  cases parts with
  | nil => simp [render]
  | cons part rest =>
    obtain ⟨hne, -, -, hslash⟩ := h part (.head _)
    cases part with
    | nil => exact absurd rfl hne
    | cons c part =>
      have hc : c ≠ '/' := fun heq => hslash (heq ▸ (.head _))
      cases rest with
      | nil | cons next rest => simpa [render] using hc

section

variable (hne : parts ≠ [])
include hne

theorem render_ne_nil (h : ∀ part ∈ parts, Ordinary part) : render parts ≠ [] := by
  cases parts with
  | nil => exact absurd rfl hne
  | cons part rest =>
    have hpart := (h part (.head _)).1
    cases rest with
    | nil => simpa [render] using hpart
    | cons next rest => simp [render]

/-- Ordinary components stay, also when a slash follows the last one. -/
theorem clean_render (h : ∀ part ∈ parts, Ordinary part) : clean (render parts) = render parts := by
  unfold clean
  have hrooted : decide ((render parts).head? = some '/') = false :=
    decide_eq_false (head?_render h)
  simp only [hrooted, components_render hne h, foldl_step_ordinary h, append_nil,
    reverse_reverse]
  simp [render_ne_nil hne h, head?_render h]

variable {last : List Char}

theorem render_append : render (parts ++ [last]) = render parts ++ '/' :: last :=
  intercalate_concat hne '/' last

theorem trimmed_render (h : ∀ part ∈ parts, Ordinary part) (htrim : ∀ part ∈ parts, Trimmed part) :
    Trimmed (render parts) := by
  induction parts with
  | nil => exact absurd rfl hne
  | cons part rest ih =>
    obtain ⟨hpart, hrest⟩ := forall_mem_cons.mp h
    obtain ⟨htrimPart, htrimRest⟩ := forall_mem_cons.mp htrim
    by_cases hnil : rest = []
    · subst hnil
      simpa [render] using htrimPart
    · rw [render_cons hnil]
      exact htrimPart.append hpart.1 (ih hnil hrest htrimRest) (render_ne_nil hnil hrest) ['/']

theorem directory_render (hlast : '/' ∉ last) :
    directory (render (parts ++ [last])) = render parts ++ ['/'] := by
  unfold directory
  rw [render_append hne, rdropWhile, reverse_append, reverse_cons,
    append_assoc, dropWhile_append_of_pos]
  · simp
  · intro c hc
    have hne' : c ≠ '/' := fun heq => hlast (heq ▸ mem_reverse.mp hc)
    simpa using hne'

/-- The directory of a file in ordinary components. -/
theorem dir_render (h : ∀ part ∈ parts, Ordinary part) (hlast : '/' ∉ last) :
    dir (render (parts ++ [last])) = render parts := by
  have hdirectory : directory (render (parts ++ [last])) = render (parts ++ [[]]) :=
    (directory_render hne hlast).trans (render_append hne).symm
  have hcomponents : components (render (parts ++ [[]])) = parts ++ [[]] := by
    refine splitOn_intercalate '/' ?_ (by simp)
    intro part hpart
    rcases mem_append.mp hpart with hpart | hpart
    · exact (h part hpart).2.2.2
    · rw [mem_singleton.mp hpart]
      exact not_mem_nil
  have hhead : (render (parts ++ [[]])).head? ≠ some '/' := by
    have hrender := render_ne_nil hne h
    have hplain := head?_render h
    rw [render_append hne]
    cases hparts : render parts with
    | nil => exact absurd hparts hrender
    | cons c rest =>
      rw [hparts] at hplain
      simpa using hplain
  unfold dir clean
  rw [hdirectory]
  have hrooted : decide ((render (parts ++ [[]])).head? = some '/') = false :=
    decide_eq_false hhead
  simp only [hrooted, hcomponents, foldl_append, foldl_step_ordinary h, append_nil,
    foldl_cons, foldl_nil]
  simp [step, hhead, render_ne_nil hne h]

theorem join_render (h : ∀ part ∈ parts, Ordinary part) (hlast : Ordinary last) :
    join [render parts, last] = render (parts ++ [last]) := by
  have hfilter : [render parts, last].filter (· ≠ []) = [render parts, last] := by
    simp [render_ne_nil hne h, hlast.1]
  have hrender : render [render parts, last] = render (parts ++ [last]) := by
    rw [render_append hne]
    simp [render]
  have hall : ∀ part ∈ parts ++ [last], Ordinary part := by
    intro part hpart
    rcases mem_append.mp hpart with hpart | hpart
    · exact h part hpart
    · rw [mem_singleton.mp hpart]
      exact hlast
  unfold join
  rw [hfilter]
  simp only [hrender]
  exact clean_render (by simp) hall

end

/-- Nothing before a slash matters to the file. -/
theorem file_append_slash (front rest : List Char) : file (front ++ '/' :: rest) = file rest := by
  unfold file
  induction rest using reverseRecOn with
  | nil => rw [rtakeWhile_concat_neg _ _ _ (by simp), rtakeWhile_nil]
  | append_singleton rest c ih =>
    rw [← cons_append, ← append_assoc, rtakeWhile_concat, rtakeWhile_concat, ih]

variable {name : List Char}

theorem file_eq_self (h : '/' ∉ name) : file name = name := by
  unfold file
  rw [rtakeWhile_eq_self_iff]
  intro d hd
  simpa using fun heq : d = '/' => h (heq ▸ hd)

theorem file_append (h : '/' ∉ name) (front : List Char) :
    file (front ++ '/' :: name) = name :=
  (file_append_slash front name).trans (file_eq_self h)

theorem components_append_slash (front rest : List Char) :
    components (front ++ '/' :: rest) = components front ++ components rest := by
  simp only [components, splitOn_append_cons_self]

/-- What follows the last slash, and what precedes it, are determined by the path. -/
theorem append_slash_inj {front front' name' : List Char} (hname : '/' ∉ name)
    (hname' : '/' ∉ name') (h : front ++ '/' :: name = front' ++ '/' :: name') :
    front = front' ∧ name = name' := by
  have hfile : name = name' := by rw [← file_append hname front, h, file_append hname' front']
  subst hfile
  exact ⟨append_cancel_right h, rfl⟩

/-- Text without a slash goes to the first component. -/
theorem components_append {front : List Char} (h : '/' ∉ front) (rest : List Char) :
    components (front ++ rest) = (components rest).modifyHead (front ++ ·) := by
  unfold components
  induction front with
  | nil =>
    rw [nil_append]
    cases rest.splitOn '/' <;> rfl
  | cons c front ih =>
    obtain ⟨hc, hfront⟩ := ne_and_not_mem_of_not_mem_cons h
    have hcons : ∀ s : List Char, (c :: s).splitOn '/' = (s.splitOn '/').modifyHead (c :: ·) := by
      intro s
      rw [splitOn, splitOnP_cons_eq_if_modifyHead, if_neg (by simpa using hc.symm)]
      rfl
    rw [cons_append, hcons, ih hfront]
    cases rest.splitOn '/' <;> rfl

theorem slashFree_components {path : List Char} (h : part ∈ components path) : '/' ∉ part := by
  induction path generalizing part with
  | nil =>
    have hpart : part = [] := by simpa [components] using h
    rw [hpart]
    exact not_mem_nil
  | cons c path ih =>
    rw [components, splitOn, splitOnP_cons_eq_if_modifyHead] at h
    split at h
    · rcases mem_cons.mp h with rfl | h
      · exact not_mem_nil
      · exact ih h
    · rename_i hc
      cases hsplit : path.splitOnP (· == '/') with
      | nil =>
        rw [hsplit] at h
        cases h
      | cons first rest =>
        rw [hsplit] at h
        have hsub : ∀ part ∈ first :: rest, part ∈ components path := by
          intro part hpart
          rw [components, splitOn, hsplit]
          exact hpart
        rcases mem_cons.mp h with rfl | h
        · rintro (_ | ⟨_, hmem⟩)
          · exact hc rfl
          · exact ih (hsub first (.head _)) hmem
        · exact ih (hsub part (.tail _ h))

/-- The kept components of a path are components of it. -/
theorem slashFree_foldl_step (hkept : ∀ part ∈ kept, '/' ∉ part) (h : ∀ part ∈ parts, '/' ∉ part) :
    ∀ part ∈ parts.foldl (step rooted) kept, '/' ∉ part := by
  induction parts generalizing kept with
  | nil => exact hkept
  | cons part parts ih =>
    obtain ⟨hpart, hparts⟩ := forall_mem_cons.mp h
    refine ih ?_ hparts
    unfold step
    split
    · exact hkept
    · split
      · split
        · split
          · exact nofun
          · exact forall_mem_cons.mpr ⟨hpart, hkept⟩
        · split
          · exact forall_mem_cons.mpr ⟨hpart, hkept⟩
          · exact (forall_mem_cons.mp hkept).2
      · exact forall_mem_cons.mpr ⟨hpart, hkept⟩

/-- The components that `Clean` keeps where there are no dots. -/
def named (parts : List (List Char)) : List (List Char) :=
  parts.filter fun part => decide (part ≠ [] ∧ part ≠ ['.'])

theorem foldl_step_plain (rooted : Bool) (kept : List (List Char))
    (h : ∀ part ∈ parts, part ≠ ['.', '.']) :
    parts.foldl (step rooted) kept = (named parts).reverse ++ kept := by
  unfold named
  induction parts generalizing kept with
  | nil => rfl
  | cons part parts ih =>
    obtain ⟨hpart, hparts⟩ := forall_mem_cons.mp h
    rw [foldl_cons, ih _ hparts]
    by_cases hsilent : part = [] ∨ part = ['.']
    · have hstep : step rooted kept part = kept := if_pos hsilent
      rw [hstep, filter_cons_of_neg]
      simpa [or_iff_not_imp_left] using hsilent
    · have hstep : step rooted kept part = part :: kept := by
        unfold step
        rw [if_neg hsilent, if_neg hpart]
      rw [hstep, filter_cons_of_pos]
      · simp
      · simpa [not_or] using hsilent

theorem render_inj {parts' : List (List Char)} (hne : parts ≠ []) (hne' : parts' ≠ [])
    (h : ∀ part ∈ parts, '/' ∉ part) (h' : ∀ part ∈ parts', '/' ∉ part)
    (hrender : render parts = render parts') : parts = parts' := by
  rw [← splitOn_intercalate '/' h hne, ← splitOn_intercalate '/' h' hne']
  exact congrArg (splitOn '/') hrender

end Go.Path
