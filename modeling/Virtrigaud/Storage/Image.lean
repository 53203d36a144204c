import Mathlib.Data.List.Basic

/-!
# Disk images in layers

A disk image is a chain of layers, newest first: a block that a layer does not hold is
read from the layer below, and one that no layer holds is zero. A guest writes to the
newest layer; a snapshot puts an empty layer on top and keeps the chain as it was.
Reading through the chain gives what the guest has written, and reading through the
chain that a snapshot keeps gives what it had written then. An image file holds one layer and
may name a backing file; a snapshot of a disk starts a new file over the present one or is kept
inside it.
-/

namespace Storage

variable {n : Nat} {α : Type}

/-- The blocks that one file of a chain holds. -/
abbrev Layer (n : Nat) (α : Type) : Type := Fin n → Option α

/-- What a reader of the chain sees. -/
def read (zero : α) : List (Layer n α) → Fin n → α
  | [] => fun _ => zero
  | top :: below => fun i => (top i).getD (read zero below i)

/-- What happens to a disk. -/
inductive Event (n : Nat) (α : Type)
  | write (i : Fin n) (a : α)
  | snapshot (id : String)

/-- The contents that a guest has written, and those at each snapshot, newest first. -/
structure Contents (n : Nat) (α : Type) where
  now : Fin n → α
  snapshots : List (String × (Fin n → α))

def Contents.after (contents : Contents n α) : Event n α → Contents n α
  | .write i a => { contents with now := Function.update contents.now i a }
  | .snapshot id => { contents with snapshots := (id, contents.now) :: contents.snapshots }

/-- The layers of a disk, and those that each snapshot keeps, newest first. A disk has a
newest layer. -/
structure Chain (n : Nat) (α : Type) where
  top : Layer n α
  below : List (Layer n α)
  snapshots : List (String × List (Layer n α))

def Chain.layers (chain : Chain n α) : List (Layer n α) := chain.top :: chain.below

def Chain.after (chain : Chain n α) : Event n α → Chain n α
  | .write i a => { chain with top := Function.update chain.top i (some a) }
  | .snapshot id =>
    { top := fun _ => none
      below := chain.layers
      snapshots := (id, chain.layers) :: chain.snapshots }

theorem read_update (zero : α) (top : Layer n α) (below : List (Layer n α)) (i : Fin n) (a : α) :
    read zero (Function.update top i (some a) :: below) =
      Function.update (read zero (top :: below)) i a := by
  funext j
  by_cases hj : j = i
  · subst hj
    simp [read]
  · simp [read, hj]

theorem read_empty (zero : α) (below : List (Layer n α)) :
    read zero ((fun _ => none) :: below) = read zero below := rfl

/-- The chain shows the contents. -/
structure Chain.Shows (zero : α) (chain : Chain n α) (contents : Contents n α) : Prop where
  now : read zero chain.layers = contents.now
  snapshots : chain.snapshots.map (fun s => (s.1, read zero s.2)) = contents.snapshots

theorem Chain.Shows.after {zero : α} {chain : Chain n α} {contents : Contents n α}
    (h : chain.Shows zero contents) (event : Event n α) :
    (chain.after event).Shows zero (contents.after event) := by
  cases event with
  | write i a =>
    constructor
    · have hread : Function.update (read zero chain.layers) i a =
          Function.update contents.now i a := by
        rw [h.now]
      exact (read_update zero chain.top chain.below i a).trans hread
    · exact h.snapshots
  | snapshot id =>
    constructor
    · exact (read_empty zero chain.layers).trans h.now
    · simp only [Chain.after, Contents.after, List.map_cons, h.now, h.snapshots]

/-- The newest snapshot keeps the layers below the newest one; without snapshots there
are none. -/
def Chain.Linked (chain : Chain n α) : Prop :=
  match chain.snapshots with
  | [] => chain.below = []
  | newest :: _ => newest.2 = chain.below ∧ chain.below ≠ []

theorem Chain.Linked.after {chain : Chain n α} (h : chain.Linked) (event : Event n α) :
    (chain.after event).Linked := by
  cases event with
  | write i a => exact h
  | snapshot id => exact ⟨rfl, nofun⟩

/-- A disk of one layer, and what has happened to it since. -/
def Chain.grow (base : Layer n α) (events : List (Event n α)) : Chain n α :=
  events.foldl Chain.after ⟨base, [], []⟩

def Contents.grow (zero : α) (base : Layer n α) (events : List (Event n α)) : Contents n α :=
  events.foldl Contents.after ⟨read zero [base], []⟩

theorem Chain.grow_shows (zero : α) (base : Layer n α) (events : List (Event n α)) :
    (Chain.grow base events).Shows zero (Contents.grow zero base events) ∧
      (Chain.grow base events).Linked := by
  unfold Chain.grow Contents.grow
  have hstart : Chain.Shows zero (⟨base, [], []⟩ : Chain n α) ⟨read zero [base], []⟩ := ⟨rfl, rfl⟩
  have hlinked : Chain.Linked (⟨base, [], []⟩ : Chain n α) := rfl
  generalize (⟨base, [], []⟩ : Chain n α) = chain at hstart hlinked ⊢
  generalize (⟨read zero [base], []⟩ : Contents n α) = contents at hstart ⊢
  induction events generalizing chain contents with
  | nil => exact ⟨hstart, hlinked⟩
  | cons event events ih => exact ih _ (hlinked.after event) _ (hstart.after event)

open Option List Function

/-- An image file. -/
structure Image (n : Nat) (α : Type) where
  format : String
  blocks : Layer n α
  backing : Option (List Char) := none

/-- The image files under their paths. -/
abbrev Files (n : Nat) (α : Type) : Type := List Char → Option (Image n α)

namespace Files

/-- A file heads a chain: the paths of its files and their layers, from itself on. -/
inductive Heads (files : Files n α) : List Char → List (List Char) → List (Layer n α) → Prop
  | alone {path : List Char} {image : Image n α} (hfile : files path = some image)
      (hnone : image.backing = none) : Heads files path [path] [image.blocks]
  | above {path below : List Char} {image : Image n α} {paths : List (List Char)}
      {layers : List (Layer n α)} (hfile : files path = some image)
      (hbelow : image.backing = some below) (hchain : Heads files below paths layers) :
      Heads files path (path :: paths) (image.blocks :: layers)

/-- The chain of a file, followed for so many files at most. -/
def follow (files : Files n α) : Nat → List Char → Option (List (List Char) × List (Layer n α))
  | 0, _ => none
  | depth + 1, path =>
    match files path with
    | none => none
    | some image =>
      match image.backing with
      | none => some ([path], [image.blocks])
      | some below =>
        (files.follow depth below).map fun chain => (path :: chain.1, image.blocks :: chain.2)

variable {files : Files n α} {path other : List Char} {paths : List (List Char)}
  {layers : List (Layer n α)} {image : Image n α}

theorem heads_of_follow {depth : Nat} (h : files.follow depth path = some (paths, layers)) :
    files.Heads path paths layers := by
  induction depth generalizing path paths layers with
  | zero => cases h
  | succ depth ih =>
    rw [follow] at h
    split at h
    · cases h
    · rename_i image hfile
      split at h
      · rename_i hnone
        cases h
        exact .alone hfile hnone
      · rename_i below hbelow
        obtain ⟨chain, hchain, heq⟩ := map_eq_some_iff.mp h
        cases heq
        exact .above hfile hbelow (ih hchain)

section

variable (h : files.Heads path paths layers)
include h

theorem Heads.unique {paths' : List (List Char)} {layers' : List (Layer n α)}
    (h' : files.Heads path paths' layers') :
    paths' = paths ∧ layers' = layers := by
  induction h generalizing paths' layers' with
  | alone hfile hnone =>
    cases h' with
    | alone hfile' hnone' =>
      obtain rfl := some.inj (hfile.symm.trans hfile')
      exact ⟨rfl, rfl⟩
    | above hfile' hbelow' hchain' =>
      obtain rfl := some.inj (hfile.symm.trans hfile')
      cases hnone.symm.trans hbelow'
  | above hfile hbelow hchain ih =>
    cases h' with
    | alone hfile' hnone' =>
      obtain rfl := some.inj (hfile.symm.trans hfile')
      cases hnone'.symm.trans hbelow
    | above hfile' hbelow' hchain' =>
      obtain rfl := some.inj (hfile.symm.trans hfile')
      obtain rfl := some.inj (hbelow.symm.trans hbelow')
      obtain ⟨rfl, rfl⟩ := ih hchain'
      exact ⟨rfl, rfl⟩

/-- Every file of the chain is there and heads the rest of it. -/
theorem Heads.of_mem (hmem : other ∈ paths) :
    ∃ paths' layers', files.Heads other paths' layers' ∧ paths'.length ≤ paths.length := by
  induction h with
  | alone hfile hnone =>
    obtain rfl := mem_singleton.mp hmem
    exact ⟨_, _, .alone hfile hnone, Nat.le_refl _⟩
  | above hfile hbelow hchain ih =>
    rcases mem_cons.mp hmem with rfl | hmem
    · exact ⟨_, _, .above hfile hbelow hchain, Nat.le_refl _⟩
    · obtain ⟨paths', layers', hheads, hlength⟩ := ih hmem
      exact ⟨paths', layers', hheads, Nat.le_succ_of_le hlength⟩

theorem Heads.isSome : (files path).isSome = true := by
  cases h with
  | alone hfile hnone | above hfile hbelow hchain => rw [hfile]; rfl

/-- A path without a file is in no chain. -/
theorem Heads.not_mem (hnone : files other = none) : other ∉ paths := by
  intro hmem
  obtain ⟨paths', layers', hheads, -⟩ := h.of_mem hmem
  have hsome := hheads.isSome
  rw [hnone] at hsome
  cases hsome

/-- What happens to other files does not change the chain. -/
theorem Heads.update (hother : other ∉ paths) (file : Option (Image n α)) :
    Heads (update files other file) path paths layers := by
  induction h with
  | alone hfile hnone =>
    refine .alone ?_ hnone
    rw [update_of_ne (ne_of_not_mem_cons hother).symm]
    exact hfile
  | above hfile hbelow hchain ih =>
    refine .above ?_ hbelow (ih (not_mem_of_not_mem_cons hother))
    rw [update_of_ne (ne_of_not_mem_cons hother).symm]
    exact hfile

end

/-- A file does not come up again in the chain under it. -/
theorem Heads.not_mem_below {below : List Char} (hfile : files path = some image)
    (hbelow : image.backing = some below) (hchain : files.Heads below paths layers) :
    path ∉ paths := by
  intro hmem
  obtain ⟨paths', layers', hheads, hlength⟩ := hchain.of_mem hmem
  obtain ⟨rfl, -⟩ := (Heads.above hfile hbelow hchain).unique hheads
  rw [length_cons] at hlength
  omega

/-- Other blocks in the file that heads a chain. -/
theorem Heads.write (h : files.Heads path paths layers) (hfile : files path = some image)
    (blocks : Layer n α) :
    ∃ below, layers = image.blocks :: below ∧
      Heads (Function.update files path (some { image with blocks := blocks })) path paths
        (blocks :: below) := by
  have hself : Function.update files path (some { image with blocks := blocks }) path =
      some { image with blocks := blocks } := Function.update_self _ _ _
  cases h with
  | alone hfile' hnone =>
    obtain rfl := some.inj (hfile.symm.trans hfile')
    exact ⟨[], rfl, .alone hself hnone⟩
  | above hfile' hbelow hchain =>
    obtain rfl := some.inj (hfile.symm.trans hfile')
    refine ⟨_, rfl, .above hself hbelow ?_⟩
    exact hchain.update (Heads.not_mem_below hfile hbelow hchain) _

end Files

/-- A guest's disk: the files, the one it writes to, and the contents it has written. -/
structure Disk (n : Nat) (α : Type) where
  files : Files n α
  path : List Char
  contents : Contents n α

namespace Disk

/-- What happens to a disk. A snapshot with a file of its own starts an empty one over the
present one; the other kind is kept inside the present file. -/
inductive Change (n : Nat) (α : Type)
  | write (i : Fin n) (a : α)
  | overlay (id : String) (path : List Char)
  | checkpoint (id : String)

/-- A snapshot whose file exists already is not taken. -/
def after (disk : Disk n α) : Change n α → Disk n α
  | .write i a =>
    match disk.files disk.path with
    | none => disk
    | some image =>
      { disk with
        files := update disk.files disk.path
          (some { image with blocks := update image.blocks i (some a) })
        contents := disk.contents.after (.write i a) }
  | .overlay id path =>
    if (disk.files path).isSome then disk
    else
      { files := update disk.files path
          (some { format := "qcow2", blocks := fun _ => none, backing := some disk.path })
        path := path
        contents := disk.contents.after (.snapshot id) }
  | .checkpoint id => { disk with contents := disk.contents.after (.snapshot id) }

/-- The chain of the disk's file shows what the guest has written. -/
def Shows (zero : α) (disk : Disk n α) : Prop :=
  ∃ paths layers, disk.files.Heads disk.path paths layers ∧ read zero layers = disk.contents.now

theorem Shows.exists_file {zero : α} {disk : Disk n α} (h : disk.Shows zero) :
    ∃ image, disk.files disk.path = some image := by
  obtain ⟨paths, layers, hheads, -⟩ := h
  exact isSome_iff_exists.mp hheads.isSome

theorem Shows.after {zero : α} {disk : Disk n α} (h : disk.Shows zero) (change : Change n α) :
    (disk.after change).Shows zero := by
  obtain ⟨paths, layers, hheads, hread⟩ := h
  cases change with
  | write i a =>
    obtain ⟨image, hfile⟩ := Shows.exists_file ⟨paths, layers, hheads, hread⟩
    obtain ⟨below, rfl, hnext⟩ := hheads.write hfile (Function.update image.blocks i (some a))
    simp only [Disk.after, hfile]
    refine ⟨_, _, hnext, ?_⟩
    rw [read_update, hread]
    rfl
  | overlay id path =>
    unfold Disk.after
    dsimp only
    split
    · exact ⟨paths, layers, hheads, hread⟩
    · rename_i hfree
      have hnone : disk.files path = none := not_isSome_iff_eq_none.mp hfree
      refine ⟨_, _, .above (Function.update_self _ _ _) rfl (hheads.update ?_ _), ?_⟩
      · exact hheads.not_mem hnone
      · rw [read_empty]
        exact hread
  | checkpoint id => exact ⟨paths, layers, hheads, hread⟩

end Disk

end Storage
