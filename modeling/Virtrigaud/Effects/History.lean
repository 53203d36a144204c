import Mathlib.Data.List.Nodup

/-!
# Objects with their earlier versions

A store keeps one object as the versions that were persisted. Readers through a
cache may see any of them; writers name the version they saw, and a write over
another version is refused.
-/

namespace Effects

open List

/-- The persisted versions of one object, which always has a current one. -/
structure History (α : Type) where
  current : α
  older : List α := []

namespace History

variable {α : Type}

/-- All versions, newest first. -/
def all (h : History α) : List α := h.current :: h.older

def push (h : History α) (a : α) : History α := ⟨a, h.all⟩

/-- What a cache that lags `lag` versions behind answers. -/
def read (h : History α) (lag : Nat) : Option α := h.all[lag]?

/-- A write by a client that saw the current version number, and no other. -/
def write (h : History α) (version : α → Nat) (seen : Nat) (update : α → α) :
    Option (History α) :=
  if version h.current = seen then some (h.push (update h.current)) else none

variable {h : History α}

@[simp] theorem current_push (h : History α) (a : α) : (h.push a).current = a := rfl

theorem mem_all_push {a b : α} : b ∈ (h.push a).all ↔ b = a ∨ b ∈ h.all :=
  mem_cons

theorem current_mem_all (h : History α) : h.current ∈ h.all := .head _

/-- An object that was just created has one version. -/
theorem forall_mem_of_new {P : α → Prop} (hnew : h.older = []) (hP : P h.current) :
    ∀ a ∈ h.all, P a := by
  rw [all, hnew]
  exact forall_mem_singleton.mpr hP

theorem mem_of_read {lag : Nat} {a : α} (hread : h.read lag = some a) :
    a ∈ h.all :=
  mem_of_getElem? hread

variable {version : α → Nat}

theorem write_eq_some {h h' : History α} {seen : Nat} {update : α → α} :
    h.write version seen update = some h' ↔
      version h.current = seen ∧ h' = h.push (update h.current) := by
  unfold write
  by_cases hversion : version h.current = seen
  · simp [hversion, eq_comm]
  · simp [hversion]

/-- Versions are numbered in the order in which they were persisted. -/
def Numbered (version : α → Nat) (h : History α) : Prop :=
  (h.all.map version).Pairwise (· > ·)

theorem Numbered.push {a : α} (hnumbered : h.Numbered version)
    (hlt : version h.current < version a) : (h.push a).Numbered version := by
  refine pairwise_cons.mpr ⟨fun n hn => ?_, hnumbered⟩
  rcases mem_cons.mp hn with rfl | hold
  · exact hlt
  · exact Nat.lt_trans (rel_of_pairwise_cons hnumbered hold) hlt

theorem Numbered.eq_of_version {a b : α} (hnumbered : h.Numbered version) (ha : a ∈ h.all)
    (hb : b ∈ h.all) (hversion : version a = version b) : a = b :=
  inj_on_of_nodup_map (Pairwise.imp Nat.ne_of_gt hnumbered) ha hb hversion

/-- The second history extends the first by versions `ok` allows, each over the
version that was current when it was pushed. -/
inductive Grows (ok : α → α → Prop) : History α → History α → Prop
  | refl (h : History α) : Grows ok h h
  | push {h h' : History α} {a : α} : Grows ok h h' → ok h'.current a → Grows ok h (h'.push a)

variable {ok : α → α → Prop} {h h' h'' : History α}

theorem Grows.trans (first : Grows ok h h') (second : Grows ok h' h'') : Grows ok h h'' := by
  induction second with
  | refl => exact first
  | push _ hok ih => exact ih.push hok

theorem Grows.mono {weaker : α → α → Prop} (hgrows : Grows ok h h')
    (hweaker : ∀ old new, ok old new → weaker old new) : Grows weaker h h' := by
  induction hgrows with
  | refl => exact .refl _
  | push _ hok ih => exact ih.push (hweaker _ _ hok)

/-- What every allowed push preserves holds of the grown history. -/
theorem Grows.induct {P : History α → Prop} (hgrows : Grows ok h h') (hbase : P h)
    (hpush : ∀ g a, P g → ok g.current a → P (g.push a)) : P h' := by
  induction hgrows with
  | refl => exact hbase
  | push _ hok ih => exact hpush _ _ ih hok

/-- What every version has if the old ones have it and an allowed one takes it from the last. -/
theorem Grows.forall_mem {P : α → Prop} (hgrows : Grows ok h h') (hbase : ∀ a ∈ h.all, P a)
    (hpush : ∀ old new, P old → ok old new → P new) : ∀ a ∈ h'.all, P a :=
  hgrows.induct (P := fun g => ∀ a ∈ g.all, P a) hbase fun g _ hg hok =>
    forall_mem_cons.mpr ⟨hpush _ _ (hg _ g.current_mem_all) hok, hg⟩

/-- Versions are never taken back. -/
theorem Grows.subset (hgrows : Grows ok h h') : h.all ⊆ h'.all := by
  induction hgrows with
  | refl => exact Subset.refl _
  | push _ _ ih => exact Subset.trans ih (subset_cons_self _ _)

end History

end Effects
