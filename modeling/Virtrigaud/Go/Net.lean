import Virtrigaud.Go.Strings

/-!
# Go network addresses

`net.SplitHostPort` on lists of characters. The port is any text without a colon.
-/

namespace Go

open List

def isBracket (c : Char) : Bool := c == '[' || c == ']'

/-- `net.SplitHostPort`; none is an error. The last colon must be the one after the host. -/
def splitHostPort (hostport : List Char) : Option (List Char × List Char) :=
  match hostport with
  | '[' :: rest =>
    let host := rest.takeWhile (· ≠ ']')
    match rest.dropWhile (· ≠ ']') with
    | _ :: ':' :: port =>
      if port.contains ':' || host.contains '[' || port.any isBracket then none
      else some (host, port)
    | _ => none
  | _ =>
    let host := hostport.takeWhile (· ≠ ':')
    match hostport.dropWhile (· ≠ ':') with
    | _ :: port =>
      if port.contains ':' || hostport.any isBracket then none else some (host, port)
    | [] => none

theorem any_isBracket {s : List Char} :
    s.any isBracket = false ↔ '[' ∉ s ∧ ']' ∉ s := by
  simp only [any_eq_false, isBracket, Bool.or_eq_true, beq_iff_eq]
  constructor
  · exact fun h => ⟨fun hmem => h _ hmem (.inl rfl), fun hmem => h _ hmem (.inr rfl)⟩
  · rintro ⟨hopening, hclosing⟩ c hc (rfl | rfl)
    · exact hopening hc
    · exact hclosing hc

/-- The address of a split host: the host in brackets, or without a colon, and then the port. -/
theorem splitHostPort_eq {hostport host port : List Char}
    (h : splitHostPort hostport = some (host, port)) :
    host.any isBracket = false ∧
      (hostport = '[' :: (host ++ ']' :: ':' :: port) ∨
        hostport = host ++ ':' :: port ∧ ':' ∉ host ∧ ':' ∉ port ∧
          hostport.any isBracket = false) := by
  unfold splitHostPort at h
  split at h
  · dsimp only at h
    split at h
    · rename_i c port' hdrop
      obtain ⟨rfl, hrest, hhost⟩ := cut_eq hdrop
      split at h
      · cases h
      rename_i hplain
      cases h
      simp only [Bool.or_eq_true, not_or, Bool.not_eq_true] at hplain
      have hopening := mt contains_iff_mem.mpr (Bool.eq_false_iff.mp hplain.1.2)
      exact ⟨any_isBracket.mpr ⟨hopening, hhost⟩, .inl (congrArg _ hrest)⟩
    · cases h
  · split at h
    · rename_i c port' hdrop
      obtain ⟨rfl, hrest, hhost⟩ := cut_eq hdrop
      split at h
      · cases h
      rename_i hplain
      cases h
      simp only [Bool.or_eq_true, not_or, Bool.not_eq_true] at hplain
      have hport := mt contains_iff_mem.mpr (Bool.eq_false_iff.mp hplain.1)
      refine ⟨?_, .inr ⟨hrest, hhost, hport, hplain.2⟩⟩
      rw [any_eq_false] at hplain ⊢
      exact fun c hc => hplain.2 c (takeWhile_subset _ hc)
    · cases h

/-- An address with one colon and no bracket is split there. -/
theorem splitHostPort_of_colon {host port : List Char} (hhost : ':' ∉ host) (hport : ':' ∉ port)
    (hplain : (host ++ ':' :: port).any isBracket = false) :
    splitHostPort (host ++ ':' :: port) = some (host, port) := by
  obtain ⟨htake, hdrop⟩ := cut_append hhost port
  unfold splitHostPort
  split
  · rename_i rest heq
    rw [heq] at hplain
    cases hplain
  · rw [hdrop, htake]
    simp [hport, hplain]

end Go
