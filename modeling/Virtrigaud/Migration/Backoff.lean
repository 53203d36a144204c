import Mathlib.Algebra.Order.Ring.Int
import Mathlib.Tactic.Positivity
import Virtrigaud.Migration.Reconcile

/-!
# The delay before a retry

The delay is multiplied in 64 bits and capped after that. As long as the product fits, the cap is
all that happens to it; a product that does not fit counts by its remainder, which may be negative,
and then there is no delay at all.
-/

namespace Virtrigaud.Migration

/-- What the API server admits. A duration has 64 bits. -/
structure AdmittedPolicy (policy : MigrationRetryPolicy) : Prop where
  maxRetries : ∀ n ∈ policy.maxRetries, 0 ≤ n ∧ n ≤ 10
  retryDelay : ∀ delay ∈ policy.retryDelay, 0 ≤ delay ∧ delay < 2 ^ 63
  backoffMultiplier : ∀ n ∈ policy.backoffMultiplier, 1 ≤ n ∧ n ≤ 10

/-- The delay before the cap, in unbounded integers. -/
def uncapped (policy : MigrationRetryPolicy) (retryCount : Int) : Int :=
  policy.retryDelay.getD (5 * minute) * policy.backoffMultiplier.getD 2 ^ retryCount.toNat

/-- The products on the way are taken modulo `2 ^ 64`, and so is the last one. -/
theorem backoffDelay_eq_bmod {base : Int} (hbase : 0 ≤ base) (hfits : base < 2 ^ 63)
    (multiplier : Int) (count : Nat) :
    backoffDelay base multiplier count = (base * multiplier ^ count).bmod (2 ^ 64) := by
  induction count with
  | zero =>
    rw [pow_zero, mul_one, Int.bmod_eq_of_le]
    · rfl
    · omega
    · omega
  | succ count ih =>
    rw [backoffDelay, ih, wrapInt64, BitVec.toInt_ofInt, Int.bmod_mul_bmod, mul_assoc, ← pow_succ]

section Policy

variable {policy : MigrationRetryPolicy}

section

variable (h : AdmittedPolicy policy)
include h

theorem AdmittedPolicy.base : 0 ≤ policy.retryDelay.getD (5 * minute) ∧
    policy.retryDelay.getD (5 * minute) < 2 ^ 63 := by
  cases hdelay : policy.retryDelay with
  | none => decide
  | some delay => exact h.retryDelay delay hdelay

theorem AdmittedPolicy.one_le_multiplier : 1 ≤ policy.backoffMultiplier.getD 2 := by
  cases hmultiplier : policy.backoffMultiplier with
  | none => decide
  | some n => exact (h.backoffMultiplier n hmultiplier).1

theorem uncapped_mono {earlier retryCount : Int} (hle : earlier.toNat ≤ retryCount.toNat) :
    uncapped policy earlier ≤ uncapped policy retryCount := by
  have hbase := h.base.1
  have hmultiplier := h.one_le_multiplier
  unfold uncapped
  gcongr

/-- Above 64 bits the cap has to come from the remainder. -/
theorem retryDelay_eq_min_iff (retryCount : Int) :
    retryDelay policy retryCount = min (uncapped policy retryCount) (30 * minute) ↔
      uncapped policy retryCount < 2 ^ 63 ∨
        30 * minute ≤ (uncapped policy retryCount).bmod (2 ^ 64) := by
  have hdelay := backoffDelay_eq_bmod h.base.1 h.base.2 (policy.backoffMultiplier.getD 2)
    retryCount.toNat
  have hnonneg : 0 ≤ uncapped policy retryCount :=
    mul_nonneg h.base.1 (pow_nonneg (zero_le_one.trans h.one_le_multiplier) _)
  have hcap : (30 * minute : Int) < 2 ^ 63 := by decide
  rw [retryDelay, hdelay]
  change (if (uncapped policy retryCount).bmod (2 ^ 64) > 30 * minute then _
    else (uncapped policy retryCount).bmod (2 ^ 64)) = _ ↔ _
  rcases lt_or_ge (uncapped policy retryCount) (2 ^ 63) with hfits | hlarge
  · rw [Int.bmod_eq_of_le (by omega) (by omega)]
    split <;> omega
  · rw [min_eq_right (hcap.le.trans hlarge), or_iff_right (not_lt.mpr hlarge)]
    split
    · rename_i habove
      exact iff_of_true rfl habove.le
    · rename_i hbelow
      exact ⟨Eq.ge, le_antisymm (not_lt.mp hbelow)⟩

end

/-- The delay is the capped product, with all that follows from it (at least the first delay, at
most thirty minutes, no shorter than before), exactly if the product fits in 64 bits or its
remainder is above the cap too. -/
theorem delay_is_capped_product (h : AdmittedPolicy policy) (retryCount : Int) :
    (retryDelay policy retryCount = min (uncapped policy retryCount) (30 * minute) ∧
        min (policy.retryDelay.getD (5 * minute)) (30 * minute) ≤ retryDelay policy retryCount ∧
        retryDelay policy retryCount ≤ 30 * minute ∧
        ∀ earlier ≤ retryCount, retryDelay policy earlier ≤ retryDelay policy retryCount) ↔
      uncapped policy retryCount < 2 ^ 63 ∨
        30 * minute ≤ (uncapped policy retryCount).bmod (2 ^ 64) := by
  rw [← retryDelay_eq_min_iff h]
  refine ⟨And.left, fun heq => ⟨heq, ?_, heq.trans_le (min_le_right _ _), fun earlier hle => ?_⟩⟩
  · have hfirst := @uncapped_mono _ h 0 retryCount (Nat.zero_le _)
    rw [uncapped, Int.toNat_zero, pow_zero, mul_one] at hfirst
    exact heq ▸ min_le_min_right _ hfirst
  · rw [heq]
    have hmono := uncapped_mono h (Int.toNat_le_toNat hle)
    rcases lt_or_ge (uncapped policy retryCount) (30 * minute) with hbelow | habove
    · have hfits : uncapped policy earlier < 2 ^ 63 := hmono.trans_lt (hbelow.trans (by decide))
      rw [(retryDelay_eq_min_iff h earlier).mpr (.inl hfits)]
      exact min_le_min_right _ hmono
    · rw [min_eq_right habove, retryDelay]
      split
      · exact le_rfl
      · exact not_lt.mp ‹_›

/-- Three retries with the defaults, and ten with the largest multiplier: the product of the last
one does not fit, and its remainder is above the cap. -/
theorem delay_is_capped_product_default :
    AdmittedPolicy {} ∧ retryDelay {} 2 = 20 * minute ∧
      AdmittedPolicy { backoffMultiplier := some 10 } ∧
      2 ^ 63 ≤ uncapped { backoffMultiplier := some 10 } 9 ∧
      retryDelay { backoffMultiplier := some 10 } 9 = 30 * minute := by
  have hadmitted : AdmittedPolicy {} := ⟨nofun, nofun, nofun⟩
  have hlarge : AdmittedPolicy { backoffMultiplier := some 10 } := by
    refine ⟨nofun, nofun, ?_⟩
    rintro n ⟨⟩
    decide
  exact ⟨hadmitted, ((delay_is_capped_product hadmitted 2).mpr (by decide)).1, hlarge, by decide,
    ((delay_is_capped_product hlarge 9).mpr (by decide)).1⟩

/-- Ten retries whose delay grows tenfold: before the last but one, five minutes have become a
negative delay. -/
theorem delay_wraps_around :
    let policy : MigrationRetryPolicy := { maxRetries := some 10, backoffMultiplier := some 10 }
    AdmittedPolicy policy ∧ 8 < maxRetries policy ∧ retryDelay policy 8 < 0 ∧
      30 * minute < uncapped policy 8 := by
  refine ⟨⟨?_, nofun, ?_⟩, by decide, by decide, by decide⟩
  · rintro n ⟨⟩
    decide
  · rintro n ⟨⟩
    decide

end Policy

end Virtrigaud.Migration
