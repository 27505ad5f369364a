import Mathlib.Algebra.Order.Field.Rat
import Mathlib.Tactic.Positivity
import LakehouseSql.Decimal.Binary64
/-! # Numbers as rationals

The rational number that a finite word stands for, and what the check for an interval says of it.
-/
namespace LakehouseSql.Binary64

/-- The number that a finite word stands for. -/
def value (x : Binary64) : ℚ :=
  (if x.isNegative then -1 else 1) * (x.ratio.1 / x.ratio.2)

private theorem ratio_den_pos (x : Binary64) : (0 : ℚ) < x.ratio.2 := by
  unfold ratio
  split
  · simp
  · simp

private theorem ratio_num_eq_zero_iff (x : Binary64) : x.ratio.1 = 0 ↔ x.isZero := by
  have hsig : x.significand = 0 ↔ x.isZero := by
    unfold significand isZero
    split <;> simp [*]
  unfold ratio
  split <;> simp [hsig]

private theorem value_nonneg_iff (x : Binary64) :
    0 ≤ x.value ↔ x.isZero ∨ x.isNegative = false := by
  have hden := ratio_den_pos x
  rw [← ratio_num_eq_zero_iff]
  unfold value
  cases x.isNegative with
  | false => simpa using by positivity
  | true =>
    simp only [if_true, neg_one_mul, Left.nonneg_neg_iff, Bool.true_eq_false, or_false]
    rw [div_le_iff₀ hden, zero_mul, Nat.cast_nonpos]

/-- A number passes the check exactly if it is finite and lies in the interval. -/
theorem isBetweenZeroAnd_iff (bound : Nat) (x : Binary64) :
    x.isBetweenZeroAnd bound ↔ x.isFinite ∧ 0 ≤ x.value ∧ x.value ≤ bound := by
  have hden := ratio_den_pos x
  simp only [isBetweenZeroAnd, Bool.or_eq_true, Bool.and_eq_true, Bool.not_eq_true',
    decide_eq_true_eq, value_nonneg_iff]
  by_cases hz : x.isZero
  · have hfinite : x.isFinite := by
      simp only [isZero, Bool.and_eq_true, beq_iff_eq] at hz
      simp [isFinite, hz.1]
    have hvalue : x.value = 0 := by
      simp [value, (ratio_num_eq_zero_iff x).mpr hz]
    simp [hz, hfinite, hvalue]
  · simp only [hz, Bool.false_eq_true, false_or]
    constructor
    · intro h
      obtain ⟨⟨hsign, hfinite⟩, hle⟩ := h
      refine ⟨hfinite, hsign, ?_⟩
      simp only [value, hsign, Bool.false_eq_true, if_false, one_mul]
      rw [div_le_iff₀ hden]
      exact_mod_cast hle
    · intro h
      obtain ⟨hfinite, hsign, hle⟩ := h
      refine ⟨⟨hsign, hfinite⟩, ?_⟩
      simp only [value, hsign, Bool.false_eq_true, if_false, one_mul] at hle
      rw [div_le_iff₀ hden] at hle
      exact_mod_cast hle

end LakehouseSql.Binary64
