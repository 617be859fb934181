import Mathlib.Algebra.Order.Field.Basic
import Mathlib.Algebra.Order.Field.Rat
import Mathlib.Data.Rat.Cast.Order
import Mathlib.Tactic.FieldSimp
import Mathlib.Tactic.Linarith
import DiscountPolicy.Proofs.Double.Whole

/-! The values of finite numbers as rational numbers. Places are in the order of the values, and
numbers compare as equal exactly if their values are equal. -/

namespace DiscountPolicy

namespace FiniteDouble

variable {x y : FiniteDouble}

/-- The value: a whole number of units of `2 ^ -1074`. -/
def value (x : FiniteDouble) : ℚ := x.signedUnits / unitsInOne

theorem unitsInOne_cast_pos : (0 : ℚ) < unitsInOne := Nat.cast_pos.mpr unitsInOne_pos

/-! ### Order -/

theorem value_le_iff : x.value ≤ y.value ↔ x.place ≤ y.place := by
  rw [value, value, div_le_div_iff_of_pos_right unitsInOne_cast_pos, Int.cast_le,
    signedUnits_le_iff]

theorem value_lt_iff : x.value < y.value ↔ x.place < y.place := by
  rw [← not_le, value_le_iff, Int.not_le]

theorem value_eq_iff : x.value = y.value ↔ x.place = y.place := by
  rw [le_antisymm_iff, value_le_iff, value_le_iff, ← le_antisymm_iff]

/-- The sign and the value tell finite numbers apart; only zero needs the sign. -/
theorem eq_of_value_eq (hsign : x.negative = y.negative) (h : x.value = y.value) : x = y := by
  obtain ⟨xnegative, xrank, hx⟩ := x
  obtain ⟨ynegative, yrank, hy⟩ := y
  obtain rfl : xnegative = ynegative := hsign
  have hplace := value_eq_iff.mp h
  obtain rfl : xrank = yrank := by
    cases xnegative <;> simpa [place] using hplace
  rfl

/-! ### Particular values -/

theorem value_zero (negative : Bool) : (zero negative).value = 0 := by
  have hunits : (zero negative).signedUnits = 0 := by cases negative <;> decide +kernel
  rw [value, hunits, Int.cast_zero, zero_div]

theorem value_nonneg_iff : 0 ≤ x.value ↔ 0 ≤ x.place := by
  rw [← value_zero false, value_le_iff]
  rfl

theorem value_eq_intCast_iff {n : Int} : x.value = n ↔ x.signedUnits = n * unitsInOne := by
  rw [value, div_eq_iff unitsInOne_cast_pos.ne', ← Int.cast_natCast, ← Int.cast_mul, Int.cast_inj]

theorem abs_value (x : FiniteDouble) : |x.value| = (x.units : ℚ) / unitsInOne := by
  rw [value, abs_div, abs_of_pos unitsInOne_cast_pos, ← natAbs_signedUnits x, Nat.cast_natAbs,
    Int.cast_abs]

theorem isZero_iff : x.isZero = true ↔ x.value = 0 := by
  have hunit := unitsInOne_cast_pos.ne'
  rw [isZero, decide_eq_true_iff, ← units_eq_zero_iff, ← abs_eq_zero,
    x.abs_value, div_eq_zero_iff, or_iff_left hunit, Nat.cast_eq_zero]

theorem value_nonneg (hx : x.negative = false) : 0 ≤ x.value := by
  rw [value_nonneg_iff, place, hx]
  exact Int.natCast_nonneg x.rank

theorem abs_value_with (x : FiniteDouble) (negative : Bool) :
    |value { x with negative }| = |x.value| := by
  rw [abs_value, abs_value]
  rfl

/-- The integer that a number becomes is its value, and it becomes one if the value is whole and
below `2 ^ 63` in magnitude. -/
theorem toInt64?_eq_some_iff_value {m : Int64} :
    x.toInt64? = some m ↔ x.value = (m.toInt : ℚ) ∧ |x.value| < 2 ^ 63 := by
  rw [toInt64?_eq_some_iff, value_eq_intCast_iff]
  refine and_congr_right fun hwhole => ?_
  rw [value_eq_intCast_iff.mpr hwhole, ← Int.cast_abs, ← Nat.cast_natAbs]
  norm_cast

end FiniteDouble

namespace Double

/-- The value of a number that is finite. -/
def value? : Double → Option ℚ
  | .finite x => some x.value
  | _ => none

theorem value?_eq_some_iff {v : Double} {q : ℚ} :
    v.value? = some q ↔ ∃ x, v = .finite x ∧ x.value = q := by
  cases v <;> simp [value?]

/-- Finite numbers compare as equal exactly if their values are equal. -/
theorem equal_finite_iff_value {x y : FiniteDouble} :
    (Double.finite x).equal (.finite y) = true ↔ x.value = y.value := by
  rw [FiniteDouble.value_eq_iff, equal, beq_iff_eq]

end Double

end DiscountPolicy
