import DiscountPolicy.Proofs.Double.Rounded

/-! Arithmetic on finite numbers. A product or a quotient is the number to which the exact one rounds,
so what a chain of operations gives can be told from values alone. -/

namespace DiscountPolicy.FiniteDouble

variable {x y z : FiniteDouble} {p q r s : ℚ}

/-! ### Rounding as a relation of values -/

/-- The value `r` is what `q` rounds to. -/
def RoundsTo (q r : ℚ) : Prop := ∃ x : FiniteDouble, x.IsRounded q ∧ x.value = r

theorem rank_eq_of_value_eq (h : x.value = y.value) : x.rank = y.rank := by
  rw [← natAbs_place x, ← natAbs_place y, value_eq_iff.mp h]

/-- The sign of zero plays no part in rounding. -/
theorem IsRounded.congr (hx : x.IsRounded q) (h : x.value = y.value) : y.IsRounded q := by
  obtain ⟨inRange, nearest, even⟩ := hx
  rw [rank_eq_of_value_eq h] at even
  simp only [h] at nearest even
  exact ⟨inRange, nearest, even⟩

theorem roundsTo_value_iff : RoundsTo q x.value ↔ x.IsRounded q := by
  constructor
  · rintro ⟨y, hy, hvalue⟩
    exact hy.congr hvalue
  · intro hx
    exact ⟨x, hx, rfl⟩

theorem RoundsTo.unique (h : RoundsTo q r) (h' : RoundsTo q s) : r = s := by
  obtain ⟨x, hx, rfl⟩ := h
  obtain ⟨y, hy, rfl⟩ := h'
  exact le_antisymm (hy.value_le hx) (hx.value_le hy)

theorem two_mul_le_of_abs_sub_le (hlt : r < s) (h : |r - q| ≤ |s - q|) : 2 * q ≤ r + s := by
  have hsq := sq_le_sq.mpr h
  nlinarith

theorem le_two_mul_of_abs_sub_le (hlt : r < s) (h : |s - q| ≤ |r - q|) : r + s ≤ 2 * q := by
  have hsq := sq_le_sq.mpr h
  nlinarith

/-- Rounding keeps the order. -/
theorem IsRounded.value_mono (hx : x.IsRounded p) (hy : y.IsRounded q) (h : p ≤ q) :
    x.value ≤ y.value := by
  by_contra hnot
  have hlt := not_le.mp hnot
  have hlow := le_two_mul_of_abs_sub_le hlt (hx.nearest y)
  have hhigh := two_mul_le_of_abs_sub_le hlt (hy.nearest x)
  obtain rfl : p = q := le_antisymm h (by linarith)
  exact hnot (hy.value_le hx)

/-- A number is what its value rounds to. -/
theorem isRounded_value (x : FiniteDouble) : x.IsRounded x.value := by
  refine isRounded_of_rank unitsInOne_pos x.abs_value ?_ ?_
  · simp
  · exact nearestRank_unitsOfRank x.rank unitsInOne_pos

theorem roundsTo_value (x : FiniteDouble) : RoundsTo x.value x.value := ⟨x, x.isRounded_value, rfl⟩

theorem roundsTo_zero : RoundsTo 0 0 := by
  have h := roundsTo_value (zero false)
  rwa [value_zero] at h

theorem roundsTo_one : RoundsTo 1 1 := by
  have hunits : unitsOfRank (1023 * binade) = unitsInOne := by
    simpa using unitsOfRank_two_pow 0
  have hvalue : FiniteDouble.value ⟨false, 1023 * binade, by decide⟩ = 1 := by
    rw [value_eq_ratio, units, hunits, div_self unitsInOne_cast_pos.ne', mul_one]
    exact if_neg Bool.false_ne_true
  have h := roundsTo_value ⟨false, 1023 * binade, by decide⟩
  rwa [hvalue] at h

theorem abs_value_lt (x : FiniteDouble) : |x.value| < 2 ^ 1024 - 2 ^ 970 :=
  x.isRounded_value.inRange

/-! ### Operations -/

theorem isRounded_clampRatio {negative : Bool} {num den : Nat} (hden : 0 < den)
    (h : (num : ℚ) / den < 2 ^ 1024 - 2 ^ 970) :
    (clampRatio negative num den).IsRounded ((if negative then -1 else 1) * ((num : ℚ) / den)) := by
  obtain ⟨x, hx⟩ := (@exists_ofRatio?_eq_some_iff negative num den hden).mpr h
  have hclamp : clampRatio negative num den = x := by
    obtain ⟨xnegative, xrank, hlt⟩ := x
    obtain ⟨rfl, rfl⟩ := ofRatio?_eq_some_iff_rank.mp hx
    simp only [clampRatio, Nat.min_eq_left (Nat.le_sub_one_of_lt hlt)]
  rw [hclamp]
  exact isRounded_of_ofRatio? hden hx

theorem isRounded_ofNat {n : Nat} (h : n < 2 ^ 1024 - 2 ^ 970) : (ofNat n).IsRounded n := by
  have hlt : (n : ℚ) / (1 : Nat) < 2 ^ 1024 - 2 ^ 970 := by
    rw [Nat.cast_one, div_one, ← cast_limit, Nat.cast_lt]
    exact h
  have hrounded := @isRounded_clampRatio false n 1 Nat.one_pos hlt
  simpa [ofNat] using hrounded

/-- The sign of a product, and of a quotient. -/
theorem sign_bne (a b : Bool) : (if a != b then (-1 : ℚ) else 1) =
    (if a then -1 else 1) * (if b then -1 else 1) := by
  cases a <;> cases b <;> norm_num

theorem sign_div (a b : Bool) : (if a then (-1 : ℚ) else 1) / (if b then -1 else 1) =
    (if a then -1 else 1) * (if b then -1 else 1) := by
  cases a <;> cases b <;> norm_num

theorem mul?_eq_some_iff : x.mul? y = some z ↔
    z.negative = (x.negative != y.negative) ∧ z.IsRounded (x.value * y.value) := by
  have hproduct : (if x.negative != y.negative then -1 else 1) *
      (((x.units * y.units : Nat) : ℚ) / (unitsInOne * unitsInOne : Nat)) = x.value * y.value := by
    rw [x.value_eq_ratio, y.value_eq_ratio, sign_bne, Nat.cast_mul, Nat.cast_mul,
      ← div_mul_div_comm, mul_mul_mul_comm]
  rw [mul?, ofRatio?_eq_some_iff (Nat.mul_pos unitsInOne_pos unitsInOne_pos), hproduct]

theorem isRounded_div (hy : y.value ≠ 0) (h : |x.value / y.value| < 2 ^ 1024 - 2 ^ 970) :
    (x.div y).IsRounded (x.value / y.value) := by
  have hden : 0 < y.units := by
    refine Nat.pos_of_ne_zero fun hzero => hy ?_
    rw [y.value_eq_ratio, hzero, Nat.cast_zero, zero_div, mul_zero]
  have hquotient : (if x.negative != y.negative then -1 else 1) * ((x.units : ℚ) / y.units) =
      x.value / y.value := by
    rw [x.value_eq_ratio, y.value_eq_ratio, mul_div_mul_comm, sign_div, sign_bne,
      div_div_div_cancel_right₀ unitsInOne_cast_pos.ne']
  rw [← hquotient, abs_signed_ratio] at h
  rw [← hquotient]
  exact isRounded_clampRatio hden h

end DiscountPolicy.FiniteDouble
