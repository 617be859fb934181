import DiscountPolicy.Proofs.Double.Value

/-! Rounding to nearest, with ties to even. What a numeral is read as is the finite number of its
sign to which its value rounds; no other number of that sign is. From half a step above the largest
number on, values round to none. -/

namespace DiscountPolicy

/-! ### Ties -/

/-- Of two whole numbers that are equally near, the even one is taken. -/
theorem roundHalfEven_even {num den k : Nat} (hden : 0 < den)
    (htie : Nat.dist (k * den) num = Nat.dist (roundHalfEven num den * den) num)
    (hne : k ≠ roundHalfEven num den) : roundHalfEven num den % 2 = 0 := by
  have hnum := Nat.div_add_mod num den
  rw [Nat.mul_comm] at hnum
  have hlt := Nat.mod_lt num hden
  have hbelow : ∀ {a b : Nat}, a < b → a * den + den ≤ b * den := by
    intro a b hab
    rw [← Nat.succ_mul]
    exact Nat.mul_le_mul_right den hab
  simp only [roundHalfEven, Nat.dist] at htie hne ⊢
  split at htie
  · next hlow =>
    rw [if_pos hlow] at hne ⊢
    rcases Nat.lt_or_gt_of_ne hne with hk | hk
    · have := hbelow hk
      omega
    · have := hbelow hk
      omega
  · next hhigh =>
    rw [if_neg hhigh] at hne ⊢
    rw [Nat.add_mul] at htie
    rcases Nat.lt_or_gt_of_ne hne with hk | hk
    · have := Nat.mul_le_mul_right den (Nat.le_of_lt_succ hk)
      omega
    · have := hbelow hk
      rw [Nat.add_mul] at this
      omega

/-- Of two magnitudes that are equally near, the one of even rank is taken. -/
theorem nearestRank_even {num den rank : Nat} (hden : 0 < den)
    (htie : Nat.dist (unitsOfRank rank * den) num =
      Nat.dist (unitsOfRank (nearestRank num den) * den) num)
    (hne : rank ≠ nearestRank num den) : nearestRank num den % 2 = 0 := by
  obtain ⟨s, h⟩ := exists_inBinade num hden
  have hstep : 0 < den * 2 ^ s := Nat.mul_pos hden (Nat.two_pow_pos s)
  have hnearest := unitsOfRank_nearestRank_mul hden h
  rw [hnearest] at htie
  rcases h.unitsOfRank_cases hden rank with ⟨hbelow, hlow⟩ | ⟨k, hk⟩
  · -- The lower end of the binade is nearer than what lies below it.
    exfalso
    have hend := roundHalfEven_nearest num (den * 2 ^ s) binade
    rw [← htie] at hend
    simp only [Nat.dist] at hend
    omega
  · rw [hk] at htie
    have hne' : k ≠ roundHalfEven num (den * 2 ^ s) := by
      rintro rfl
      have hunits := Nat.eq_of_mul_eq_mul_right hden (hk.trans hnearest.symm)
      have hlt := @unitsOfRank_lt_iff rank (nearestRank num den)
      have hgt := @unitsOfRank_lt_iff (nearestRank num den) rank
      omega
    have heven := roundHalfEven_even hstep htie hne'
    rw [nearestRank_eq hden h, binade]
    omega

/-! ### The largest magnitude -/

/-- Below the middle of two points, the lower one is nearer than all from the upper one on. -/
theorem dist_lt_of_lt_middle {low high middle target far : Nat} (hlt : low < high)
    (hmiddle : 2 * middle = low + high) (hfar : high ≤ far) (htarget : target < middle) :
    Nat.dist low target < Nat.dist far target := by
  unfold Nat.dist
  omega

/-- The limit lies in the middle between the largest magnitude and the one that would follow. -/
theorem two_mul_limit : 2 * ((2 ^ 1024 - 2 ^ 970) * unitsInOne) =
    unitsOfRank (magnitudes - 1) + unitsOfRank magnitudes := by
  have hlast : unitsOfRank (magnitudes - 1) = (2 ^ 1024 - 2 ^ 971) * unitsInOne := by
    decide +kernel
  have hnext : unitsOfRank magnitudes = 2 ^ 1024 * unitsInOne := unitsOfRank_two_pow 1024
  have hpow : 2 * (2 ^ 1024 - 2 ^ 970) = 2 ^ 1024 - 2 ^ 971 + 2 ^ 1024 := by decide +kernel
  rw [hlast, hnext, ← Nat.add_mul, ← hpow, Nat.mul_assoc]

/-- The magnitudes that round to a finite one are those below half a step above the largest. -/
theorem nearestRank_lt_magnitudes_iff {num den : Nat} (hden : 0 < den) :
    nearestRank (num * unitsInOne) den < magnitudes ↔ num < (2 ^ 1024 - 2 ^ 970) * den := by
  constructor
  · intro h
    by_contra hnot
    have htop : nearestRank ((2 ^ 1024 - 2 ^ 970) * unitsInOne) 1 = magnitudes := by
      decide +kernel
    have hmono : nearestRank ((2 ^ 1024 - 2 ^ 970) * unitsInOne) 1 ≤
        nearestRank (num * unitsInOne) den := by
      refine nearestRank_mono Nat.one_pos hden ?_
      rw [Nat.mul_one, Nat.mul_right_comm]
      exact Nat.mul_le_mul_right unitsInOne (Nat.le_of_not_lt hnot)
    omega
  · intro h
    by_contra hnot
    have hlt : unitsOfRank (magnitudes - 1) * den < unitsOfRank magnitudes * den :=
      Nat.mul_lt_mul_of_pos_right (unitsOfRank_lt_iff.mpr (by decide)) hden
    have hmiddle : 2 * ((2 ^ 1024 - 2 ^ 970) * den * unitsInOne) =
        unitsOfRank (magnitudes - 1) * den + unitsOfRank magnitudes * den := by
      rw [← Nat.add_mul, ← two_mul_limit]
      ring
    have hfar : unitsOfRank magnitudes * den ≤
        unitsOfRank (nearestRank (num * unitsInOne) den) * den := by
      refine Nat.mul_le_mul_right den ?_
      rw [← Nat.not_lt, unitsOfRank_lt_iff]
      exact hnot
    have hlimit := Nat.mul_lt_mul_of_pos_right h unitsInOne_pos
    exact Nat.not_lt.mpr (nearestRank_nearest (num * unitsInOne) (magnitudes - 1) hden)
      (dist_lt_of_lt_middle hlt hmiddle hfar hlimit)

/-! ### Values of numerals -/

theorem abs_signed_ratio (negative : Bool) (num den : Nat) :
    |(if negative then -1 else 1) * ((num : ℚ) / den)| = (num : ℚ) / den := by
  have hnonneg : (0 : ℚ) ≤ (num : ℚ) / den := by positivity
  split
  · rw [neg_one_mul, abs_neg, abs_of_nonneg hnonneg]
  · rw [one_mul, abs_of_nonneg hnonneg]

namespace Decimal

/-- The value: the coefficient times the power of ten, with the sign. -/
def value (d : Decimal) : ℚ := (if d.negative then -1 else 1) * (d.coefficient * 10 ^ d.exponent)

theorem value_eq_ratio (d : Decimal) :
    d.value = (if d.negative then -1 else 1) * ((d.num : ℚ) / d.den) := by
  have hpow : (10 : ℚ) ^ d.exponent = 10 ^ d.exponent.toNat / 10 ^ (-d.exponent).toNat := by
    rw [← zpow_natCast, ← zpow_natCast, ← zpow_sub₀ (by norm_num)]
    congr 1
    omega
  rw [value, hpow, num, den]
  push_cast
  rw [mul_div_assoc]

theorem abs_value (d : Decimal) : |d.value| = (d.num : ℚ) / d.den := by
  rw [value_eq_ratio, abs_signed_ratio]

end Decimal

/-! ### Rounding -/

namespace FiniteDouble

variable {x y : FiniteDouble} {q : ℚ}

/-- The number is what the value rounds to. The rank is even exactly if the last bit of the
significand is zero. -/
structure IsRounded (x : FiniteDouble) (q : ℚ) : Prop where
  /-- The value lies below half a step above the largest number. -/
  inRange : |q| < 2 ^ 1024 - 2 ^ 970
  nearest : ∀ y : FiniteDouble, |x.value - q| ≤ |y.value - q|
  even : ∀ y : FiniteDouble, |y.value - q| = |x.value - q| → y.value ≠ x.value → x.rank % 2 = 0

theorem value_eq_ratio (x : FiniteDouble) :
    x.value = (if x.negative then -1 else 1) * ((x.units : ℚ) / unitsInOne) := by
  rw [value, signedUnits]
  split
  · rw [Int.cast_neg, Int.cast_natCast, neg_div, neg_one_mul]
  · rw [Int.cast_natCast, one_mul]

theorem cast_dist (a b : Nat) : ((Nat.dist a b : Nat) : ℚ) = |(a : ℚ) - b| := by
  rcases Nat.le_total a b with h | h
  · rw [Nat.dist_eq_sub_of_le h, Nat.cast_sub h, abs_sub_comm, abs_of_nonneg]
    exact sub_nonneg.mpr (Nat.cast_le.mpr h)
  · rw [Nat.dist_eq_sub_of_le_right h, Nat.cast_sub h, abs_of_nonneg]
    exact sub_nonneg.mpr (Nat.cast_le.mpr h)

theorem cast_limit : ((2 ^ 1024 - 2 ^ 970 : Nat) : ℚ) = 2 ^ 1024 - 2 ^ 970 := by
  have hle : 2 ^ 970 ≤ 2 ^ 1024 := pow_le_pow_right₀ one_le_two (by decide)
  rw [Nat.cast_sub hle, Nat.cast_pow, Nat.cast_pow, Nat.cast_ofNat]

/-- Distances of magnitudes from a ratio, in whole numbers. -/
theorem abs_sub_ratio (x : FiniteDouble) (num : Nat) {den : Nat} (hden : 0 < den) :
    |(|x.value| - (num : ℚ) / den)| =
      (Nat.dist (unitsOfRank x.rank * den) (num * unitsInOne) : Nat) / ((unitsInOne : ℚ) * den) := by
  have hunit := unitsInOne_cast_pos
  have hden' : (0 : ℚ) < den := Nat.cast_pos.mpr hden
  rw [x.abs_value, cast_dist, div_sub_div _ _ hunit.ne' hden'.ne', abs_div,
    abs_of_pos (mul_pos hunit hden'), FiniteDouble.units]
  push_cast
  rw [mul_comm (unitsInOne : ℚ) num]

/-- Numbers of one rank that are equally near to a value have one value, unless zero is nearer. -/
theorem value_eq_of_rank_eq (hrank : y.rank = x.rank) (htie : |y.value - q| = |x.value - q|)
    (hzero : |x.value - q| ≤ |q|) : y.value = x.value := by
  have habs : |y.value| = |x.value| := by
    rw [y.abs_value, x.abs_value, units_eq_iff.mpr hrank]
  rcases abs_eq_abs.mp habs with heq | hneg
  · exact heq
  · rw [hneg] at htie
    rcases abs_eq_abs.mp htie with h | h
    · linarith
    · have hq : q = 0 := by linarith
      rw [hq, sub_zero, abs_zero] at hzero
      rw [hneg, abs_nonpos_iff.mp hzero, neg_zero]

/-- The number of the value's sign with the nearest rank is what the value rounds to. -/
theorem isRounded_of_rank {num den : Nat} (hden : 0 < den) (habs : |q| = (num : ℚ) / den)
    (hsign : |x.value - q| = |(|x.value| - |q|)|)
    (hrank : nearestRank (num * unitsInOne) den = x.rank) : x.IsRounded q := by
  have hden' : (0 : ℚ) < den := Nat.cast_pos.mpr hden
  have hpos : (0 : ℚ) < (unitsInOne : ℚ) * den := mul_pos unitsInOne_cast_pos hden'
  have hnearest : ∀ y : FiniteDouble, |x.value - q| ≤ |(|y.value| - |q|)| := by
    intro y
    rw [hsign, habs, abs_sub_ratio x num hden, abs_sub_ratio y num hden,
      div_le_div_iff_of_pos_right hpos, Nat.cast_le, ← hrank]
    exact nearestRank_nearest (num * unitsInOne) y.rank hden
  refine ⟨?_, fun y => (hnearest y).trans (abs_abs_sub_abs_le _ _), fun y htie hne => ?_⟩
  · have hlt := (nearestRank_lt_magnitudes_iff hden).mp (hrank ▸ x.rank_lt)
    rw [habs, div_lt_iff₀ hden', ← cast_limit, ← Nat.cast_mul, Nat.cast_lt]
    exact hlt
  · have hdist : |(|y.value| - |q|)| = |(|x.value| - |q|)| := by
      refine le_antisymm ?_ (hsign ▸ hnearest y)
      rw [← hsign, ← htie]
      exact abs_abs_sub_abs_le _ _
    have hzero : |x.value - q| ≤ |q| := by
      have h := hnearest (zero false)
      rw [value_zero, abs_zero, zero_sub, abs_neg, abs_abs] at h
      exact h
    have hother : y.rank ≠ x.rank := fun hsame => hne (value_eq_of_rank_eq hsame htie hzero)
    rw [habs, abs_sub_ratio x num hden, abs_sub_ratio y num hden,
      div_left_inj' hpos.ne', Nat.cast_inj, ← hrank] at hdist
    rw [← hrank]
    exact nearestRank_even hden hdist (hrank ▸ hother)

theorem natAbs_place (x : FiniteDouble) : x.place.natAbs = x.rank := by
  rw [place]
  split <;> simp

/-- There is a number at every place. -/
theorem exists_place {p : Int} (h : p.natAbs < magnitudes) : ∃ x : FiniteDouble, x.place = p := by
  refine ⟨⟨decide (p < 0), p.natAbs, h⟩, ?_⟩
  rw [place]
  by_cases hp : p < 0
  · simp only [hp, decide_true, if_true]
    omega
  · simp only [hp, decide_false, Bool.false_eq_true, if_false]
    omega

/-- If a value rounded to two values, it would be half way between them. Their ranks would be even,
so there would be a nearer value between them. -/
theorem IsRounded.value_le (hx : x.IsRounded q) (hy : y.IsRounded q) : y.value ≤ x.value := by
  by_contra hnot
  have hlt := not_le.mp hnot
  have hdist : |y.value - q| = |x.value - q| := le_antisymm (hy.nearest x) (hx.nearest y)
  have hmiddle : y.value - q = q - x.value := by
    rcases abs_eq_abs.mp hdist with h | h
    · linarith
    · linarith
  have hplace := value_lt_iff.mp hlt
  have hxrank := natAbs_place x
  have hyrank := natAbs_place y
  have hxeven := hx.even y hdist hlt.ne'
  have hyeven := hy.even x hdist.symm hlt.ne
  obtain ⟨z, hz⟩ : ∃ z : FiniteDouble, z.place = x.place + 1 := by
    apply exists_place
    have hxlt := x.rank_lt
    have hylt := y.rank_lt
    omega
  have hup : x.value < z.value := value_lt_iff.mpr (by omega)
  have hdown : z.value < y.value := value_lt_iff.mpr (by omega)
  have hnearer : |z.value - q| < |x.value - q| := by
    rw [abs_lt, abs_of_neg (by linarith)]
    constructor <;> linarith
  exact absurd (hx.nearest z) (not_le.mpr hnearer)

/-- A value rounds to one number of each sign at most. -/
theorem IsRounded.eq (hx : x.IsRounded q) (hy : y.IsRounded q) (hsign : x.negative = y.negative) :
    x = y :=
  eq_of_value_eq hsign (le_antisymm (hy.value_le hx) (hx.value_le hy))

/-! ### Ratios -/

variable {negative : Bool} {num den : Nat}

theorem isRounded_of_ofRatio? (hden : 0 < den) (h : ofRatio? negative num den = some x) :
    x.IsRounded ((if negative then -1 else 1) * ((num : ℚ) / den)) := by
  obtain ⟨hsign, hrank⟩ := ofRatio?_eq_some_iff_rank.mp h
  refine isRounded_of_rank hden (abs_signed_ratio negative num den) ?_ hrank
  rw [abs_signed_ratio, x.abs_value, x.value_eq_ratio, hsign]
  split
  · rw [neg_one_mul, neg_one_mul, neg_sub_neg, abs_sub_comm]
  · rw [one_mul, one_mul]

/-- A ratio rounds to a finite number if it lies below half a step above the largest one. -/
theorem exists_ofRatio?_eq_some_iff (hden : 0 < den) :
    (∃ x, ofRatio? negative num den = some x) ↔ (num : ℚ) / den < 2 ^ 1024 - 2 ^ 970 := by
  constructor
  · rintro ⟨x, h⟩
    rw [← abs_signed_ratio negative]
    exact (isRounded_of_ofRatio? hden h).inRange
  · intro h
    rw [div_lt_iff₀ (Nat.cast_pos.mpr hden), ← cast_limit, ← Nat.cast_mul, Nat.cast_lt] at h
    have hlt := (nearestRank_lt_magnitudes_iff hden).mpr h
    exact ⟨⟨negative, _, hlt⟩, ofRatio?_eq_some_iff_rank.mpr ⟨rfl, rfl⟩⟩

/-- A ratio with a sign is read as the finite number of that sign to which its value rounds. -/
theorem ofRatio?_eq_some_iff (hden : 0 < den) : ofRatio? negative num den = some x ↔
    x.negative = negative ∧ x.IsRounded ((if negative then -1 else 1) * ((num : ℚ) / den)) := by
  constructor
  · intro h
    exact ⟨(ofRatio?_eq_some_iff_rank.mp h).1.symm, isRounded_of_ofRatio? hden h⟩
  · rintro ⟨hsign, hx⟩
    have hrange := hx.inRange
    rw [abs_signed_ratio] at hrange
    obtain ⟨y, hy⟩ := (@exists_ofRatio?_eq_some_iff negative num den hden).mpr hrange
    have hsign' := (ofRatio?_eq_some_iff_rank.mp hy).1
    rw [hy, hx.eq (isRounded_of_ofRatio? hden hy) (hsign.trans hsign')]

end FiniteDouble

/-! ### Reading -/

namespace Double

variable {d : Decimal} {x : FiniteDouble}

theorem ofDecimal_eq_finite_iff_ofRatio? :
    ofDecimal d = .finite x ↔ FiniteDouble.ofRatio? d.negative d.num d.den = some x := by
  rw [ofDecimal_eq_finite_iff, FiniteDouble.ofRatio?_eq_some_iff_rank]

theorem exists_ofDecimal_eq_finite_iff :
    (∃ x, ofDecimal d = .finite x) ↔ |d.value| < 2 ^ 1024 - 2 ^ 970 := by
  simp only [ofDecimal_eq_finite_iff_ofRatio?]
  rw [FiniteDouble.exists_ofRatio?_eq_some_iff d.den_pos, d.abs_value]

/-- A numeral is read as the finite number of its sign to which its value rounds. -/
theorem ofDecimal_eq_finite_iff_isRounded :
    ofDecimal d = .finite x ↔ x.negative = d.negative ∧ x.IsRounded d.value := by
  rw [ofDecimal_eq_finite_iff_ofRatio?, FiniteDouble.ofRatio?_eq_some_iff d.den_pos,
    d.value_eq_ratio]

end Double

end DiscountPolicy
