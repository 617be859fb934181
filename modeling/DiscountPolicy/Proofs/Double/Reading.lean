import DiscountPolicy.Double.Shortest
import DiscountPolicy.Proofs.Double.Rounding

/-! Reading numerals: a numeral is read as the number nearest to its value, which is a ratio of whole
numbers, however the value is split into coefficient and exponent. The numeral that is chosen for a
number is read as that number. -/

namespace DiscountPolicy

/-! ### Values of numerals -/

namespace Decimal

/-- The numerator of the magnitude. -/
def num (d : Decimal) : Nat := d.coefficient * 10 ^ d.exponent.toNat

/-- The denominator of the magnitude. -/
def den (d : Decimal) : Nat := 10 ^ (-d.exponent).toNat

theorem den_pos (d : Decimal) : 0 < d.den := Nat.pow_pos (by decide)

/-- Powers of ten can be moved between the coefficient and the exponent. -/
theorem num_mul_den_shift (negative : Bool) (c k : Nat) (e : Int) :
    (Decimal.mk negative (c * 10 ^ k) e).num * (Decimal.mk negative c (e + k)).den =
      (Decimal.mk negative c (e + k)).num * (Decimal.mk negative (c * 10 ^ k) e).den := by
  simp only [num, den]
  have hexp : k + e.toNat + (-(e + k)).toNat = (e + k).toNat + (-e).toNat := by omega
  rw [Nat.mul_assoc c, ← Nat.pow_add, Nat.mul_assoc, ← Nat.pow_add, hexp, Nat.pow_add,
    ← Nat.mul_assoc]

end Decimal

/-! ### Bounds of the finite numbers -/

theorem unitsInOne_eq : unitsInOne = 2 ^ 1074 := by decide +kernel

theorem unitsInOne_pos : 0 < unitsInOne := by decide +kernel

/-- The magnitudes at the lower ends of the binades are the powers of two. -/
theorem unitsOfRank_two_pow (k : Nat) :
    unitsOfRank ((k + 1023) * binade) = 2 ^ k * unitsInOne := by
  have hunits := unitsOfRank_eq (s := k + 1022) (m := binade) (Or.inr (Nat.le_refl _)) (by decide)
  rw [show (k + 1023) * binade = (k + 1022) * binade + binade by ring, hunits, unitsInOne_eq,
    show binade = 2 ^ 52 from rfl, ← Nat.pow_add, ← Nat.pow_add,
    show 52 + (k + 1022) = k + 1074 by omega]

theorem nearestRank_two_pow (k : Nat) : nearestRank (2 ^ k * unitsInOne) 1 = (k + 1023) * binade := by
  rw [← unitsOfRank_two_pow]
  simpa using nearestRank_unitsOfRank ((k + 1023) * binade) Nat.one_pos

/-- From `2 ^ 1024` on, magnitudes round past the largest finite one. -/
theorem magnitudes_le_nearestRank {num den : Nat} (hden : 0 < den) (h : 2 ^ 1024 * den ≤ num) :
    magnitudes ≤ nearestRank (num * unitsInOne) den := by
  have hmono : nearestRank (2 ^ 1024 * unitsInOne) 1 ≤ nearestRank (num * unitsInOne) den := by
    refine nearestRank_mono Nat.one_pos hden ?_
    rw [Nat.mul_one, Nat.mul_right_comm]
    exact Nat.mul_le_mul_right unitsInOne h
  rwa [nearestRank_two_pow] at hmono

/-- Up to `2 ^ k` with `k` below 1024, magnitudes round to a finite one. -/
theorem nearestRank_lt_magnitudes {num den k : Nat} (hden : 0 < den) (hk : k < 1024)
    (h : num ≤ 2 ^ k * den) : nearestRank (num * unitsInOne) den < magnitudes := by
  have hmono : nearestRank (num * unitsInOne) den ≤ nearestRank (2 ^ k * unitsInOne) 1 := by
    refine nearestRank_mono hden Nat.one_pos ?_
    rw [Nat.mul_one, Nat.mul_right_comm]
    exact Nat.mul_le_mul_right unitsInOne h
  have hlt : (k + 1023) * binade < magnitudes :=
    Nat.mul_lt_mul_of_pos_right (by omega) (by decide)
  rw [nearestRank_two_pow] at hmono
  omega

/-- A ratio below one half rounds to zero. -/
theorem nearestRank_eq_zero {num den : Nat} (h : 2 * num < den) : nearestRank num den = 0 := by
  have hden : 0 < den := by omega
  have hin : InBinade num den 0 := by
    refine ⟨Or.inl rfl, ?_⟩
    have hle : 1 * den ≤ 2 * binade * 2 ^ 0 * den := Nat.mul_le_mul_right den (by decide)
    omega
  have hlt : num < den := by omega
  rw [nearestRank_eq hden hin]
  simp [roundHalfEven, Nat.div_eq_of_lt hlt, Nat.mod_eq_of_lt hlt, h]

/-! ### Reading -/

theorem FiniteDouble.ofRatio?_eq_some_iff_rank {negative : Bool} {num den : Nat}
    {x : FiniteDouble} : ofRatio? negative num den = some x ↔
      negative = x.negative ∧ nearestRank (num * unitsInOne) den = x.rank := by
  obtain ⟨xnegative, xrank, hx⟩ := x
  by_cases h : nearestRank (num * unitsInOne) den < magnitudes
  · simp [ofRatio?, h]
  · simp only [ofRatio?, h, dite_false, reduceCtorEq, false_iff]
    rintro ⟨-, rfl⟩
    exact h hx

namespace Double

theorem ofRatio_eq_finite_iff {negative : Bool} {num den : Nat} {x : FiniteDouble} :
    ofRatio negative num den = .finite x ↔
      negative = x.negative ∧ nearestRank (num * unitsInOne) den = x.rank := by
  rw [← FiniteDouble.ofRatio?_eq_some_iff_rank, ofRatio]
  cases FiniteDouble.ofRatio? negative num den <;> simp

theorem ofRatio_eq_infinite {negative : Bool} {num den : Nat}
    (h : magnitudes ≤ nearestRank (num * unitsInOne) den) :
    ofRatio negative num den = .infinite negative := by
  simp [ofRatio, FiniteDouble.ofRatio?, Nat.not_lt.mpr h]

theorem two_pow_le_ten_pow {j k : Nat} (h : j ≤ 3 * k) : 2 ^ j ≤ 10 ^ k := by
  refine Nat.le_trans (Nat.pow_le_pow_right (by decide) h) ?_
  rw [Nat.pow_mul]
  exact Nat.pow_le_pow_left (by decide) k

/-- Numerals that are not written out as a ratio are read as if they were. -/
theorem ofDecimal_eq_ofRatio (d : Decimal) : ofDecimal d = ofRatio d.negative d.num d.den := by
  unfold ofDecimal
  split
  · next hzero =>
    symm
    rw [ofRatio_eq_finite_iff]
    refine ⟨rfl, nearestRank_eq_zero ?_⟩
    simp [Decimal.num, hzero, d.den_pos]
  split
  · next hzero hbig =>
    symm
    refine ofRatio_eq_infinite (magnitudes_le_nearestRank d.den_pos ?_)
    have hden : d.den = 1 := by
      rw [Decimal.den, show (-d.exponent).toNat = 0 by omega]
      rfl
    calc 2 ^ 1024 * d.den = 2 ^ 1024 := by rw [hden, Nat.mul_one]
      _ ≤ 10 ^ d.exponent.toNat := two_pow_le_ten_pow (by omega)
      _ ≤ d.num := Nat.le_mul_of_pos_left _ (Nat.pos_of_ne_zero hzero)
  split
  · next hzero _ hsmall =>
    symm
    rw [ofRatio_eq_finite_iff]
    refine ⟨rfl, nearestRank_eq_zero ?_⟩
    have hnum : d.num = d.coefficient := by
      rw [Decimal.num, show d.exponent.toNat = 0 by omega]
      simp
    have hlog : d.coefficient < 2 ^ (d.coefficient.log2 + 1) := Nat.lt_log2_self
    calc 2 * (d.num * unitsInOne) < 2 * (2 ^ (d.coefficient.log2 + 1) * unitsInOne) := by
          rw [hnum]
          exact Nat.mul_lt_mul_of_pos_left
            (Nat.mul_lt_mul_of_pos_right hlog unitsInOne_pos) (by decide)
      _ = 2 ^ (d.coefficient.log2 + 1076) := by
          rw [unitsInOne_eq, ← Nat.pow_add, ← Nat.pow_succ']
      _ ≤ 10 ^ (d.coefficient.log2 + 1 + 400) := two_pow_le_ten_pow (by omega)
      _ ≤ d.den := Nat.pow_le_pow_right (by decide) (by omega)
  split
  · next hpos =>
    rw [Decimal.num, Decimal.den, show (-d.exponent).toNat = 0 by omega]
    rfl
  · next hneg =>
    rw [Decimal.num, Decimal.den, show d.exponent.toNat = 0 by omega]
    simp

theorem ofDecimal_eq_finite_iff {d : Decimal} {x : FiniteDouble} :
    ofDecimal d = .finite x ↔
      d.negative = x.negative ∧ nearestRank (d.num * unitsInOne) d.den = x.rank := by
  rw [ofDecimal_eq_ofRatio, ofRatio_eq_finite_iff]

/-- A numeral is read by its sign and value. -/
theorem ofDecimal_congr {d d' : Decimal} (hsign : d.negative = d'.negative)
    (hvalue : d.num * d'.den = d'.num * d.den) : ofDecimal d = ofDecimal d' := by
  have hrank : nearestRank (d.num * unitsInOne) d.den = nearestRank (d'.num * unitsInOne) d'.den := by
    refine nearestRank_congr d.den_pos d'.den_pos ?_
    rw [Nat.mul_right_comm, hvalue, Nat.mul_right_comm]
  simp only [ofDecimal_eq_ofRatio, ofRatio, FiniteDouble.ofRatio?, hsign, hrank]

theorem ofDecimal_shift (negative : Bool) (c k : Nat) (e : Int) :
    ofDecimal ⟨negative, c * 10 ^ k, e⟩ = ofDecimal ⟨negative, c, e + k⟩ :=
  ofDecimal_congr rfl (Decimal.num_mul_den_shift negative c k e)

end Double

/-! ### The shortest numeral -/

namespace FiniteDouble

/-- What is read back for the magnitude is read back with either sign. -/
theorem ofDecimal_of_readsBack {x : FiniteDouble} {c : Nat} {e : Int}
    (h : x.readsBack c e = true) : Double.ofDecimal ⟨x.negative, c, e⟩ = .finite x := by
  have hmagnitude := Double.ofDecimal_eq_finite_iff.mp (of_decide_eq_true h)
  exact Double.ofDecimal_eq_finite_iff.mpr ⟨rfl, hmagnitude.2⟩

theorem readsBack_neighbour? {tie : Tie} {x : FiniteDouble} {e : Int} {c : Nat}
    (h : neighbour? tie x e = some c) : x.readsBack c e = true := by
  simp only [neighbour?] at h
  split at h
  · next hlow hhigh =>
    split at h
    · obtain rfl := Option.some.inj h
      exact hlow
    split at h
    · obtain rfl := Option.some.inj h
      exact hhigh
    cases tie with
    | up =>
      obtain rfl := Option.some.inj h
      exact hhigh
    | even =>
      obtain rfl := Option.some.inj h
      split
      · exact hlow
      · exact hhigh
  · next hlow _ =>
    obtain rfl := Option.some.inj h
    exact hlow
  · next _ hhigh =>
    obtain rfl := Option.some.inj h
    exact hhigh
  · cases h

/-- The unit `2 ^ -k` is `5 ^ k * 10 ^ -k`. -/
theorem num_mul_unitsInOne (units : Nat) {k : Nat} (h : unitsInOne = 2 ^ k) :
    (Decimal.mk false (units * Nat.pow 5 k) (-(k : Int))).num * unitsInOne =
      units * (Decimal.mk false (units * Nat.pow 5 k) (-(k : Int))).den := by
  rw [h]
  simp only [Decimal.num, Decimal.den, Nat.pow_eq, Int.neg_neg, Int.toNat_natCast,
    Int.toNat_neg_natCast, Nat.pow_zero, Nat.mul_one]
  rw [Nat.mul_assoc, ← Nat.mul_pow]

theorem exact_eq (x : FiniteDouble) {k : Nat} (hk : 1074 = k) :
    x.exact = (x.units * Nat.pow 5 k, -(k : Int)) := by
  rw [exact, hk, ← hk]
  rfl

theorem readsBack_exact (x : FiniteDouble) : x.readsBack x.exact.1 x.exact.2 = true := by
  -- The exponent is a variable from here on, so that its powers are not computed.
  obtain ⟨k, hk⟩ : ∃ k, 1074 = k := ⟨_, rfl⟩
  have hunit : unitsInOne = 2 ^ k := hk ▸ unitsInOne_eq
  rw [x.exact_eq hk]
  refine decide_eq_true (Double.ofDecimal_eq_finite_iff.mpr ⟨rfl, ?_⟩)
  rw [num_mul_unitsInOne x.units hunit]
  exact nearestRank_unitsOfRank x.rank (Decimal.den_pos _)

/-- The numeral that is chosen for a number is read back. -/
theorem readsBack_shortest (tie : Tie) (x : FiniteDouble) :
    x.readsBack (x.shortest tie).1 (x.shortest tie).2 = true := by
  rw [shortest]
  cases hfound : (List.range 17).findSome? fun n =>
      (neighbour? tie x (x.pointPlace - (n + 1 : Nat))).map (·, x.pointPlace - (n + 1 : Nat)) with
  | none =>
    simpa [hfound] using x.readsBack_exact
  | some found =>
    obtain ⟨n, -, hn⟩ := List.exists_of_findSome?_eq_some hfound
    obtain ⟨c, hc, rfl⟩ := Option.map_eq_some_iff.mp hn
    simpa [hfound] using readsBack_neighbour? hc

end FiniteDouble

end DiscountPolicy
