import DiscountPolicy.Proofs.Double.Reading

/-! The nearest finite number to a whole number: no other finite number, of either sign, is nearer. -/

namespace DiscountPolicy

namespace FiniteDouble

/-- The value in units of `2 ^ -1074`. -/
def signedUnits (x : FiniteDouble) : Int := if x.negative then -(x.units : Int) else x.units

/-- No finite number is nearer to `n`. -/
def IsNearest (x : FiniteDouble) (n : Nat) : Prop :=
  ∀ y : FiniteDouble, (x.signedUnits - (n * unitsInOne : Nat)).natAbs ≤
    (y.signedUnits - (n * unitsInOne : Nat)).natAbs

end FiniteDouble

/-- Whole numbers that lie far below the largest magnitude are rounded to a nearest number. -/
theorem Double.exists_nearest {n k : Nat} (hk : k < 1024) (h : n ≤ 2 ^ k) :
    ∃ x, Double.ofRatio false n 1 = .finite x ∧ x.IsNearest n := by
  have hlt : nearestRank (n * unitsInOne) 1 < magnitudes :=
    nearestRank_lt_magnitudes Nat.one_pos hk (by rwa [Nat.mul_one])
  refine ⟨⟨false, nearestRank (n * unitsInOne) 1, hlt⟩, ofRatio_eq_finite_iff.mpr ⟨rfl, rfl⟩, ?_⟩
  intro y
  have hnearest := nearestRank_nearest (n * unitsInOne) y.rank Nat.one_pos
  rw [Nat.mul_one, Nat.mul_one] at hnearest
  simp only [FiniteDouble.signedUnits, FiniteDouble.units, Bool.false_eq_true, if_false]
  -- From here on only three distances on a line matter, not how large a unit is.
  generalize n * unitsInOne = target at hnearest ⊢
  generalize unitsOfRank (nearestRank target 1) = near at hnearest ⊢
  generalize unitsOfRank y.rank = far at hnearest ⊢
  unfold Nat.dist at hnearest
  split <;> omega

end DiscountPolicy
