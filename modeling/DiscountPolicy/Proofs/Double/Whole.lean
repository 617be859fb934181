import DiscountPolicy.Predicate.Basic
import DiscountPolicy.Proofs.Double.Nearest

/-! Numbers without a fraction, and the integers that they become as operands. Numbers become equal
operands exactly if they are equal, so minus zero becomes the same operand as zero, and nothing else
falls together. -/

namespace DiscountPolicy

namespace FiniteDouble

variable {x y : FiniteDouble}

/-! ### The order of values -/

theorem units_eq_iff : x.units = y.units ↔ x.rank = y.rank := by
  have hlt := @unitsOfRank_lt_iff x.rank y.rank
  have hgt := @unitsOfRank_lt_iff y.rank x.rank
  rw [units, units]
  omega

theorem units_eq_zero_iff : x.units = 0 ↔ x.rank = 0 :=
  units_eq_iff (y := zero false)

theorem natAbs_signedUnits (x : FiniteDouble) : x.signedUnits.natAbs = x.units := by
  rw [signedUnits]
  split <;> simp

/-- Places are in the order of the values. -/
theorem signedUnits_le_iff : x.signedUnits ≤ y.signedUnits ↔ x.place ≤ y.place := by
  have hlt : x.units < y.units ↔ x.rank < y.rank := unitsOfRank_lt_iff
  have hgt : y.units < x.units ↔ y.rank < x.rank := unitsOfRank_lt_iff
  have hx := units_eq_zero_iff (x := x)
  have hy := units_eq_zero_iff (x := y)
  simp only [signedUnits, place]
  cases x.negative <;> cases y.negative <;> simp only [if_true, if_false, Bool.false_eq_true] <;>
    omega

theorem signedUnits_eq_iff : x.signedUnits = y.signedUnits ↔ x.place = y.place := by
  have hle := signedUnits_le_iff (x := x) (y := y)
  have hge := signedUnits_le_iff (x := y) (y := x)
  omega

/-! ### Integers -/

/-- A number without a fraction is a whole number of ones. -/
theorem whole?_eq_some_iff {n : Int} : x.whole? = some n ↔ x.signedUnits = n * unitsInOne := by
  have hne : (unitsInOne : Int) ≠ 0 := Int.natCast_ne_zero.mpr (Nat.ne_of_gt unitsInOne_pos)
  rw [whole?]
  split
  · next hwhole =>
    obtain ⟨q, hq⟩ := Nat.dvd_of_mod_eq_zero hwhole
    rw [signedUnits, hq, Nat.mul_div_cancel_left q unitsInOne_pos, Nat.mul_comm, Int.natCast_mul,
      Option.some.injEq]
    cases x.negative with
    | false => exact (Int.mul_eq_mul_right_iff hne).symm
    | true =>
      rw [if_pos rfl, if_pos rfl, ← Int.neg_mul]
      exact (Int.mul_eq_mul_right_iff hne).symm
  · next hfraction =>
    simp only [reduceCtorEq, false_iff]
    intro h
    apply hfraction
    rw [← natAbs_signedUnits, h, Int.natAbs_mul, Int.natAbs_natCast, Nat.mul_mod_left]

theorem toInt64?_eq_some_iff {m : Int64} : x.toInt64? = some m ↔
    x.signedUnits = m.toInt * unitsInOne ∧ m.toInt.natAbs < 0x8000000000000000 := by
  rw [toInt64?, ← whole?_eq_some_iff, Option.map_eq_some_iff]
  constructor
  · rintro ⟨n, hn, rfl⟩
    obtain ⟨hwhole, hlt⟩ := Option.filter_eq_some_iff.mp hn
    have hlt : n.natAbs < 0x8000000000000000 := by simpa using hlt
    rw [Int64.toInt_ofInt_of_le (by omega) (by omega)]
    exact ⟨hwhole, hlt⟩
  · rintro ⟨hwhole, hlt⟩
    exact ⟨m.toInt, Option.filter_eq_some_iff.mpr ⟨hwhole, by simpa using hlt⟩, Int64.ofInt_toInt m⟩

theorem toInt64?_eq_of_place_eq (h : x.place = y.place) : x.toInt64? = y.toInt64? := by
  refine Option.ext fun m => ?_
  rw [toInt64?_eq_some_iff, toInt64?_eq_some_iff, signedUnits_eq_iff.mpr h]

theorem place_eq_of_toInt64?_eq {m : Int64} (hx : x.toInt64? = some m)
    (hy : y.toInt64? = some m) : x.place = y.place := by
  rw [← signedUnits_eq_iff, (toInt64?_eq_some_iff.mp hx).1, (toInt64?_eq_some_iff.mp hy).1]

end FiniteDouble

theorem Double.equal_finite_iff {d : Double} {x : FiniteDouble} :
    d.equal (.finite x) = true ↔ ∃ y, d = .finite y ∧ y.place = x.place := by
  cases d <;> simp [equal]

theorem Double.equal_comm (x y : Double) : x.equal y = y.equal x := by
  cases x <;> cases y <;> simp [equal, Bool.beq_comm]

namespace Scalar

/-! ### Operands for numbers -/

theorem number_spec (x : Double) :
    (∃ v n, x = .finite v ∧ v.toInt64? = some n ∧ number x = .integer n) ∨
    ((∀ v, x = .finite v → v.toInt64? = none) ∧ number x = .real x) := by
  cases x with
  | finite v =>
    rw [number]
    cases hv : v.toInt64? with
    | none => exact .inr ⟨fun w hw => by rw [← Double.finite.inj hw, hv], rfl⟩
    | some n => exact .inl ⟨v, n, rfl, hv, rfl⟩
  | infinite negative => exact .inr ⟨fun v hv => (nomatch hv), rfl⟩
  | nan => exact .inr ⟨fun v hv => (nomatch hv), rfl⟩

/-- A number with an integer is equal to none without. -/
theorem equal_eq_false_of_toInt64? {v : FiniteDouble} {n : Int64} {y : Double}
    (hv : v.toInt64? = some n) (hy : ∀ w, y = .finite w → w.toInt64? = none) :
    y.equal (.finite v) = false := by
  rw [Bool.eq_false_iff]
  intro heq
  obtain ⟨w, rfl, hplace⟩ := Double.equal_finite_iff.mp heq
  have hnone := hy w rfl
  rw [FiniteDouble.toInt64?_eq_of_place_eq hplace, hv] at hnone
  cases hnone

theorem equal_number (x y : Double) : (number x).equal (number y) = x.equal y := by
  rcases number_spec x with ⟨v, m, rfl, hm, hx⟩ | ⟨hnone, hx⟩
  · rcases number_spec y with ⟨w, n, rfl, hn, hy⟩ | ⟨hnone, hy⟩
    · rw [hx, hy, equal, Double.equal]
      by_cases hplace : v.place = w.place
      · rw [FiniteDouble.toInt64?_eq_of_place_eq hplace, hn] at hm
        simp [Option.some.inj hm, hplace]
      · have hne : m ≠ n := by
          rintro rfl
          exact hplace (FiniteDouble.place_eq_of_toInt64?_eq hm hn)
        simp [hne, hplace]
    · rw [hx, hy, Double.equal_comm, equal_eq_false_of_toInt64? hm hnone]
      rfl
  · rcases number_spec y with ⟨w, n, rfl, hn, hy⟩ | ⟨-, hy⟩
    · rw [hx, hy, equal_eq_false_of_toInt64? hn hnone]
      rfl
    · rw [hx, hy]
      rfl

end Scalar

/-- The same operand as for a finite number is the operand for an equal number only. -/
theorem Scalar.place_eq_of_number_eq {d : Double} {x : FiniteDouble}
    (h : number d = number (.finite x)) : ∃ y, d = .finite y ∧ y.place = x.place := by
  rw [← Double.equal_finite_iff, ← equal_number, h, equal_number]
  simp [Double.equal]

end DiscountPolicy
