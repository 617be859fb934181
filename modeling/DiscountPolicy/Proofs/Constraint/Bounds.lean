import DiscountPolicy.Proofs.Constraint.Table
import DiscountPolicy.Proofs.Double.Value

/-! The bounds of constraints keep their values. A number becomes an operand of exactly its value,
and data and expressions hold the operand as it is, so the bounds are in order there as well. -/

namespace DiscountPolicy

/-! ### Values of operands and of data -/

namespace Scalar

/-- The value of a scalar that is a finite number. -/
def value? : Scalar → Option ℚ
  | .integer n => some n.toInt
  | .real x => x.value?
  | .text _ => none

variable {v : Double}

theorem number_eq_integer_iff {i : Int64} :
    number v = .integer i ↔ v.value? = some (i.toInt : ℚ) ∧ |(i.toInt : ℚ)| < 2 ^ 63 := by
  rcases number_spec v with ⟨x, n, rfl, hn, hnumber⟩ | ⟨hnone, hnumber⟩
  · obtain ⟨hvalue, hlt⟩ := FiniteDouble.toInt64?_eq_some_iff_value.mp hn
    rw [hnumber, integer.injEq, Double.value?, hvalue, Option.some.injEq, Int.cast_inj,
      Int64.toInt_inj]
    constructor
    · rintro rfl
      exact ⟨rfl, hvalue ▸ hlt⟩
    · rintro ⟨h, -⟩
      exact h
  · rw [hnumber]
    rw [iff_false_left (by simp)]
    rintro ⟨hvalue, hlt⟩
    obtain ⟨x, rfl, hx⟩ := Double.value?_eq_some_iff.mp hvalue
    have hsome := FiniteDouble.toInt64?_eq_some_iff_value.mpr ⟨hx, hx ▸ hlt⟩
    rw [hnone x rfl] at hsome
    cases hsome

/-- Every whole number below `2 ^ 63` in magnitude has an integer to become. -/
theorem exists_number_eq_integer_iff :
    (∃ i, number v = .integer i) ↔ ∃ n : Int, v.value? = some (n : ℚ) ∧ |(n : ℚ)| < 2 ^ 63 := by
  constructor
  · rintro ⟨i, h⟩
    exact ⟨i.toInt, number_eq_integer_iff.mp h⟩
  · rintro ⟨n, hvalue, hlt⟩
    have hbound : |n| < 2 ^ 63 := by exact_mod_cast hlt
    obtain ⟨hlow, hhigh⟩ := abs_lt.mp hbound
    have hi : (Int64.ofInt n).toInt = n := Int64.toInt_ofInt_of_le (by omega) (by omega)
    refine ⟨Int64.ofInt n, number_eq_integer_iff.mpr ?_⟩
    rw [hi]
    exact ⟨hvalue, hlt⟩

theorem number_eq_real (h : ∀ i, number v ≠ .integer i) : number v = .real v := by
  rcases number_spec v with ⟨-, n, -, -, hnumber⟩ | ⟨-, hnumber⟩
  · exact absurd hnumber (h n)
  · exact hnumber

theorem value?_number (v : Double) : (number v).value? = v.value? := by
  by_cases h : ∃ i, number v = .integer i
  · obtain ⟨i, hi⟩ := h
    rw [hi, (number_eq_integer_iff.mp hi).1]
    rfl
  · rw [number_eq_real (not_exists.mp h)]
    rfl

end Scalar

def Operand.value? : Operand → Option ℚ
  | .scalar s => s.value?
  | .location _ => none

/-- The value of data that is a number. -/
def Json.value? : Json → Option ℚ
  | .number (.whole n _) => some n
  | .number (.real x) => some x.value
  | _ => none

theorem Scalar.value?_toJson (s : Scalar) : s.toJson.value? = s.value? := by
  cases s with
  | integer n => rfl
  | real x => cases x <;> rfl
  | text w => rfl

theorem Operand.value?_encode {location : Location → Json} {x : Operand} {q : ℚ}
    (h : x.value? = some q) : (x.encode location).value? = some q := by
  cases x with
  | scalar s => exact s.value?_toJson.trans h
  | location l => cases h

/-! ### Bounds of leaves -/

/-- The first two operands of a leaf are numbers of these values. -/
def Predicate.HasBounds (low high : ℚ) : Predicate → Prop
  | .leaf _ (x :: y :: _) => x.value? = some low ∧ y.value? = some high
  | _ => False

/-- The two items after the first one are numbers of these values. -/
def Json.HasBounds (low high : ℚ) : Json → Prop
  | .array (_ :: v :: w :: _) => v.value? = some low ∧ w.value? = some high
  | _ => False

theorem Predicate.HasBounds.encode {low high : ℚ} {t : Predicate} (h : t.HasBounds low high)
    (location : Location → Json) : (t.encode location).HasBounds low high := by
  match t, h with
  | .leaf tag (x :: y :: rest), ⟨hx, hy⟩ => exact ⟨Operand.value?_encode hx, Operand.value?_encode hy⟩

namespace Constraint

/-- The bounds of a constraint that has some. -/
def bounds? : Constraint → Option (Double × Double)
  | .basket _ min max _ | .product _ min max _ _ | .category _ min max _ => some (min, max)
  | _ => none

variable {c : Constraint} {min max : Double}

theorem validate_of_bounds? (h : c.bounds? = some (min, max)) (hvalid : c.validate = .ok ()) :
    checkBounds min max = .ok () ∧ c.tag ≠ .location ∧
      ∃ rest, c.operands = .scalar (.number min) :: .scalar (.number max) :: rest := by
  cases c with
  | basket measure min max storeId =>
    cases h
    obtain ⟨⟨⟩, hbounds, -⟩ := bind_eq_ok_iff.mp hvalid
    exact ⟨hbounds, nofun, _, rfl⟩
  | product measure min max productId storeId =>
    cases h
    obtain ⟨⟨⟩, hbounds, -⟩ := bind_eq_ok_iff.mp hvalid
    exact ⟨hbounds, nofun, _, rfl⟩
  | category measure min max categoryId =>
    cases h
    obtain ⟨⟨⟩, hbounds, -⟩ := bind_eq_ok_iff.mp hvalid
    exact ⟨hbounds, nofun, _, rfl⟩
  | _ => cases h

theorem value_of_checkBounds (h : checkBounds min max = .ok ()) :
    ∃ low high, min.value? = some low ∧ max.value? = some high ∧ 0 ≤ low ∧ low ≤ high := by
  obtain ⟨x, y, rfl, rfl⟩ := finite_of_checkBounds h
  obtain ⟨hx, hy⟩ := checkBounds_finite_iff.mp h
  exact ⟨x.value, y.value, rfl, rfl, FiniteDouble.value_nonneg_iff.mpr hx,
    FiniteDouble.value_le_iff.mpr hy⟩

/-- The leaf of a constraint with bounds comes back from data and from an expression, and its first
two operands have the values of the bounds. -/
theorem leaf_of_bounds? (h : c.bounds? = some (min, max)) (hvalid : c.validate = .ok ()) :
    ∃ low high t, min.value? = some low ∧ max.value? = some high ∧ 0 ≤ low ∧ low ≤ high ∧
      c.toPredicate = .ok t ∧ t.HasBounds low high ∧ t.toJson.HasBounds low high ∧
      Predicate.ofJson t.toJson = .ok t ∧ Expression.parse t.render = .ok (some t) := by
  obtain ⟨hcheck, htag, rest, hoperands⟩ := validate_of_bounds? h hvalid
  obtain ⟨low, high, hlow, hhigh, hnonneg, hle⟩ := value_of_checkBounds hcheck
  have hleaf : (Predicate.leaf c.tag c.operands).HasBounds low high := by
    rw [hoperands]
    exact ⟨(Scalar.value?_number min).trans hlow, (Scalar.value?_number max).trans hhigh⟩
  have hpredicate := toPredicate_eq_ok_iff.mpr ⟨hvalid, rfl⟩
  have hmade : Predicate.OfConstraints (.leaf c.tag c.operands) := .leaf hpredicate
  have hplace : ∀ e ∈ (Predicate.leaf c.tag c.operands).operands, e.1 ≠ .location :=
    Predicate.forall_operands_leaf.mpr fun _ _ => htag
  refine ⟨low, high, .leaf c.tag c.operands, hlow, hhigh, hnonneg, hle, hpredicate, hleaf,
    hleaf.encode _, Predicate.ofJson_toJson_iff.mpr ⟨rfl, hmade.keptUnder⟩,
    Expression.parse_render ⟨?_, fun e he => hmade.expressible e he (hplace e he)⟩⟩
  show 1 ≤ Expression.maxNesting + 1
  omega

/-- The bounds of constraints keep their values. A number becomes the integer that is its value if
it is whole and below `2 ^ 63` in magnitude, and otherwise stays as it is, so numbers become equal
operands exactly if they are equal. The leaf of a constraint with bounds has operands of exactly
their values, in data and in what data and the expression are read as, and these are in order. -/
theorem bounds_keep_values :
    (∀ v i, Scalar.number v = .integer i ↔
      v.value? = some (i.toInt : ℚ) ∧ |(i.toInt : ℚ)| < 2 ^ 63) ∧
    (∀ v, (∃ i, Scalar.number v = .integer i) ↔
      ∃ n : Int, v.value? = some (n : ℚ) ∧ |(n : ℚ)| < 2 ^ 63) ∧
    (∀ v, (∀ i, Scalar.number v ≠ .integer i) → Scalar.number v = .real v) ∧
    (∀ u v, (Scalar.number u).equal (.number v) = u.equal v) ∧
    (∀ x y : FiniteDouble, (Double.finite x).equal (.finite y) = true ↔ x.value = y.value) ∧
    ∀ (c : Constraint) min max, c.bounds? = some (min, max) → c.validate = .ok () →
      ∃ low high t, min.value? = some low ∧ max.value? = some high ∧ 0 ≤ low ∧ low ≤ high ∧
        c.toPredicate = .ok t ∧ t.HasBounds low high ∧ t.toJson.HasBounds low high ∧
        Predicate.ofJson t.toJson = .ok t ∧ Expression.parse t.render = .ok (some t) :=
  ⟨fun _ _ => Scalar.number_eq_integer_iff, fun _ => Scalar.exists_number_eq_integer_iff,
    fun _ => Scalar.number_eq_real, Scalar.equal_number,
    fun _ _ => Double.equal_finite_iff_value, fun _ _ _ => leaf_of_bounds?⟩

/-- Minus zero becomes zero, and `2 ^ 63` stays a floating-point number. -/
theorem bounds_keep_values_product :
    let zero : FiniteDouble := .zero true
    let large : FiniteDouble := { negative := false, rank := 0x43E0000000000000 }
    let c : Constraint :=
      .product .price (.finite zero) (.finite large) (.text "sku-42") (.integer 9)
    c.bounds? = some (.finite zero, .finite large) ∧ c.validate = .ok () ∧
      c.operands.take 2 = [.scalar (.integer 0), .scalar (.real (.finite large))] ∧
      ∃ low high t, zero.value = low ∧ large.value = high ∧ 0 ≤ low ∧ low ≤ high ∧
        c.toPredicate = .ok t ∧ t.HasBounds low high ∧ t.toJson.HasBounds low high ∧
        Predicate.ofJson t.toJson = .ok t ∧ Expression.parse t.render = .ok (some t) := by
  intro zero large c
  have hbounds : c.bounds? = some (.finite zero, .finite large) := rfl
  have hvalid : c.validate = .ok () := by decide +kernel
  obtain ⟨low, high, t, hlow, hhigh, hrest⟩ :=
    bounds_keep_values.2.2.2.2.2 c (.finite zero) (.finite large) hbounds hvalid
  exact ⟨hbounds, hvalid, by decide +kernel, low, high, t, Option.some.inj hlow,
    Option.some.inj hhigh, hrest⟩

end Constraint

end DiscountPolicy
