import Mathlib.Algebra.Group.Nat.Defs
import DiscountPolicy.Decimal
import DiscountPolicy.Proofs.Prefix

/-! Reading back numerals: the numbers that runs of digits spell, and what a text is read as that is
put together from a sign, digits, a point and an exponent. -/

namespace DiscountPolicy.Decimal

/-! ### Digits -/

/-- The characters are digits. -/
def IsDigits (cs : List Char) : Prop := ∀ c ∈ cs, c.isDigit = true

theorem isDigits_toDigits (n : Nat) : IsDigits (Nat.toDigits 10 n) :=
  fun _ hc => Nat.isDigit_of_mem_toDigits (by decide) (by decide) hc

theorem IsDigits.append {a b : List Char} (ha : IsDigits a) (hb : IsDigits b) :
    IsDigits (a ++ b) := by
  intro c hc
  rcases List.mem_append.mp hc with hc | hc
  · exact ha c hc
  · exact hb c hc

theorem isDigits_zeros (k : Nat) : IsDigits (List.replicate k '0') := by
  intro c hc
  rw [List.eq_of_mem_replicate hc]
  rfl

theorem natOfDigits_append (a b : List Char) :
    natOfDigits (a ++ b) = natOfDigits a * 10 ^ b.length + natOfDigits b := by
  simp only [natOfDigits]
  rw [Nat.ofDigitChars_append, Nat.ofDigitChars_eq_ofDigitChars_zero, Nat.mul_comm]

theorem natOfDigits_concat (front : List Char) (d : Char) :
    natOfDigits (front ++ [d]) = natOfDigits front * 10 + (d.toNat - '0'.toNat) := by
  rw [natOfDigits_append]
  simp [natOfDigits, Nat.ofDigitChars]

theorem natOfDigits_le_append (front digits : List Char) :
    natOfDigits front ≤ natOfDigits (front ++ digits) := by
  rw [natOfDigits_append]
  have hpos : 0 < 10 ^ digits.length := Nat.pow_pos (by decide)
  exact Nat.le_add_right_of_le (Nat.le_mul_of_pos_right _ hpos)

/-- Zeros behind digits multiply by powers of ten. -/
theorem natOfDigits_append_zeros (ds : List Char) (k : Nat) :
    natOfDigits (ds ++ List.replicate k '0') = natOfDigits ds * 10 ^ k := by
  rw [natOfDigits_append, List.length_replicate]
  simp [natOfDigits, Nat.ofDigitChars_replicate_zero]

/-- Zeros in front of digits count for nothing. -/
theorem natOfDigits_zeros_append (k : Nat) (ds : List Char) :
    natOfDigits (List.replicate k '0' ++ ds) = natOfDigits ds := by
  rw [natOfDigits_append]
  simp [natOfDigits, Nat.ofDigitChars_replicate_zero]

theorem nat?_of_isDigits {ds : List Char} (hne : ds ≠ []) (h : IsDigits ds) :
    nat? ds = some (natOfDigits ds) := by
  rw [nat?, if_pos ⟨hne, List.all_eq_true.mpr h⟩]

/-! ### Signs -/

/-- The sign of a written number. -/
def signChars (negative : Bool) : List Char := if negative then ['-'] else []

theorem splitSign_signChars (negative : Bool) {c : Char} (cs : List Char)
    (h : c ≠ '+' ∧ c ≠ '-') : splitSign (signChars negative ++ c :: cs) = (negative, c :: cs) := by
  cases negative with
  | true => rfl
  | false =>
    simp only [signChars, List.nil_append, Bool.false_eq_true, if_false]
    unfold splitSign
    split
    · next heq => exact absurd (List.cons.inj heq).1 h.1
    · next heq => exact absurd (List.cons.inj heq).1 h.2
    · rfl

theorem ne_sign_of_isDigit {c : Char} (h : c.isDigit = true) : c ≠ '+' ∧ c ≠ '-' := by
  constructor <;> (rintro rfl; revert h; decide)

/-- A number written after its sign is read back. -/
theorem int?_signChars (negative : Bool) {ds : List Char} (hne : ds ≠ []) (h : IsDigits ds) :
    int? (signChars negative ++ ds) =
      some (if negative then -(natOfDigits ds : Int) else natOfDigits ds) := by
  obtain ⟨d, ds, rfl⟩ := List.exists_cons_of_ne_nil hne
  have hd := ne_sign_of_isDigit (h d (by simp))
  simp only [int?, splitSign_signChars negative ds hd, nat?_of_isDigits hne h]
  rfl

theorem intChars_eq (n : Int) :
    intChars n = signChars (decide (n < 0)) ++ Nat.toDigits 10 n.natAbs := by
  by_cases h : n < 0 <;> simp [intChars, signChars, h]

theorem intChars_ne_nil (n : Int) : intChars n ≠ [] := by
  rw [intChars_eq]
  simp [Nat.toDigits_ne_nil]

@[simp] theorem int?_intChars (n : Int) : int? (intChars n) = some n := by
  rw [intChars_eq, int?_signChars _ Nat.toDigits_ne_nil (isDigits_toDigits _),
    natOfDigits_toDigits]
  by_cases h : n < 0
  · simp only [h, decide_true, if_true, Option.some.injEq]
    omega
  · simp only [h, decide_false, Bool.false_eq_true, if_false, Option.some.injEq]
    omega

theorem mem_splitSign {cs : List Char} {c : Char} (hc : c ∈ cs) (hplus : c ≠ '+')
    (hminus : c ≠ '-') : c ∈ (splitSign cs).2 := by
  unfold splitSign
  split
  · exact (List.mem_cons.mp hc).resolve_left hplus
  · exact (List.mem_cons.mp hc).resolve_left hminus
  · exact hc

/-- Whole numbers are spelled by signs and digits alone. -/
theorem int?_eq_none {cs : List Char} {c : Char} (hc : c ∈ cs)
    (h : c.isDigit = false ∧ c ≠ '+' ∧ c ≠ '-') : int? cs = none := by
  have hmem := mem_splitSign hc h.2.1 h.2.2
  have hnat : nat? (splitSign cs).2 = none := by
    rw [nat?, if_neg]
    rintro ⟨-, hall⟩
    have hdigit := List.all_eq_true.mp hall c hmem
    rw [h.1] at hdigit
    cases hdigit
  simp [int?, hnat]

/-- A numeral begins with a sign, a digit or a point. -/
theorem ofChars?_eq_none {c : Char} (cs : List Char) (hdigit : c.isDigit = false)
    (h : c ≠ '+' ∧ c ≠ '-' ∧ c ≠ '.') : ofChars? (c :: cs) = none := by
  obtain ⟨hplus, hminus, hpoint⟩ := h
  simp [ofChars?, splitSign, splitFraction, hdigit, hplus, hminus, hpoint]

/-! ### The characters of numbers -/

/-- The characters are digits, signs, points and marks of exponents. -/
def IsNumeric (cs : List Char) : Prop := ∀ c ∈ cs, c.isDigit = true ∨ c ∈ ['+', '-', '.', 'e']

instance (cs : List Char) : Decidable (IsNumeric cs) := List.decidableBAll _ cs

theorem IsNumeric.append {a b : List Char} (ha : IsNumeric a) (hb : IsNumeric b) :
    IsNumeric (a ++ b) := by
  intro c hc
  rcases List.mem_append.mp hc with hc | hc
  · exact ha c hc
  · exact hb c hc

theorem IsDigits.isNumeric {cs : List Char} (h : IsDigits cs) : IsNumeric cs :=
  fun c hc => .inl (h c hc)

theorem isNumeric_intChars (n : Int) : IsNumeric (intChars n) := by
  have hsign : IsNumeric (signChars (decide (n < 0))) := by
    cases decide (n < 0) <;> decide
  rw [intChars_eq]
  exact hsign.append (isDigits_toDigits _).isNumeric

/-! ### Fractions and exponents -/

theorem int?_plus {ds : List Char} (hne : ds ≠ []) (h : IsDigits ds) :
    int? ('+' :: ds) = some (natOfDigits ds : Int) := by
  simp only [int?, splitSign, nat?_of_isDigits hne h]
  rfl

theorem exponent?_mark {plus : Bool} {n : Int} (h : plus = true → 0 ≤ n) :
    exponent? ('e' :: ((if plus then ['+'] else []) ++ intChars n)) = some n := by
  rw [exponent?, if_pos (Or.inl rfl)]
  cases plus with
  | false => exact int?_intChars n
  | true =>
    have hn := h rfl
    rw [intChars_eq, decide_eq_false (by omega), if_pos rfl, signChars]
    simp only [Bool.false_eq_true, if_false, List.nil_append, List.cons_append]
    rw [int?_plus Nat.toDigits_ne_nil (isDigits_toDigits _), natOfDigits_toDigits,
      Int.natAbs_of_nonneg hn]

/-- What digits with a point among them are read as, in front of an exponent. -/
theorem ofChars?_point (negative : Bool) {whole fraction tail : List Char} (hne : whole ≠ [])
    (hwhole : IsDigits whole) (hfraction : IsDigits fraction) (htail : Stops Char.isDigit tail) :
    ofChars? (signChars negative ++ (whole ++ '.' :: (fraction ++ tail))) =
      (exponent? tail).map fun e =>
        ⟨negative, natOfDigits (whole ++ fraction), e - fraction.length⟩ := by
  have hpoint : Stops Char.isDigit ('.' :: (fraction ++ tail)) := Stops.cons _ (by decide)
  obtain ⟨d, ds, rfl⟩ := List.exists_cons_of_ne_nil hne
  have hd := ne_sign_of_isDigit (hwhole d (by simp))
  rw [ofChars?, List.cons_append, splitSign_signChars negative _ hd, ← List.cons_append]
  simp only [takeWhile_append_stops hwhole hpoint, dropWhile_append_stops hwhole hpoint,
    splitFraction, takeWhile_append_stops hfraction htail, dropWhile_append_stops hfraction htail]
  rw [if_neg (by simp)]

/-- What digits without a point are read as, in front of an exponent. -/
theorem ofChars?_whole (negative : Bool) {whole tail : List Char} (hne : whole ≠ [])
    (hwhole : IsDigits whole) (htail : Stops Char.isDigit tail) (hpoint : Stops (· == '.') tail) :
    ofChars? (signChars negative ++ (whole ++ tail)) =
      (exponent? tail).map fun e => ⟨negative, natOfDigits whole, e⟩ := by
  have hsplit : splitFraction tail = ([], tail) := by
    unfold splitFraction
    split
    · next cs => exact absurd (hpoint '.' rfl) (by decide)
    · rfl
  obtain ⟨d, ds, rfl⟩ := List.exists_cons_of_ne_nil hne
  have hd := ne_sign_of_isDigit (hwhole d (by simp))
  rw [ofChars?, List.cons_append, splitSign_signChars negative _ hd, ← List.cons_append]
  simp only [takeWhile_append_stops hwhole htail, dropWhile_append_stops hwhole htail, hsplit]
  rw [if_neg (by simp)]
  simp

end DiscountPolicy.Decimal
