import Mathlib
import DiscountPolicy.Proofs.Decimal.Grammar
import DiscountPolicy.Proofs.Double.Rounded
import DiscountPolicy.Proofs.Expression.Operand

/-! What words stand for. Whether a word is an integer, a floating-point number or a text is decided
by the grammar of numerals and by the ranges of the two kinds of numbers, and it stays the same when
the word is written and read again. -/

namespace DiscountPolicy

open Decimal

/-! ### Integers -/

/-- The word spells an integer that 64 bits hold. -/
def SpellsInt64 (w : String) : Prop :=
  ∃ n, SpellsInt w.toList n ∧ -2 ^ 63 ≤ n ∧ n ≤ 2 ^ 63 - 1

theorem exists_toInt_iff {n : Int} :
    (∃ m : Int64, m.toInt = n) ↔ -2 ^ 63 ≤ n ∧ n ≤ 2 ^ 63 - 1 := by
  constructor
  · rintro ⟨m, rfl⟩
    have hlow := m.le_toInt
    have hhigh := m.toInt_lt
    omega
  · rintro ⟨hlow, hhigh⟩
    exact ⟨Int64.ofInt n, Int64.toInt_ofInt_of_le (by omega) (by omega)⟩

theorem int64OfText?_eq_some_iff {w : String} {m : Int64} :
    int64OfText? w = some m ↔ SpellsInt w.toList m.toInt := by
  rw [int64OfText?, Option.bind_eq_some_iff]
  constructor
  · rintro ⟨n, hn, hm⟩
    rw [toInt_of_int64? hm]
    exact int?_eq_some_iff.mp hn
  · intro h
    exact ⟨m.toInt, int?_eq_some_iff.mpr h, int64?_toInt m⟩

theorem int64OfText?_eq_none_iff {w : String} : int64OfText? w = none ↔ ¬SpellsInt64 w := by
  rw [Option.eq_none_iff_forall_ne_some]
  simp only [SpellsInt64, ← exists_toInt_iff, ne_eq, int64OfText?_eq_some_iff]
  constructor
  · rintro h ⟨_, hspells, m, rfl⟩
    exact h m hspells
  · intro h m hspells
    exact h ⟨m.toInt, hspells, m, rfl⟩

/-! ### Floating-point numbers -/

/-- The word spells a numeral, of the number's sign, whose value rounds to the number. -/
def SpellsFinite (w : String) (y : FiniteDouble) : Prop :=
  ∃ d, SpellsDecimal w.toList d ∧ y.negative = d.negative ∧ y.IsRounded d.value

theorem Double.ofText?_eq_finite_iff {w : String} {y : FiniteDouble} :
    Double.ofText? w = some (.finite y) ↔ SpellsFinite w y := by
  have hword : ∀ negative cs, Double.ofWord? negative cs ≠ some (.finite y) := by
    intro negative cs h
    simp only [Double.ofWord?] at h
    split at h
    · cases h
    · split at h <;> cases h
  simp only [SpellsFinite, ← Double.ofDecimal_eq_finite_iff_isRounded, ← ofChars?_eq_some_iff,
    Double.ofText?, Double.ofChars?]
  cases Decimal.ofChars? w.toList with
  | none => simp [hword]
  | some d => simp

theorem SpellsFinite.unique {w : String} {x y : FiniteDouble} (hx : SpellsFinite w x)
    (hy : SpellsFinite w y) : x = y := by
  have heq := (Double.ofText?_eq_finite_iff.mpr hx).symm.trans (Double.ofText?_eq_finite_iff.mpr hy)
  exact Double.finite.inj (Option.some.inj heq)

/-- A numeral spells a finite number if its value is in range. -/
theorem exists_spellsFinite_iff {w : String} {d : Decimal} (h : SpellsDecimal w.toList d) :
    (∃ y, SpellsFinite w y) ↔ |d.value| < 2 ^ 1024 - 2 ^ 970 := by
  constructor
  · rintro ⟨y, e, he, -, hrounded⟩
    rw [h.unique he]
    exact hrounded.inRange
  · intro hrange
    obtain ⟨y, hy⟩ := Double.exists_ofDecimal_eq_finite_iff.mpr hrange
    exact ⟨y, d, h, Double.ofDecimal_eq_finite_iff_isRounded.mp hy⟩

theorem Decimal.SpellsInt.exists_decimal {cs : List Char} {n : Int} (h : SpellsInt cs n) :
    ∃ d, SpellsDecimal cs d ∧ d.value = n := by
  obtain ⟨negative, k, hspells, rfl⟩ := h.exists_spellsDecimal
  refine ⟨_, hspells, ?_⟩
  cases negative <;> simp [Decimal.value]

/-- The integers of 64 bits lie far inside the range of the finite numbers. -/
theorem SpellsInt64.abs_value_lt {w : String} {d : Decimal} (h : SpellsInt64 w)
    (hd : SpellsDecimal w.toList d) : |d.value| < 2 ^ 1024 - 2 ^ 970 := by
  obtain ⟨n, hn, hlow, hhigh⟩ := h
  obtain ⟨e, he, hvalue⟩ := hn.exists_decimal
  have hlt : n.natAbs < 2 ^ 1024 - 2 ^ 970 :=
    Nat.lt_of_le_of_lt (show n.natAbs ≤ 2 ^ 63 by omega) (by decide +kernel)
  rw [hd.unique he, hvalue, ← Int.cast_abs, ← Nat.cast_natAbs, ← FiniteDouble.cast_limit,
    Nat.cast_lt]
  exact hlt

/-! ### Words for what is not finite -/

/-- Infinity and not-a-number, in letters of either case, are no numerals. -/
theorem not_spellsDecimal_of_word {sign name : List Char} {negative : Bool} {d : Decimal}
    (hsign : SpellsSign sign negative)
    (hname : String.ofList (name.map Char.toLower) ∈ ["inf", "infinity", "nan"]) :
    ¬SpellsDecimal (sign ++ name) d := by
  cases name with
  | nil => exact absurd hname (by decide)
  | cons c cs =>
    apply not_spellsDecimal_of_isAlpha hsign
    rw [← Char.isLower_toLower_eq_isAlpha]
    have hfirst : ∀ word ∈ ["inf", "infinity", "nan"], ∀ m ∈ word.toList.head?, m.isLower = true := by
      simp
    exact hfirst _ hname c.toLower (by simp)

namespace Scalar

variable {w : String}

/-! ### Words -/

/-- All that becomes of a word. -/
theorem ofWord_outcomes (w : String) :
    (∃ n : Int64, ofWord w = .integer n ∧ SpellsInt w.toList n.toInt) ∨
    (¬SpellsInt64 w ∧ ∃ y, ofWord w = .real (.finite y) ∧ SpellsFinite w y) ∨
    (¬SpellsInt64 w ∧ (∀ y, ¬SpellsFinite w y) ∧ ofWord w = .text w) := by
  unfold ofWord
  split
  · next n hn => exact .inl ⟨n, rfl, int64OfText?_eq_some_iff.mp hn⟩
  · next hnone =>
    have hnot := int64OfText?_eq_none_iff.mp hnone
    split
    · next y hy => exact .inr (.inl ⟨hnot, y, rfl, Double.ofText?_eq_finite_iff.mp hy⟩)
    · next hother =>
      refine .inr (.inr ⟨hnot, fun y hy => ?_, rfl⟩)
      exact hother y (Double.ofText?_eq_finite_iff.mpr hy)

theorem spellsInt64_of_toInt {n : Int64} (h : SpellsInt w.toList n.toInt) : SpellsInt64 w :=
  ⟨n.toInt, h, exists_toInt_iff.mp ⟨n, rfl⟩⟩

theorem ofWord_eq_integer_iff {n : Int64} :
    ofWord w = .integer n ↔ SpellsInt w.toList n.toInt := by
  rcases ofWord_outcomes w with ⟨m, hm, hspells⟩ | ⟨hnot, y, hy, -⟩ | ⟨hnot, -, htext⟩
  · rw [hm, integer.injEq]
    constructor
    · rintro rfl
      exact hspells
    · intro h
      have heq := (int?_eq_some_iff.mpr hspells).symm.trans (int?_eq_some_iff.mpr h)
      exact Int64.toInt_inj.mp (Option.some.inj heq)
  · rw [hy]
    exact iff_of_false (fun h => nomatch h) fun h => hnot (spellsInt64_of_toInt h)
  · rw [htext]
    exact iff_of_false (fun h => nomatch h) fun h => hnot (spellsInt64_of_toInt h)

theorem ofWord_eq_real_iff {x : Double} :
    ofWord w = .real x ↔ ¬SpellsInt64 w ∧ ∃ y, SpellsFinite w y ∧ x = .finite y := by
  rcases ofWord_outcomes w with ⟨m, hm, hspells⟩ | ⟨hnot, y, hy, hspells⟩ | ⟨-, hnone, htext⟩
  · rw [hm]
    exact iff_of_false (fun h => nomatch h) fun h => h.1 (spellsInt64_of_toInt hspells)
  · rw [hy, real.injEq]
    constructor
    · rintro rfl
      exact ⟨hnot, y, hspells, rfl⟩
    · rintro ⟨-, z, hz, rfl⟩
      rw [hspells.unique hz]
  · rw [htext]
    exact iff_of_false (fun h => nomatch h) fun ⟨_, y, hy, _⟩ => hnone y hy

theorem ofWord_eq_text_iff {s : String} :
    ofWord w = .text s ↔ s = w ∧ ¬SpellsInt64 w ∧ ∀ y, ¬SpellsFinite w y := by
  rcases ofWord_outcomes w with ⟨m, hm, hspells⟩ | ⟨-, y, hy, hspells⟩ | ⟨hnot, hnone, htext⟩
  · rw [hm]
    exact iff_of_false (fun h => nomatch h) fun h => h.2.1 (spellsInt64_of_toInt hspells)
  · rw [hy]
    exact iff_of_false (fun h => nomatch h) fun h => h.2.2 y hspells
  · rw [htext, text.injEq]
    exact ⟨fun h => ⟨h.symm, hnot, hnone⟩, fun h => h.1.symm⟩

/-- A numeral that is no integer of 64 bits is a finite number if it is in range, and otherwise a
text. -/
theorem ofWord_of_spellsDecimal {d : Decimal} (h : SpellsDecimal w.toList d) :
    (|d.value| < 2 ^ 1024 - 2 ^ 970 → ¬SpellsInt64 w →
      ∃ y : FiniteDouble, y.IsRounded d.value ∧ ofWord w = .real (.finite y)) ∧
    (2 ^ 1024 - 2 ^ 970 ≤ |d.value| → ofWord w = .text w) := by
  constructor
  · intro hrange hnot
    obtain ⟨y, hy⟩ := (exists_spellsFinite_iff h).mpr hrange
    obtain ⟨e, he, -, hrounded⟩ := id hy
    rw [← h.unique he] at hrounded
    exact ⟨y, hrounded, ofWord_eq_real_iff.mpr ⟨hnot, y, hy, rfl⟩⟩
  · intro hrange
    refine ofWord_eq_text_iff.mpr ⟨rfl, fun hint => ?_, fun y hy => ?_⟩
    · exact absurd (hint.abs_value_lt h) (not_lt.mpr hrange)
    · exact absurd ((exists_spellsFinite_iff h).mp ⟨y, hy⟩) (not_lt.mpr hrange)

theorem ofWord_of_no_numeral (h : ∀ d, ¬SpellsDecimal w.toList d) : ofWord w = .text w := by
  refine ofWord_eq_text_iff.mpr ⟨rfl, ?_, ?_⟩
  · rintro ⟨n, hn, -⟩
    obtain ⟨d, hd, -⟩ := hn.exists_decimal
    exact h d hd
  · rintro y ⟨d, hd, -⟩
    exact h d hd

theorem ofWord_render_ofWord (w : String) : ofWord (ofWord w).render = ofWord w := by
  rcases ofWord_cases w with ⟨n, h⟩ | ⟨x, h⟩ | h
  · rw [h]
    exact ofWord_intText n
  · rw [h]
    exact ofWord_layoutText x
  · rw [h]
    exact h

/-- A word is the integer that it spells if 64 bits hold it; otherwise the finite number to which
the numeral that it spells rounds; otherwise itself. So a whole number out of the range of integers
is a floating-point number, and numerals out of the range of those, and the words for infinity and
for not-a-number, stay texts. The scalar is read off its own text again. -/
theorem ofWord_iff_spells (w : String) :
    (∀ n : Int64, ofWord w = .integer n ↔ SpellsInt w.toList n.toInt) ∧
    (∀ x : Double, ofWord w = .real x ↔
      ¬SpellsInt64 w ∧ ∃ y, SpellsFinite w y ∧ x = .finite y) ∧
    (∀ s, ofWord w = .text s ↔ s = w ∧ ¬SpellsInt64 w ∧ ∀ y, ¬SpellsFinite w y) ∧
    (∀ n, SpellsInt w.toList n → n < -2 ^ 63 ∨ 2 ^ 63 ≤ n → |(n : ℚ)| < 2 ^ 1024 - 2 ^ 970 →
      ∃ y : FiniteDouble, y.IsRounded n ∧ ofWord w = .real (.finite y)) ∧
    (∀ d, SpellsDecimal w.toList d → 2 ^ 1024 - 2 ^ 970 ≤ |d.value| → ofWord w = .text w) ∧
    (∀ sign name negative, SpellsSign sign negative →
      String.ofList (name.map Char.toLower) ∈ ["inf", "infinity", "nan"] →
      w.toList = sign ++ name → ofWord w = .text w) ∧
    ofWord (ofWord w).render = ofWord w := by
  refine ⟨fun n => ofWord_eq_integer_iff, fun x => ofWord_eq_real_iff,
    fun s => ofWord_eq_text_iff, fun n hn hout hrange => ?_,
    fun d hd => (ofWord_of_spellsDecimal hd).2, fun sign name negative hsign hname hw => ?_,
    ofWord_render_ofWord w⟩
  · obtain ⟨d, hd, hvalue⟩ := hn.exists_decimal
    have hnot : ¬SpellsInt64 w := by
      rintro ⟨m, hm, hlow, hhigh⟩
      have heq := Option.some.inj
        ((int?_eq_some_iff.mpr hn).symm.trans (int?_eq_some_iff.mpr hm))
      omega
    rw [← hvalue] at hrange ⊢
    exact (ofWord_of_spellsDecimal hd).1 hrange hnot
  · refine ofWord_of_no_numeral fun d => ?_
    rw [hw]
    exact not_spellsDecimal_of_word hsign hname

theorem ofWord_iff_spells_limits :
    (∃ y : FiniteDouble, y.IsRounded (2 ^ 63 : Int) ∧
      ofWord "9223372036854775808" = .real (.finite y)) ∧
    ofWord "1e400" = .text "1e400" ∧ ofWord "-Infinity" = .text "-Infinity" := by
  refine ⟨?_, ?_, ?_⟩
  · have hspells : SpellsInt "9223372036854775808".toList (2 ^ 63) :=
      int?_eq_some_iff.mp (by decide +kernel)
    have hrange : |((2 ^ 63 : Int) : ℚ)| < 2 ^ 1024 - 2 ^ 970 := by
      rw [← FiniteDouble.cast_limit, ← Int.cast_abs, ← Nat.cast_natAbs, Nat.cast_lt]
      decide +kernel
    exact (ofWord_iff_spells _).2.2.2.1 _ hspells (.inr (by decide)) hrange
  · have hspells : SpellsDecimal "1e400".toList ⟨false, 1, 400⟩ :=
      ofChars?_eq_some_iff.mp (by decide +kernel)
    refine (ofWord_iff_spells _).2.2.2.2.1 _ hspells ?_
    rw [Decimal.abs_value, ← FiniteDouble.cast_limit, le_div_iff₀ (by decide +kernel), ← Nat.cast_mul,
      Nat.cast_le]
    decide +kernel
  · exact (ofWord_iff_spells _).2.2.2.2.2.1 ['-'] "Infinity".toList true .minus (by decide) rfl

end Scalar

end DiscountPolicy
