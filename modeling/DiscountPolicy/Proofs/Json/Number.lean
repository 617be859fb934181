import DiscountPolicy.Proofs.Double.Layout
import DiscountPolicy.Proofs.Json.Numeral

/-! The numbers of structured data and their texts. A whole number is read back from its text. A
floating-point number need not be, since reading rounds twice; `Kept` is what holds of those that
are. -/

namespace DiscountPolicy.Number

open Decimal

/-- The number is read back from its text. -/
def Kept (n : Number) : Prop := ofChars? n.chars = some n

instance (n : Number) : Decidable n.Kept := inferInstanceAs (Decidable (_ = _))

theorem head?_toDigits_ne {n : Nat} (h : 0 < n) : (Nat.toDigits 10 n).head? ≠ some '0' := by
  induction n using Nat.strong_induction_on with
  | _ n ih =>
    by_cases hsmall : n < 10
    · have all : ∀ m ∈ List.range 10, 0 < m → Nat.digitChar m ≠ '0' := by decide
      rw [Nat.toDigits_of_lt_base hsmall, List.head?_cons, ne_eq, Option.some.injEq]
      exact all n (List.mem_range.mpr hsmall) h
    · have hlead := ih (n / 10) (by omega) (by omega)
      obtain ⟨d, ds, hcons⟩ :=
        List.exists_cons_of_ne_nil (Nat.toDigits_ne_nil (n := n / 10) (b := 10))
      rw [hcons] at hlead
      rw [Nat.toDigits_of_base_le (by decide) (by omega), hcons]
      exact hlead

/-- A written whole number has no needless zero. -/
theorem isWholePart_toDigits (n : Nat) : IsWholePart (Nat.toDigits 10 n) := by
  refine ⟨isDigits_toDigits n, Nat.toDigits_ne_nil, fun rest hrest => ?_⟩
  rcases Nat.eq_zero_or_pos n with rfl | hpos
  · exact (List.cons.inj hrest).2.symm
  · refine absurd ?_ (head?_toDigits_ne hpos)
    rw [hrest, List.head?_cons]

theorem signed_toDigits (n : Int) :
    signed (decide (n < 0)) (Nat.toDigits 10 n.natAbs) = n := by
  rw [signed, natOfDigits_toDigits]
  by_cases h : n < 0
  · simp only [h, decide_true, if_true]
    omega
  · simp only [h, decide_false, Bool.false_eq_true, if_false]
    omega

/-- Whole numbers are read back from their texts. -/
theorem kept_whole (n : Int) (fits : FitsWord n) : Kept (.whole n fits) := by
  have hsigned := signed_toDigits n
  have word : IsWord (decide (n < 0)) (Nat.toDigits 10 n.natAbs) := by
    refine ⟨by rwa [hsigned], fun h => ?_⟩
    have hneg := of_decide_eq_true h
    rw [natOfDigits_toDigits]
    omega
  have hspells := Spells.whole (isWholePart_toDigits n.natAbs) word
  simp only [hsigned] at hspells
  rw [Kept, chars, intChars_eq, ofChars?_eq_some_iff]
  exact hspells

end DiscountPolicy.Number
