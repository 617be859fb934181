import DiscountPolicy.Predicate.Render
import DiscountPolicy.Proofs.Double.Layout
import DiscountPolicy.Proofs.Expression.Grammar
import DiscountPolicy.Proofs.Expression.Words
import DiscountPolicy.Proofs.Text.Blank

/-! Operands in expressions: the operands that words stand for. Each of them is written as one word
that stands for it again. -/

namespace DiscountPolicy

/-! ### Numbers as words -/

open Decimal

theorem isWord_of_isNumeric {cs : List Char} (hne : cs ≠ []) (h : IsNumeric cs) :
    Expression.IsWord cs := by
  refine ⟨hne, fun c hc => ?_⟩
  rcases h c hc with hdigit | hmark
  · constructor
    · rw [Expression.isSeparator, Bool.or_eq_false_iff, beq_eq_false_iff_ne]
      refine ⟨Text.isBlank_of_isDigit hdigit, ?_⟩
      rintro rfl
      cases hdigit
    · rw [Expression.isParenthesis, Bool.or_eq_false_iff, beq_eq_false_iff_ne, beq_eq_false_iff_ne]
      constructor <;> (rintro rfl; cases hdigit)
  · simp only [List.mem_cons, List.not_mem_nil, or_false] at hmark
    rcases hmark with rfl | rfl | rfl | rfl <;> decide

theorem isKeyword_of_isNumeric {w : String} (h : IsNumeric w.toList) : isKeyword w = false := by
  cases hkey : isKeyword w with
  | false => rfl
  | true =>
    rcases isKeyword_iff.mp hkey with ⟨op, rfl⟩ | ⟨tag, rfl⟩
    · revert h
      cases op <;> decide
    · revert h
      cases tag with
      | bounds measure scope => cases measure <;> cases scope <;> decide
      | _ => decide

namespace Scalar

/-! ### What words stand for -/

theorem ofWord_intText (n : Int64) : ofWord (intText n.toInt) = .integer n := by
  rw [ofWord, int64OfText?, intText, String.toList_ofList, int?_intChars, Option.bind_some,
    int64?_toInt]

theorem ofWord_layoutText (x : FiniteDouble) :
    ofWord (Layout.expression.text x) = .real (.finite x) := by
  rw [ofWord, int64OfText?, Double.ofText?, Layout.text, String.toList_ofList, Layout.int?_chars rfl,
    Layout.ofChars?_chars]
  rfl

/-- A word stands for an integer, for a finite number or for itself. -/
theorem ofWord_cases (w : String) :
    (∃ n, ofWord w = .integer n) ∨ (∃ x, ofWord w = .real (.finite x)) ∨ ofWord w = .text w := by
  unfold ofWord
  split
  · exact .inl ⟨_, rfl⟩
  · split
    · exact .inr (.inl ⟨_, rfl⟩)
    · exact .inr (.inr rfl)

end Scalar

namespace Operand

/-! ### What can stand in an expression -/

/-- The operands that an expression can hold: numbers that are finite, and texts that are one word,
no name, and stand for themselves. -/
def Expressible : Operand → Prop
  | .scalar (.integer _) => True
  | .scalar (.real x) => ∃ y, x = .finite y
  | .scalar (.text w) =>
    Expression.IsWord w.toList ∧ isKeyword w = false ∧ Scalar.ofWord w = .text w
  | .location _ => False

/-- What a word stands for can stand in an expression, if the word is no name. -/
theorem expressible_ofWord {w : String} (hw : Expression.IsWord w.toList)
    (hkey : isKeyword w = false) : Expressible (.scalar (.ofWord w)) := by
  rcases Scalar.ofWord_cases w with ⟨n, h⟩ | ⟨x, h⟩ | h
  · rw [h]
    trivial
  · rw [h]
    exact ⟨x, rfl⟩
  · rw [h]
    exact ⟨hw, hkey, h⟩

/-- The text of such an operand is one word, no name, and stands for the operand. -/
theorem Expressible.render {x : Operand} (h : x.Expressible) :
    Expression.IsWord x.render.toList ∧ isKeyword x.render = false ∧
      .scalar (.ofWord x.render) = x := by
  match x, h with
  | .scalar (.integer n), _ =>
    have hnumeric : IsNumeric (intText n.toInt).toList := by
      rw [intText, String.toList_ofList]
      exact isNumeric_intChars _
    have hne : (intText n.toInt).toList ≠ [] := by
      rw [intText, String.toList_ofList]
      exact intChars_ne_nil _
    exact ⟨isWord_of_isNumeric hne hnumeric, isKeyword_of_isNumeric hnumeric,
      congrArg Operand.scalar (Scalar.ofWord_intText n)⟩
  | .scalar (.real _), ⟨y, rfl⟩ =>
    have hnumeric : IsNumeric (Layout.expression.text y).toList := by
      rw [Layout.text, String.toList_ofList]
      exact Layout.isNumeric_chars _ y
    have hne : (Layout.expression.text y).toList ≠ [] := by
      rw [Layout.text, String.toList_ofList]
      exact Layout.chars_ne_nil _ y
    exact ⟨isWord_of_isNumeric hne hnumeric, isKeyword_of_isNumeric hnumeric,
      congrArg Operand.scalar (Scalar.ofWord_layoutText y)⟩
  | .scalar (.text w), ⟨hw, hkey, hplain⟩ => exact ⟨hw, hkey, congrArg Operand.scalar hplain⟩

end Operand

end DiscountPolicy
