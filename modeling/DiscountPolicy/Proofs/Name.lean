import DiscountPolicy.Predicate.Name

/-! The names in predicates. The names of operators and of tags are the keywords, and no name is the
name of an operator and of a tag. -/

namespace DiscountPolicy

theorem isKeyword_iff {w : String} :
    isKeyword w = true ↔ (∃ op : Operator, w = op.name) ∨ ∃ tag : Tag, w = tag.name := by
  simp only [isKeyword, Bool.or_eq_true, Option.isSome_iff_exists, Operator.ofName?_eq_some_iff,
    Tag.ofName?_eq_some_iff]

theorem isKeyword_eq_false_iff {w : String} :
    isKeyword w = false ↔ Operator.ofName? w = none ∧ Tag.ofName? w = none := by
  simp only [isKeyword, Bool.or_eq_false_iff, Option.isSome_eq_false_iff, Option.isNone_iff_eq_none]

@[simp] theorem isKeyword_operatorName (op : Operator) : isKeyword op.name = true :=
  isKeyword_iff.mpr (Or.inl ⟨op, rfl⟩)

@[simp] theorem isKeyword_tagName (tag : Tag) : isKeyword tag.name = true :=
  isKeyword_iff.mpr (Or.inr ⟨tag, rfl⟩)

/-- No tag has the name of an operator. -/
theorem Operator.ofName?_tagName (tag : Tag) : Operator.ofName? tag.name = none := by
  cases tag with
  | bounds measure scope => cases measure <;> cases scope <;> decide
  | _ => decide

end DiscountPolicy
