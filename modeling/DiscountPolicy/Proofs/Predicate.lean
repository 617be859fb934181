import DiscountPolicy.Predicate.Basic

/-! The operands of a predicate, each with the tag of its leaf. What holds of all of them is what
holds of every leaf of the tree. -/

namespace DiscountPolicy.Predicate

/-- The operands from left to right, each with the tag it stands under. -/
def operands : Predicate → List (Tag × Operand)
  | .leaf tag xs => xs.map (tag, ·)
  | .composite _ left right => left.operands ++ right.operands

theorem forall_operands_leaf {P : Tag × Operand → Prop} {tag : Tag} {xs : List Operand} :
    (∀ e ∈ (leaf tag xs).operands, P e) ↔ ∀ x ∈ xs, P (tag, x) := by
  simp [operands]

theorem forall_operands_composite {P : Tag × Operand → Prop} {op : Operator} {l r : Predicate} :
    (∀ e ∈ (composite op l r).operands, P e) ↔
      (∀ e ∈ l.operands, P e) ∧ ∀ e ∈ r.operands, P e := by
  simp only [operands, List.forall_mem_append]

end DiscountPolicy.Predicate
