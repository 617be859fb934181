import DiscountPolicy.Predicate.Wire

/-! The text of a predicate as an expression: each node in parentheses, with its name first and the
operands or the two parts after it, one space apart. -/

namespace DiscountPolicy

/-- The operand as it stands in an expression. A location is written as data. -/
def Operand.render : Operand → String
  | .scalar s => s.render
  | .location l => l.payload.render

namespace Predicate

def render : Predicate → String
  | .leaf tag operands =>
    "(" ++ tag.name ++ String.join (operands.map fun x => " " ++ x.render) ++ ")"
  | .composite op left right =>
    "(" ++ op.name ++ " " ++ left.render ++ " " ++ right.render ++ ")"

end Predicate

end DiscountPolicy
