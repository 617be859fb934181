import DiscountPolicy.Double.Layout
import DiscountPolicy.Predicate.Name

/-! Predicates: trees whose leaves are constraints with operands, and whose inner nodes combine two
predicates with an operator. An operand is a number, a word or a postal location. -/

namespace DiscountPolicy

inductive Scalar where
  | integer (n : Int64)
  | real (x : Double)
  | text (s : String)
  deriving DecidableEq, Repr

structure Location where
  address : String := ""
  city : String := ""
  state : String := ""
  country : String := ""
  zipCode : String := ""
  deriving DecidableEq, Repr

inductive Operand where
  | scalar (s : Scalar)
  | location (l : Location)
  deriving DecidableEq, Repr

inductive Predicate where
  | leaf (tag : Tag) (operands : List Operand)
  | composite (op : Operator) (left right : Predicate)
  deriving DecidableEq, Repr

namespace Scalar

/-- The scalar that a word stands for: an integer if it spells one that 64 bits hold, otherwise a
floating-point number if it spells a finite one, and otherwise the word itself. -/
def ofWord (word : String) : Scalar :=
  match int64OfText? word with
  | some n => .integer n
  | none =>
    match Double.ofText? word with
    | some (.finite x) => .real (.finite x)
    | _ => .text word

/-- A floating-point number as an operand: an integer if it is whole and below `2 ^ 63` in
magnitude. -/
def number (x : Double) : Scalar :=
  match x with
  | .finite y => y.toInt64?.elim (.real x) .integer
  | _ => .real x

/-- The scalar as it stands in an expression. -/
def render : Scalar → String
  | .integer n => intText n.toInt
  | .real (.finite x) => Layout.expression.text x
  | .real (.infinite negative) => if negative then "-inf" else "inf"
  | .real .nan => "NaN"
  | .text s => s

/-- Scalars of one kind with equal values. -/
def equal : Scalar → Scalar → Bool
  | .integer m, .integer n => m == n
  | .real x, .real y => x.equal y
  | .text s, .text t => s == t
  | _, _ => false

end Scalar

def Operand.equal : Operand → Operand → Bool
  | .scalar s, .scalar t => s.equal t
  | .location l, .location m => l == m
  | _, _ => false

def Operand.equalAll : List Operand → List Operand → Bool
  | [], [] => true
  | x :: xs, y :: ys => x.equal y && equalAll xs ys
  | _, _ => false

namespace Predicate

def leafCount : Predicate → Nat
  | .leaf .. => 1
  | .composite _ left right => left.leafCount + right.leafCount

/-- The number of nodes on the longest way from the root to a leaf. -/
def depth : Predicate → Nat
  | .leaf .. => 1
  | .composite _ left right => 1 + max left.depth right.depth

/-- Predicates of one shape with equal operands. -/
def equal : Predicate → Predicate → Bool
  | .leaf t xs, .leaf u ys => t == u && Operand.equalAll xs ys
  | .composite p l r, .composite q m s => p == q && l.equal m && r.equal s
  | _, _ => false

end Predicate

end DiscountPolicy
