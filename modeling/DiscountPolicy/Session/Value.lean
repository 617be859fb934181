import DiscountPolicy.Failure

/-! The values that scripts pass and get, the faults that they see, and the reading of arguments. -/

namespace DiscountPolicy

inductive Value where
  | nothing
  | bool (b : Bool)
  | integer (n : Int)
  | real (x : Double)
  | text (s : String)
  | list (items : List Value)
  | dict (entries : List (String × Value))
  deriving Repr

/-- What goes wrong in a call. -/
inductive Fault where
  /-- An argument is of the wrong type, or the number of arguments is wrong. -/
  | wrongType
  /-- An integer does not fit into 64 bits. -/
  | outOfRange
  /-- There is no client yet. -/
  | noClient
  /-- The call itself fails. -/
  | failed (f : Failure)

/-- The sorts of faults that scripts tell apart. -/
inductive FaultSort where
  | type
  | overflow
  | value
  | permission
  | connection
  | runtime
  deriving DecidableEq, Repr

namespace Fault

def sort : Fault → FaultSort
  | .wrongType => .type
  | .outOfRange => .overflow
  | .noClient => .runtime
  | .failed f =>
    match f.kind with
    | .invalidPredicate | .invalidConstraint | .config | .serialization => .value
    | .unauthorized => .permission
    | .http | .realtime => .connection
    | .backend _ => .runtime

/-- The fault in words; none where a library words it, or the conversion of arguments. -/
def message? : Fault → Option String
  | .wrongType | .outOfRange => none
  | .noClient => some "Client not initialized. Call init_client() first."
  | .failed f => f.message?

end Fault

namespace Value

def toText : Value → Except Fault String
  | .text s => .ok s
  | _ => .error .wrongType

/-- The text that a value is, where nothing stands for no text. -/
def toOptionalText : Value → Except Fault (Option String)
  | .nothing => .ok none
  | v => v.toText.map some

def toBool : Value → Except Fault Bool
  | .bool b => .ok b
  | _ => .error .wrongType

/-- The 64-bit integer that a value is; truth values count as 0 and 1. -/
def toInt64 : Value → Except Fault Int64
  | .bool b => .ok (if b then 1 else 0)
  | .integer n =>
    match int64? n with
    | some m => .ok m
    | none => .error .outOfRange
  | _ => .error .wrongType

/-- The entries of a dictionary. -/
def toDict : Value → Except Fault (List (String × Value))
  | .dict entries => .ok entries
  | _ => .error .wrongType

end Value

def Scalar.toValue : Scalar → Value
  | .integer n => .integer n.toInt
  | .real x => .real x
  | .text s => .text s

def Location.toValue (l : Location) : Value :=
  .dict [("address", .text l.address), ("city", .text l.city), ("state", .text l.state),
    ("country", .text l.country), ("zip_code", .text l.zipCode)]

def Operand.toValue : Operand → Value
  | .scalar s => s.toValue
  | .location l => l.toValue

/-- The predicate as nested lists, of the shape that it has as data. -/
def Predicate.toValue : Predicate → Value
  | .leaf tag operands => .list (.text tag.name :: operands.map Operand.toValue)
  | .composite op left right => .list [.text op.name, left.toValue, right.toValue]

end DiscountPolicy
