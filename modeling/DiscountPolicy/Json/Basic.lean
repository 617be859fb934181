import DiscountPolicy.Double.Basic

/-! Structured data: null, truth values, numbers, texts, arrays and objects. A number is a whole
number of 64 bits, with or without a sign, or a finite floating-point number. An object holds its
members in the order in which they are written; objects that were read, and objects in normal form,
hold each key once and in increasing order. -/

namespace DiscountPolicy

/-- The whole number fits into 64 bits, with or without a sign. -/
abbrev FitsWord (n : Int) : Prop := -0x8000000000000000 ≤ n ∧ n < 0x10000000000000000

/-- A number: a whole number that fits into 64 bits, or a finite floating-point number. -/
inductive Number where
  | whole (n : Int) (fits : FitsWord n)
  | real (x : FiniteDouble)
  deriving DecidableEq, Repr

inductive Json where
  | null
  | bool (b : Bool)
  | number (n : Number)
  | text (s : String)
  | array (items : List Json)
  | object (members : List (String × Json))
  deriving Repr

namespace Json

def ofInt64 (n : Int64) : Json :=
  .number (.whole n.toInt ⟨n.le_toInt, Int.lt_trans n.toInt_lt (by decide)⟩)

/-- Floating-point numbers as data: null stands for those that are not finite. -/
def ofDouble : Double → Json
  | .finite x => .number (.real x)
  | _ => .null

/-- The members with one more, in the order of the keys. A key that is there takes the new value. -/
def insertMember (key : String) (value : Json) : List (String × Json) → List (String × Json)
  | [] => [(key, value)]
  | (k, v) :: members =>
    if key < k then (key, value) :: (k, v) :: members
    else if key = k then (key, value) :: members
    else (k, v) :: insertMember key value members

def member? (key : String) (members : List (String × Json)) : Option Json := members.lookup key

end Json

end DiscountPolicy
