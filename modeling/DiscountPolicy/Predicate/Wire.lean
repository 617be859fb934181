import DiscountPolicy.Json.Text
import DiscountPolicy.Predicate.Basic

/-! Predicates as structured data. A composite is the array of its operator's name and its two
parts; a leaf is the array of its tag's name and its operands. Decoding takes exactly such arrays
and reports the first defect: a node's own before those of its parts, the left part before the
right one, and operands from left to right. -/

namespace DiscountPolicy

namespace Location

/-- The members of a location in the order in which a location is written. -/
def members (l : Location) : List (String × Json) :=
  [("address", .text l.address), ("city", .text l.city), ("state", .text l.state),
    ("country", .text l.country), ("zip_code", .text l.zipCode)]

/-- The location as an object whose members keep that order. -/
def payload (l : Location) : Json := .object l.members

/-- The location as an object in normal form, with its keys in increasing order. -/
def toJson (l : Location) : Json :=
  .object [("address", .text l.address), ("city", .text l.city), ("country", .text l.country),
    ("state", .text l.state), ("zip_code", .text l.zipCode)]

/-- The text under a key: empty if the key is missing, and the value itself as an error if it is no
text. -/
def field (members : List (String × Json)) (key : String) : Except Json String :=
  match Json.member? key members with
  | none => .ok ""
  | some (.text s) => .ok s
  | some v => .error v

/-- The location of an object, or the first value that is no text, in the order of the keys. Keys
that no location has are passed over. -/
def ofMembers (members : List (String × Json)) : Except Json Location := do
  let address ← field members "address"
  let city ← field members "city"
  let country ← field members "country"
  let state ← field members "state"
  let zipCode ← field members "zip_code"
  return { address, city, state, country, zipCode }

end Location

def Scalar.toJson : Scalar → Json
  | .integer n => .ofInt64 n
  | .real x => .ofDouble x
  | .text s => .text s

namespace Operand

/-- The operand as data, with locations as given. -/
def encode (location : Location → Json) : Operand → Json
  | .scalar s => s.toJson
  | .location l => location l

end Operand

namespace Predicate

/-- The predicate as data, with locations as given. -/
def encode (location : Location → Json) : Predicate → Json
  | .leaf tag operands => .array (.text tag.name :: operands.map (Operand.encode location))
  | .composite op left right =>
    .array [.text op.name, left.encode location, right.encode location]

/-- The predicate as data in normal form. -/
def toJson (p : Predicate) : Json := p.encode Location.toJson

/-- The predicate as it is sent, with the members of locations in the order in which a location is
written. -/
def payload (p : Predicate) : Json := p.encode Location.payload

/-- What keeps data from being a predicate. -/
inductive Defect where
  /-- A node is no array. -/
  | notArray (v : Json)
  /-- A node is an array without items. -/
  | emptyNode
  /-- The first item of a node is no text. -/
  | tagNotText (v : Json)
  /-- An operator does not have two parts. -/
  | wrongArity (op : Operator) (count : Nat)
  /-- The first item of a node is the name of no operator and no tag. -/
  | unknownTag (name : String)
  /-- A key of a location has a value that is no text. -/
  | malformedLocation (members : List (String × Json)) (value : Json)
  /-- An operand is of no kind that its tag takes. -/
  | unsupportedOperand (tag : Tag) (v : Json)

/-- The kind of a value, and the value itself if it is a number, a truth value or a text. -/
def describe : Json → String
  | .null => "null"
  | .bool b => "boolean `" ++ (if b then "true" else "false") ++ "`"
  | .number (.whole n _) => "integer `" ++ intText n ++ "`"
  | .number (.real x) => "floating point `" ++ Layout.data.text x ++ "`"
  | .text s => "string " ++ (Json.text s).render
  | .array _ => "sequence"
  | .object _ => "map"

def Defect.message : Defect → String
  | .notArray v => "Expected array node, got " ++ v.render
  | .emptyNode => "Empty node"
  | .tagNotText v => "Node tag must be a string, got " ++ v.render
  | .wrongArity op count =>
    "'" ++ op.name ++ "' needs exactly 2 children, got " ++ intText count
  | .unknownTag name => "Unknown node tag: " ++ name
  | .malformedLocation members value =>
    "Malformed location " ++ (Json.object members).render ++ ": invalid type: " ++
      describe value ++ ", expected a string"
  | .unsupportedOperand tag v => "Unsupported operand for '" ++ tag.name ++ "': " ++ v.render

/-- A number as a scalar: an integer if 64 bits with a sign hold it, and otherwise the nearest
floating-point number. -/
def scalarOfNumber : Number → Scalar
  | .whole n _ =>
    match int64? n with
    | some m => .integer m
    | none => .real (.ofRatio false n.toNat 1)
  | .real x => .real (.finite x)

/-- The operand that data stands for under a tag. -/
def decodeOperand (tag : Tag) : Json → Except Defect Operand
  | .number n => .ok (.scalar (scalarOfNumber n))
  | .text s => .ok (.scalar (.text s))
  | .object members =>
    if tag = .location then
      match Location.ofMembers members with
      | .ok l => .ok (.location l)
      | .error v => .error (.malformedLocation members v)
    else .error (.unsupportedOperand tag (.object members))
  | v => .error (.unsupportedOperand tag v)

/-- The operands that items stand for under a tag, or the first defect. -/
def decodeOperands (tag : Tag) : List Json → Except Defect (List Operand)
  | [] => .ok []
  | v :: vs => do
    let x ← decodeOperand tag v
    let xs ← decodeOperands tag vs
    return x :: xs

/-- The predicate that data stands for, or the first defect. -/
def ofJson : Json → Except Defect Predicate
  | .array [] => .error .emptyNode
  | .array (.text name :: rest) =>
    match Operator.ofName? name with
    | some op =>
      match rest with
      | [l, r] => do
        let left ← ofJson l
        let right ← ofJson r
        return .composite op left right
      | _ => .error (.wrongArity op rest.length)
    | none =>
      match Tag.ofName? name with
      | some tag => do
        let operands ← decodeOperands tag rest
        return .leaf tag operands
      | none => .error (.unknownTag name)
  | .array (v :: _) => .error (.tagNotText v)
  | v => .error (.notArray v)

end Predicate

end DiscountPolicy
