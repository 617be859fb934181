import DiscountPolicy.Json.Token

/-! The text form of structured data. Writing lists the tokens of a value and spells them without
blanks. Reading takes a text apart into tokens and goes through them once, with the arrays and
objects that are open; at most 127 may be open at a time. A key that an object repeats keeps its
last value. -/

namespace DiscountPolicy.Json

/-! ### Writing -/

mutual

def tokens : Json → List Token
  | .null => [.null]
  | .bool b => [.bool b]
  | .number n => [.number n]
  | .text s => [.text s]
  | .array items => .openArray :: itemTokens items
  | .object members => .openObject :: memberTokens members

/-- The tokens of an array after its opening bracket. -/
def itemTokens : List Json → List Token
  | [] => [.closeArray]
  | v :: vs => tokens v ++ moreItemTokens vs

/-- The tokens of an array after one of its items. -/
def moreItemTokens : List Json → List Token
  | [] => [.closeArray]
  | v :: vs => .comma :: (tokens v ++ moreItemTokens vs)

/-- The tokens of an object after its opening brace. -/
def memberTokens : List (String × Json) → List Token
  | [] => [.closeObject]
  | (k, v) :: ms => .text k :: .colon :: (tokens v ++ moreMemberTokens ms)

/-- The tokens of an object after one of its members. -/
def moreMemberTokens : List (String × Json) → List Token
  | [] => [.closeObject]
  | (k, v) :: ms => .comma :: .text k :: .colon :: (tokens v ++ moreMemberTokens ms)

end

/-- The text of a value, without blanks. -/
def render (v : Json) : String := String.ofList (v.tokens.flatMap Token.chars)

/-! ### Reading -/

/-- An array or object that is open: the items so far, the last one first, or the members so far,
with the key whose value is being read. -/
inductive Open where
  | items (before : List Json)
  | members (before : List (String × Json))
  | member (before : List (String × Json)) (key : String)

/-- What may come next in a text. -/
inductive Expected where
  | value
  /-- The first item of an array, or its end. -/
  | item
  /-- The first key of an object, or its end. -/
  | firstKey
  | key
  | colon
  /-- A comma, or the end of what is open. -/
  | more

/-- How far a text is read: what is open, the innermost first, and what may come next; or the value
that the whole text is. -/
inductive Progress where
  | within (opened : List Open) (next : Expected)
  | finished (v : Json)

/-- The greatest number of arrays and objects that may be open at a time. -/
def maxOpen : Nat := 127

/-- A value is read to its end. -/
def complete (v : Json) : List Open → Option Progress
  | [] => some (.finished v)
  | .items before :: opened => some (.within (.items (v :: before) :: opened) .more)
  | .member before key :: opened =>
    some (.within (.members (insertMember key v before) :: opened) .more)
  | .members _ :: _ => none

/-- An array or object begins. -/
def enter (o : Open) (next : Expected) (opened : List Open) : Option Progress :=
  if opened.length < maxOpen then some (.within (o :: opened) next) else none

/-- A token where a value may begin. -/
def beginValue (opened : List Open) : Token → Option Progress
  | .null => complete .null opened
  | .bool b => complete (.bool b) opened
  | .number n => complete (.number n) opened
  | .text s => complete (.text s) opened
  | .openArray => enter (.items []) .item opened
  | .openObject => enter (.members []) .firstKey opened
  | _ => none

/-- The end of the innermost array or object. -/
def close : Token → List Open → Option Progress
  | .closeArray, .items before :: opened => complete (.array before.reverse) opened
  | .closeObject, .members before :: opened => complete (.object before) opened
  | _, _ => none

/-- A token where a key has to stand. -/
def beginMember : Token → List Open → Option Progress
  | .text key, .members before :: opened => some (.within (.member before key :: opened) .colon)
  | _, _ => none

/-- A token where a comma or an end has to stand. -/
def continueOrClose : Token → List Open → Option Progress
  | .comma, .items before :: opened => some (.within (.items before :: opened) .value)
  | .comma, .members before :: opened => some (.within (.members before :: opened) .key)
  | t, opened => close t opened

/-- One token; none if it may not stand where it stands. -/
def advance : Progress → Token → Option Progress
  | .finished _, _ => none
  | .within opened .value, t => beginValue opened t
  | .within opened .item, t =>
    match t with
    | .closeArray => close t opened
    | t => beginValue opened t
  | .within opened .firstKey, t =>
    match t with
    | .closeObject => close t opened
    | t => beginMember t opened
  | .within opened .key, t => beginMember t opened
  | .within opened .colon, t =>
    match t with
    | .colon => some (.within opened .value)
    | _ => none
  | .within opened .more, t => continueOrClose t opened

def run : Progress → List Token → Option Json
  | .finished v, [] => some v
  | .within _ _, [] => none
  | p, t :: ts => (advance p t).bind (run · ts)

def ofTokens? (ts : List Token) : Option Json := run (.within [] .value) ts

/-- The value that a text spells; none for a text that spells none. -/
def ofText? (s : String) : Option Json := (Token.ofChars? s.toList).bind ofTokens?

end DiscountPolicy.Json
