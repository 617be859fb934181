import DiscountPolicy.Text.Composition
import DiscountPolicy.Url.Domain.Form
import DiscountPolicy.Url.Domain.Label

/-! Names of servers. A name consists of labels between full stops. Its characters count in their
forms, and letters and marks in their composed form; a label with other characters than ASCII ones
is written in ASCII after a mark. -/

namespace DiscountPolicy.Domain

open Text Punycode

/-- The marks of ASCII that names have. -/
def marks : List Char := "-._~!$&'()*+,;=".toList

/-- The character is a small letter, a digit or a mark that names have, or it is not ASCII. -/
def isAllowed (c : Char) : Bool := !isAscii c || c.isLower || c.isDigit || c ∈ marks

/-- The text in the form in which it counts in names; none if it has a character that no name
has. -/
def plain? (cs : List Char) : Option (List Char) := do
  let plain := compose (← cs.mapM form?).flatten
  if plain.all isAllowed then some plain else none

/-- The label that is written so, in ASCII or as itself. It is in the form in which it counts even
if it is written in ASCII. -/
def label? (cs : List Char) : Option (List Char) :=
  (Label.ofChars? cs).filter fun label => Label.isValid label && plain? label == some label

def labels? (cs : List Char) : Option (List (List Char)) := do
  let labels ← ((← plain? cs).splitOn '.').mapM label?
  if !Label.areLeftward labels || labels.all Label.hasDirection then some labels else none

def name (labels : List (List Char)) : List Char := ['.'].intercalate labels

end DiscountPolicy.Domain
