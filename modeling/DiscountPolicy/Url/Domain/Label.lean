import DiscountPolicy.Text.CombiningClass
import DiscountPolicy.Text.Direction
import DiscountPolicy.Text.Joining
import DiscountPolicy.Url.Punycode

/-! Labels of names: which sequences of characters are labels, and how labels are written in ASCII.
A label does not begin with a mark, has the two invisible characters that join letters or keep them
apart only where they matter, and is read in one direction if the name has letters that are read
leftward. -/

namespace DiscountPolicy.Label

open Text Punycode

/-- The invisible character that keeps letters from being joined. -/
def nonJoiner : Char := Char.ofNat 0x200C

/-- The invisible character that joins letters. -/
def joiner : Char := Char.ofNat 0x200D

/-- The last character takes away a vowel. The last character comes first. -/
def endsSyllable (before : List Char) : Bool := before.head?.any isVirama

/-- Letters on both sides would be joined but for the character between them. The last character
before it comes first. -/
def wouldJoin (before after : List Char) : Bool :=
  (before.dropWhile isTransparent).head?.any joinsNext &&
    (after.dropWhile isTransparent).head?.any joinsPrevious

/-- The character matters where it stands if it joins letters or keeps them apart. The last
character before it comes first. -/
def fits (before : List Char) (c : Char) (after : List Char) : Bool :=
  if c = joiner then endsSyllable before
  else if c = nonJoiner then endsSyllable before || wouldJoin before after
  else true

/-- Every character fits where it stands, after characters of which the last one comes first. -/
def allFit (before : List Char) : List Char → Bool
  | [] => true
  | c :: cs => fits before c cs && allFit (c :: before) cs

/-- The greatest number of characters of a label that is not ASCII. -/
def maxLength : Nat := 1000

/-- The characters are those of a label. The empty label is one. -/
def isValid (label : List Char) : Bool :=
  !label.head?.any isMark && allFit [] label && (label.all isAscii || label.length ≤ maxLength)

/-- The label is read in one direction, which its first character has. The directions of the last
character, marks aside, and of all others go with it, and digits of two kinds do not mix. -/
def hasDirection (label : List Char) : Bool :=
  match label.map direction with
  | [] => true
  | first :: rest =>
    let last := (rest.reverse.dropWhile (· == .mark)).head?
    match first with
    | .rightward =>
      last.all [.rightward, .digit].contains && !rest.any [.leftward, .arabicDigit].contains
    | .leftward =>
      last.all [.leftward, .digit, .arabicDigit].contains && !rest.contains .rightward &&
        !(rest.contains .digit && rest.contains .arabicDigit)
    | _ => false

/-- The name that consists of the labels has letters or digits that are read leftward. -/
def areLeftward (labels : List (List Char)) : Bool :=
  labels.any fun label => label.any fun c => [.leftward, .arabicDigit].contains (direction c)

/-- The mark of a label that is written in ASCII. -/
def asciiMark : List Char := "xn--".toList

/-- The greatest number of characters after the mark of a label that is written in ASCII. -/
def maxAscii : Nat := 2000

/-- The label that is written so, in ASCII or as itself. What is written in ASCII is not ASCII. -/
def ofChars? (cs : List Char) : Option (List Char) :=
  if asciiMark.isPrefixOf cs then
    let code := cs.drop asciiMark.length
    if code.length ≤ maxAscii then (decode? code).filter (!·.all isAscii) else none
  else some cs

def ascii (label : List Char) : List Char :=
  if label.all isAscii then label else asciiMark ++ encode label

end DiscountPolicy.Label
