import DiscountPolicy.Url.Percent

/-! Paths in addresses: segments between slashes, where a backslash counts as a slash. A segment of
one dot stands for the place where it is, and a segment of two dots for the place above; a path that
ends with either ends with a slash. -/

namespace DiscountPolicy.Path

/-- The character divides segments. -/
def isSlash (c : Char) : Bool := c == '/' || c == '\\'

/-- The ASCII characters that are escaped in a segment. -/
def escaped : List Char := " \"#<>?`\x7b\x7d".toList

/-- What a segment stands for. -/
inductive Step where
  | here
  | up
  | down (segment : List Char)
  deriving DecidableEq, Repr

/-- The spellings of the segment of one dot, in lower case. -/
def oneDot : List String := [".", "%2e"]

/-- The spellings of the segment of two dots, in lower case. -/
def twoDots : List String := ["..", ".%2e", "%2e.", "%2e%2e"]

/-- What a segment stands for, which is a name unless it consists of one or two dots. -/
def Step.ofSegment (cs : List Char) : Step :=
  let word := String.ofList (cs.map Char.toLower)
  if word ∈ oneDot then .here
  else if word ∈ twoDots then .up
  else .down (Percent.escape escaped cs)

/-- The segment is the name of a drive: a letter and a mark. No step up leaves a drive. -/
def isDrive : List Char → Bool
  | [c, mark] => c.isAlpha && (mark == ':' || mark == '|')
  | _ => false

/-- The segments of a path after a step, the last one first. Nothing is above the first one. -/
def walk (path : List (List Char)) : Step → List (List Char)
  | .here => path
  | .down segment => segment :: path
  | .up =>
    match path with
    | [] => []
    | segment :: above => if isDrive segment then segment :: above else above

/-- The steps, followed by one into an empty segment if the last one leads into none. -/
def close (steps : List Step) : List Step :=
  match steps.getLast? with
  | some .here | some .up => steps ++ [.down []]
  | _ => steps

/-- The segments that a text without its first slash leads to. -/
def segments (cs : List Char) : List (List Char) :=
  ((close ((cs.splitOnP isSlash).map Step.ofSegment)).foldl walk []).reverse

/-- The path that a text leads to. It starts with a slash, which the text may leave out. -/
def ofChars (cs : List Char) : List Char :=
  let body := match cs with
    | c :: rest => if isSlash c then rest else cs
    | [] => []
  '/' :: ['/'].intercalate (segments body)

end DiscountPolicy.Path
