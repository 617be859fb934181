import DiscountPolicy.Text.Hex

/-! Addresses of 128 bits, as eight groups of 16 bits. They are written as hexadecimal numbers
between colons; two colons in a row stand for a run of zeros. Reading also takes four decimal
numbers between points in the place of the last two groups. -/

namespace DiscountPolicy

structure Ipv6 where
  groups : List UInt16
  length_groups : groups.length = 8
  deriving DecidableEq, Repr

namespace Ipv6

open Text

/-- The group that one to four hexadecimal digits spell. -/
def group? (cs : List Char) : Option UInt16 :=
  if cs ≠ [] ∧ cs.length ≤ 4 ∧ cs.all Hex.isDigit then some (Hex.natOfDigits cs).toUInt16
  else none

/-- The number below 256 that decimal digits spell. Zero does not start a longer number. -/
def byte? (cs : List Char) : Option Nat :=
  let n := Nat.ofDigitChars 10 cs 0
  if cs.all Char.isDigit ∧ Nat.toDigits 10 n = cs ∧ n < 256 then some n else none

/-- The two groups that four numbers between points spell. -/
def quad? (cs : List Char) : Option (List UInt16) := do
  match ← (cs.splitOn '.').mapM byte? with
  | [a, b, c, d] => some [(a * 256 + b).toUInt16, (c * 256 + d).toUInt16]
  | _ => none

/-- The groups that parts spell. Only the last part may be four numbers between points. -/
def ofParts? : List (List Char) → Option (List UInt16)
  | [] => some []
  | [part] => ((group? part).map fun g => [g]) <|> quad? part
  | part :: parts => do return (← group? part) :: (← ofParts? parts)

/-- The groups of a text between colons; the empty text has none. -/
def groups? (cs : List Char) : Option (List UInt16) :=
  if cs = [] then some [] else ofParts? (cs.splitOn ':')

/-- What stands before and after the first two colons in a row. -/
def splitGap : List Char → Option (List Char × List Char)
  | ':' :: ':' :: rest => some ([], rest)
  | c :: rest => (splitGap rest).map fun (before, after) => (c :: before, after)
  | [] => none

/-- The groups of a text with their run of zeros, which is of one group at least. The groups before
the run are hexadecimal. -/
def allGroups? (cs : List Char) : Option (List UInt16) := do
  match splitGap cs with
  | none => groups? cs
  | some (before, after) =>
    let front ← if before = [] then some [] else (before.splitOn ':').mapM group?
    let back ← groups? after
    if front.length + back.length < 8 then
      some (front ++ List.replicate (8 - front.length - back.length) 0 ++ back)
    else none

def ofChars? (cs : List Char) : Option Ipv6 := do
  let groups ← allGroups? cs
  if h : groups.length = 8 then some ⟨groups, h⟩ else none

def zeros (groups : List UInt16) : Nat := (groups.takeWhile (· == 0)).length

/-- The start and the length of the longest run of zeros, the first one of equals. -/
def longestZeros : List UInt16 → Nat × Nat
  | [] => (0, 0)
  | g :: groups =>
    let (start, length) := longestZeros groups
    let here := zeros (g :: groups)
    if length ≤ here then (0, here) else (start + 1, length)

/-- Groups as they are written between colons. -/
def groupChars (groups : List UInt16) : List Char :=
  [':'].intercalate (groups.map fun g => Nat.toDigits 16 g.toNat)

/-- An address as it is written. The longest run of zeros is left out if it has more than one. -/
def chars (a : Ipv6) : List Char :=
  let (start, length) := longestZeros a.groups
  if length < 2 then groupChars a.groups
  else groupChars (a.groups.take start) ++ [':', ':'] ++ groupChars (a.groups.drop (start + length))

end Ipv6

end DiscountPolicy
