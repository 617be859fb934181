/-! Labels of domain names in ASCII. The ASCII characters of a label come first; then numbers say
which characters were taken out of it, and where. The numbers follow the order in which the
characters go back: by code, and for one character from left to right. Each number is the distance
from the previous insertion, in steps through all positions of the text and then the next code. Its
digits have base 36, and a digit below the threshold of its place ends it. The thresholds follow a
bias, which is adapted to the size of the numbers. -/

namespace DiscountPolicy.Punycode

def isAscii (c : Char) : Bool := c.toNat < 0x80

/-- The digit for a number below 36: letters, then the ten decimal digits. -/
def digit (n : Nat) : Char :=
  if n < 26 then Char.ofNat ('a'.toNat + n) else Char.ofNat ('0'.toNat + (n - 26))

def value? (c : Char) : Option Nat :=
  if 'a' ≤ c ∧ c ≤ 'z' then some (c.toNat - 'a'.toNat)
  else if c.isDigit then some (c.toNat - '0'.toNat + 26)
  else none

/-- The threshold of a place: a digit below it is the last one of its number. -/
def threshold (bias place : Nat) : Nat := min 26 (max 1 (36 * (place + 1) - bias))

theorem one_le_threshold (bias place : Nat) : 1 ≤ threshold bias place := by
  unfold threshold
  omega

/-- The digits of a number, from a place on. -/
def digits (bias place n : Nat) : List Char :=
  let t := threshold bias place
  if n < t then [digit n]
  else digit (t + (n - t) % (36 - t)) :: digits bias (place + 1) ((n - t) / (36 - t))
termination_by n
decreasing_by
  have := one_le_threshold bias place
  have := Nat.div_le_self (n - threshold bias place) (36 - threshold bias place)
  omega

/-- The bias for numbers of a size. -/
def level (n : Nat) : Nat :=
  if n ≤ 455 then 36 * n / (n + 38) else 36 + level (n / 35)
termination_by n
decreasing_by omega

/-- Where the insertions have come to: the code and the position after the last one, the bias for
the next number, and whether there was none yet. -/
structure State where
  code : Nat
  position : Nat
  bias : Nat
  first : Bool

def State.start : State := ⟨0x80, 0, 72, true⟩

/-- The state after an insertion into a text of a length, which a number describes. -/
def State.next (s : State) (code position length number : Nat) : State :=
  let size := if s.first then number / 700 else number / 2
  ⟨code, position + 1, level (size + size / (length + 1)), false⟩

/-- A character that goes into a text: its code, its position, and the length of the text before
it. -/
structure Insertion where
  code : Nat
  position : Nat
  length : Nat

/-- The insertions that make the label from its ASCII characters. -/
def insertions (cs : List Char) : List Insertion :=
  let missing := cs.zipIdx.filter fun (c, _) => !isAscii c
  (missing.mergeSort fun a b => a.1 ≤ b.1).map fun (c, i) =>
    ⟨c.toNat, (cs.take i).countP (· ≤ c), cs.countP (· < c) + (cs.take i).count c⟩

/-- The digits of the numbers for insertions. -/
def writeFrom (s : State) : List Insertion → List Char
  | [] => []
  | i :: rest =>
    let number := (i.code - s.code) * (i.length + 1) + i.position - s.position
    digits s.bias 0 number ++ writeFrom (s.next i.code i.position i.length number) rest

/-- A label in ASCII. -/
def encode (cs : List Char) : List Char :=
  let ascii := cs.filter isAscii
  (if ascii = [] then [] else ascii ++ ['-']) ++ writeFrom .start (insertions cs)

/-- A label that is partly read: its characters so far, the state of the insertions, and of the
number that is being read its value, the weight of the next digit and its place. -/
structure Reader where
  label : List Char
  state : State
  number : Nat
  weight : Nat
  place : Nat

/-- One digit. The last digit of a number inserts a character. -/
def Reader.step (r : Reader) (c : Char) : Option Reader := do
  let d ← value? c
  let number := r.number + d * r.weight
  let t := threshold r.state.bias r.place
  if d < t then
    let length := r.label.length
    let steps := r.state.position + number
    let code := r.state.code + steps / (length + 1)
    let position := steps % (length + 1)
    if code.isValidChar then
      some ⟨r.label.insertIdx position (Char.ofNat code), r.state.next code position length number,
        0, 1, 0⟩
    else none
  else some { r with number, weight := r.weight * (36 - t), place := r.place + 1 }

/-- What stands before and after the last hyphen; nothing before it if there is none, or if it is
the first character. -/
def splitHyphen (cs : List Char) : List Char × List Char :=
  match (cs.reverse.dropWhile (· != '-')).drop 1 with
  | [] => ([], cs)
  | ascii => (ascii.reverse, cs.drop (ascii.length + 1))

/-- The label that is written so in ASCII; none if the digits are none, break off, or insert
something that is no character. -/
def decode? (cs : List Char) : Option (List Char) := do
  let (ascii, digits) := splitHyphen cs
  let r ← digits.foldlM Reader.step ⟨ascii, .start, 0, 1, 0⟩
  if r.place = 0 ∧ ascii.all isAscii then some r.label else none

end DiscountPolicy.Punycode
