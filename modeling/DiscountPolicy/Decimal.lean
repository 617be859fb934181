/-! Decimal numerals: the value of a run of digits, the reading of whole numbers, and the reading
of numerals with a fraction and an exponent. A numeral denotes a coefficient times a power of ten,
and keeps its sign apart, so that minus zero is told from zero. -/

namespace DiscountPolicy

/-- The numeral for `coefficient * 10 ^ exponent`, or for its negation. -/
structure Decimal where
  negative : Bool
  coefficient : Nat
  exponent : Int
  deriving DecidableEq, Repr

namespace Decimal

/-- The number that a run of digits spells. -/
def natOfDigits (digits : List Char) : Nat := Nat.ofDigitChars 10 digits 0

@[simp] theorem natOfDigits_toDigits (n : Nat) : natOfDigits (Nat.toDigits 10 n) = n :=
  Nat.ofDigitChars_toDigits (by decide) (by decide)

/-- Whether a minus sign starts the text, and what follows a sign of either kind. -/
def splitSign : List Char → Bool × List Char
  | '+' :: cs => (false, cs)
  | '-' :: cs => (true, cs)
  | cs => (false, cs)

/-- The number spelled by a text that holds digits, at least one, and nothing else. -/
def nat? (cs : List Char) : Option Nat :=
  if cs ≠ [] ∧ cs.all Char.isDigit then some (natOfDigits cs) else none

/-- The number spelled by digits, at least one, after a sign that may be missing. -/
def int? (cs : List Char) : Option Int :=
  let (negative, digits) := splitSign cs
  (nat? digits).map fun n => if negative then -(n : Int) else n

/-- The digits after a point that starts the text, and what follows them; no digits when no point
starts it. -/
def splitFraction : List Char → List Char × List Char
  | '.' :: cs => (cs.takeWhile Char.isDigit, cs.dropWhile Char.isDigit)
  | cs => ([], cs)

/-- The exponent that a text spells: 0 for the empty text, and otherwise the number after the mark
`e` or `E`. -/
def exponent? : List Char → Option Int
  | [] => some 0
  | c :: cs => if c = 'e' ∨ c = 'E' then int? cs else none

/-- The numeral that a text spells: a sign that may be missing, digits with a point that may stand
before, between or after them, and an exponent that may be missing. -/
def ofChars? (cs : List Char) : Option Decimal :=
  let (negative, body) := splitSign cs
  let whole := body.takeWhile Char.isDigit
  let (fraction, rest) := splitFraction (body.dropWhile Char.isDigit)
  if whole ++ fraction = [] then none
  else (exponent? rest).map fun e =>
    ⟨negative, natOfDigits (whole ++ fraction), e - fraction.length⟩

end Decimal

/-- The whole number as a 64-bit integer; none if it lies below `-2 ^ 63` or not below `2 ^ 63`. -/
def int64? (n : Int) : Option Int64 :=
  if -0x8000000000000000 ≤ n ∧ n < 0x8000000000000000 then some (Int64.ofInt n) else none

theorem int64?_toInt (m : Int64) : int64? m.toInt = some m := by
  have low := m.le_toInt
  have high := m.toInt_lt
  rw [int64?, if_pos ⟨by omega, by omega⟩, Int64.ofInt_toInt]

theorem toInt_of_int64? {n : Int} {m : Int64} (h : int64? n = some m) : m.toInt = n := by
  rw [int64?] at h
  split at h
  · next fits =>
    cases h
    exact Int64.toInt_ofInt_of_le (by omega) (by omega)
  · cases h

/-- The 64-bit integer that a text spells: a sign that may be missing, then digits, at least one,
whose number fits. -/
def int64OfText? (s : String) : Option Int64 := (Decimal.int? s.toList).bind int64?

/-- The digits of a whole number, after a minus sign if it is negative. -/
def intChars (n : Int) : List Char :=
  if n < 0 then '-' :: Nat.toDigits 10 n.natAbs else Nat.toDigits 10 n.natAbs

def intText (n : Int) : String := String.ofList (intChars n)

end DiscountPolicy
