import DiscountPolicy.Decimal

/-! Binary floating-point numbers with a significand of 53 bits and an exponent range down to
`2 ^ -1074`: their values, the nearest one to a rational number, and their order.

The finite magnitudes are counted from zero upwards, and a finite number is a sign with the rank of
its magnitude. Every magnitude is a whole number of units of `2 ^ -1074`: the `2 ^ 53` lowest ranks
lie one unit apart, and the distance doubles after each further `2 ^ 52` ranks. The rank is also the
number that the exponent and fraction bits of the number spell. -/

namespace DiscountPolicy

/-- The number of ranks between one doubling of their distance and the next: `2 ^ 52`. -/
def binade : Nat := 0x10000000000000

/-- The number of finite magnitudes. -/
def magnitudes : Nat := 2047 * binade

/-- A finite floating-point number: a sign, and the rank of the magnitude. -/
structure FiniteDouble where
  negative : Bool
  rank : Nat
  rank_lt : rank < magnitudes := by decide
  deriving DecidableEq, Repr

inductive Double where
  | finite (x : FiniteDouble)
  | infinite (negative : Bool)
  | nan
  deriving DecidableEq, Repr

/-- The whole number nearest to `num / den`, and the even one of two that are equally near. -/
def roundHalfEven (num den : Nat) : Nat :=
  let q := num / den
  let r := num % den
  if 2 * r < den ∨ (2 * r = den ∧ q % 2 = 0) then q else q + 1

/-- How often the distance between ranks has doubled below a rank. -/
def doublings (rank : Nat) : Nat := rank / binade - 1

/-- The magnitude of a rank, in units of `2 ^ -1074`. -/
def unitsOfRank (rank : Nat) : Nat :=
  (rank - doublings rank * binade) * Nat.pow 2 (doublings rank)

/-- The rank nearest to a magnitude of `num / den` units, and the even one of two that are equally
near. -/
def nearestRank (num den : Nat) : Nat :=
  let s := (num / den).log2 - 52
  s * binade + roundHalfEven num (den * Nat.pow 2 s)

/-- Units of `2 ^ -1074` in one. -/
def unitsInOne : Nat := Nat.pow 2 1074

namespace FiniteDouble

def zero (negative : Bool) : FiniteDouble := ⟨negative, 0, by decide⟩

/-- The magnitude in units of `2 ^ -1074`. -/
def units (x : FiniteDouble) : Nat := unitsOfRank x.rank

def isZero (x : FiniteDouble) : Bool := x.rank = 0

/-- The number of this sign that is nearest to the magnitude `num / den`; none if that rounds past
the largest magnitude. -/
def ofRatio? (negative : Bool) (num den : Nat) : Option FiniteDouble :=
  let rank := nearestRank (num * unitsInOne) den
  if h : rank < magnitudes then some ⟨negative, rank, h⟩ else none

/-- The number of this sign that is nearest to the magnitude `num / den`, and the largest magnitude
if that rounds past it. -/
def clampRatio (negative : Bool) (num den : Nat) : FiniteDouble :=
  ⟨negative, min (nearestRank (num * unitsInOne) den) (magnitudes - 1),
    Nat.lt_of_le_of_lt (Nat.min_le_right _ _) (by decide)⟩

/-- The number nearest to `n`, and the largest one if `n` lies past it. -/
def ofNat (n : Nat) : FiniteDouble := clampRatio false n 1

/-- The rank, negated for negative numbers. Zero and minus zero are both at 0, and the order of
these places is the order of the values. -/
def place (x : FiniteDouble) : Int := if x.negative then -(x.rank : Int) else x.rank

def less (x y : FiniteDouble) : Bool := x.place < y.place

/-- The product of two numbers, rounded; none if it rounds past the largest magnitude. -/
def mul? (x y : FiniteDouble) : Option FiniteDouble :=
  ofRatio? (x.negative != y.negative) (x.units * y.units) (unitsInOne * unitsInOne)

/-- The quotient of two numbers, rounded, and the largest magnitude if it rounds past it. -/
def div (x y : FiniteDouble) : FiniteDouble :=
  clampRatio (x.negative != y.negative) x.units y.units

/-- The whole number that is the value, for a number without a fraction. -/
def whole? (x : FiniteDouble) : Option Int :=
  if x.units % unitsInOne = 0 then
    let n : Int := (x.units / unitsInOne : Nat)
    some (if x.negative then -n else n)
  else none

/-- The 64-bit integer that is the value, for a number that is whole and below `2 ^ 63` in
magnitude. -/
def toInt64? (x : FiniteDouble) : Option Int64 :=
  (x.whole?.filter (·.natAbs < 0x8000000000000000)).map Int64.ofInt

/-- The 64 bits of the number: the sign bit above those of the rank. -/
def bits (x : FiniteDouble) : Nat := (if x.negative then 0x8000000000000000 else 0) + x.rank

end FiniteDouble

namespace Double

/-- Whether two numbers compare as equal: not-a-number is equal to nothing, and zero to minus
zero. -/
def equal : Double → Double → Bool
  | .finite x, .finite y => x.place == y.place
  | .infinite a, .infinite b => a == b
  | _, _ => false

/-- The 64 bits of the number. The bits of infinity follow those of the largest magnitude. -/
def bits : Double → Nat
  | .finite x => x.bits
  | .infinite negative => (if negative then 0x8000000000000000 else 0) + magnitudes
  | .nan => magnitudes + binade / 2

/-- The nearest number to `num / den` with this sign, infinite past the largest magnitude. -/
def ofRatio (negative : Bool) (num den : Nat) : Double :=
  (FiniteDouble.ofRatio? negative num den).elim (.infinite negative) .finite

/-- The nearest number to a numeral. A numeral that is far above the largest magnitude or far below
the least one is not written out as a ratio. -/
def ofDecimal (d : Decimal) : Double :=
  if d.coefficient = 0 then .finite (.zero d.negative)
  else if 400 < d.exponent then .infinite d.negative
  else if d.exponent + (d.coefficient.log2 + 1) < -400 then .finite (.zero d.negative)
  else if 0 ≤ d.exponent then ofRatio d.negative (d.coefficient * Nat.pow 10 d.exponent.toNat) 1
  else ofRatio d.negative d.coefficient (Nat.pow 10 (-d.exponent).toNat)

/-- The words for the numbers that are not finite, in any case, after a sign. -/
def ofWord? (negative : Bool) (cs : List Char) : Option Double :=
  let word := String.ofList (cs.map Char.toLower)
  if word = "inf" ∨ word = "infinity" then some (.infinite negative)
  else if word = "nan" then some .nan
  else none

/-- The number that a text spells: the one nearest to a decimal numeral, or a word for infinity or
for not-a-number. -/
def ofChars? (cs : List Char) : Option Double :=
  match Decimal.ofChars? cs with
  | some d => some (ofDecimal d)
  | none =>
    let (negative, word) := Decimal.splitSign cs
    ofWord? negative word

def ofText? (s : String) : Option Double := ofChars? s.toList

end Double

end DiscountPolicy
