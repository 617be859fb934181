import DiscountPolicy.Double.Layout
import DiscountPolicy.Json.Basic

/-! The text of numbers in structured data.

A numeral without a fraction and an exponent is a whole number if 64 bits hold it. Any other numeral
is read in floating-point arithmetic: the leading digits that 64 bits hold are rounded to the
nearest number, and that number is multiplied or divided by the nearest number to a power of ten,
which rounds once more. -/

namespace DiscountPolicy.Number

/-- The text of a number: the digits of a whole number, or the shortest digits of a floating-point
number, which keep a fraction or an exponent. -/
def chars : Number → List Char
  | .whole n _ => intChars n
  | .real x => Layout.data.chars x

/-- The leading digits whose number 64 bits hold, after a number that is read already, and the
digits that are left. -/
def leading (n : Nat) : List Char → Nat × List Char
  | [] => (n, [])
  | d :: ds =>
    let next := n * 10 + (d.toNat - '0'.toNat)
    if next < 0x10000000000000000 then leading next ds else (n, d :: ds)

/-- The nearest number to `10 ^ exponent`. -/
def power (exponent : Nat) : FiniteDouble := .ofNat (Nat.pow 10 exponent)

/-- The number divided by the nearest number to `10 ^ exponent`, in steps of at most
`10 ^ 308`. -/
def scaleDown (x : FiniteDouble) (exponent : Nat) : FiniteDouble :=
  if exponent ≤ 308 then x.div (power exponent)
  else if x.isZero then x
  else scaleDown (x.div (power 308)) (exponent - 308)
  termination_by exponent

/-- The number times the nearest number to `10 ^ exponent`; none past the largest magnitude. -/
def scaleUp? (x : FiniteDouble) (exponent : Nat) : Option FiniteDouble :=
  if exponent ≤ 308 then x.mul? (power exponent)
  else if x.isZero then some x
  else none

/-- The number `significand * 10 ^ exponent` with a sign, in floating-point arithmetic; none past
the largest magnitude. -/
def scaled? (negative : Bool) (significand : Nat) (exponent : Int) : Option Number :=
  let x := FiniteDouble.ofNat significand
  let magnitude? :=
    if 0 ≤ exponent then scaleUp? x exponent.toNat else some (scaleDown x (-exponent).toNat)
  magnitude?.map fun m => .real { m with negative }

/-- The number for the digits before and after the point and an exponent. -/
def real? (negative : Bool) (before fraction : List Char) (exponent : Int) : Option Number :=
  let (significand, dropped) := leading 0 before
  let (significand, unread) := leading significand fraction
  scaled? negative significand (exponent + dropped.length - (fraction.length - unread.length : Nat))

/-- The number for the digits of a numeral without a fraction and an exponent. -/
def whole? (negative : Bool) (digits : List Char) : Option Number :=
  let n : Int := Decimal.natOfDigits digits
  if h : negative = false ∧ FitsWord n then some (.whole n h.2)
  else if h : negative = true ∧ n ≠ 0 ∧ FitsWord (-n) then some (.whole (-n) h.2.2)
  else real? negative digits [] 0

/-- Digits that may stand before the point: at least one, and no zero in front of others. -/
def isWholePart (digits : List Char) : Bool :=
  digits ≠ [] && (digits.length = 1 || digits.head? ≠ some '0')

/-- The number that a text spells: a minus sign that may be missing, the digits of a whole number
without a needless zero, then a point with digits after it and an exponent, each of which may be
missing. -/
def ofChars? (cs : List Char) : Option Number :=
  let (negative, body) := match cs with
    | '-' :: rest => (true, rest)
    | _ => (false, cs)
  let before := body.takeWhile Char.isDigit
  if !isWholePart before then none
  else match body.dropWhile Char.isDigit with
    | [] => whole? negative before
    | '.' :: rest =>
      let fraction := rest.takeWhile Char.isDigit
      if fraction = [] then none
      else (Decimal.exponent? (rest.dropWhile Char.isDigit)).bind (real? negative before fraction)
    | rest => (Decimal.exponent? rest).bind (real? negative before [])

end DiscountPolicy.Number
