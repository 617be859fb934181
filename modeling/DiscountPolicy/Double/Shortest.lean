import DiscountPolicy.Double.Basic

/-! The shortest decimal numeral that reads back as a given floating-point number.

Decimal numerals with `n` digits lie on a grid, and the number lies between two neighbours on it.
The grids are tried from one digit upwards. The first one with a neighbour that reads back gives the
numeral; of two such neighbours the nearer is taken. Seventeen digits are always enough; without a
hit the numeral would be the exact value. -/

namespace DiscountPolicy

/-- Which of two equally near neighbours is taken: the greater, or the even one. -/
inductive Tie where
  | up
  | even
  deriving DecidableEq, Repr

namespace FiniteDouble

/-- The place of the point in the number's digits: the magnitude `m` of a number other than zero has
`10 ^ (p - 1) ≤ m < 10 ^ p` for the result `p`. The least magnitude is above `10 ^ -324`. -/
def pointPlace (x : FiniteDouble) : Int :=
  (Nat.toDigits 10 (x.units * Nat.pow 10 324 / unitsInOne)).length - 324

/-- The magnitude in steps of `10 ^ exponent`, as a ratio. -/
def inSteps (x : FiniteDouble) (exponent : Int) : Nat × Nat :=
  if 0 ≤ exponent then (x.units, unitsInOne * Nat.pow 10 exponent.toNat)
  else (x.units * Nat.pow 10 (-exponent).toNat, unitsInOne)

/-- The coefficient and exponent read back as the magnitude of the number. -/
def readsBack (x : FiniteDouble) (coefficient : Nat) (exponent : Int) : Bool :=
  Double.ofDecimal ⟨false, coefficient, exponent⟩ = .finite { x with negative := false }

/-- The neighbour of the magnitude on the grid of the steps `10 ^ exponent` that reads back, and the
nearer one if both do. -/
def neighbour? (tie : Tie) (x : FiniteDouble) (exponent : Int) : Option Nat :=
  let (num, den) := x.inSteps exponent
  let low := num / den
  let r := num % den
  match x.readsBack low exponent, x.readsBack (low + 1) exponent with
  | true, true =>
    if 2 * r < den then some low
    else if den < 2 * r then some (low + 1)
    else match tie with
      | .up => some (low + 1)
      | .even => some (if low % 2 = 0 then low else low + 1)
  | true, false => some low
  | false, true => some (low + 1)
  | false, false => none

/-- The magnitude as an exact numeral: `2 ^ -1074` is `5 ^ 1074` steps of `10 ^ -1074`. -/
def exact (x : FiniteDouble) : Nat × Int := (x.units * Nat.pow 5 1074, -1074)

/-- A coefficient and an exponent for the magnitude, with as few digits as read back. -/
def shortest (tie : Tie) (x : FiniteDouble) : Nat × Int :=
  let p := x.pointPlace
  ((List.range 17).findSome? fun n =>
    let exponent := p - (n + 1 : Nat)
    (neighbour? tie x exponent).map (·, exponent)).getD x.exact

end FiniteDouble

end DiscountPolicy
