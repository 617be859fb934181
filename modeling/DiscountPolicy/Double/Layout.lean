import DiscountPolicy.Double.Shortest

/-! Writing floating-point numbers: the shortest digits that read back, laid out with a point among
them or with an exponent. A `Layout` holds what the forms in use differ in. -/

namespace DiscountPolicy

/-- A way to lay out the digits of a number. -/
structure Layout where
  /-- The exponents of the first digit for which the number is written without an exponent. -/
  positional : Int → Bool
  /-- Whether a whole number that is written without an exponent ends in `.0`. -/
  pointZero : Bool
  /-- Whether an exponent that is not negative has a plus sign. -/
  plusSign : Bool
  /-- Which of two equally near shortest numerals is written. -/
  tie : Tie

namespace Layout

/-- Expressions: no exponent from `1e-4` up to `1e16`, and always a fraction or an exponent. -/
def expression : Layout := ⟨fun e => -4 ≤ e && e < 16, true, false, .up⟩

/-- Structured data: no exponent from `1e-5` up to `1e16`, a sign in every exponent, and always a
fraction or an exponent. -/
def data : Layout := ⟨fun e => -5 ≤ e && e < 16, true, true, .even⟩

/-- Messages: never an exponent, and no fraction in whole numbers. -/
def message : Layout := ⟨fun _ => true, false, false, .up⟩

/-- The digits with the point after the digit of exponent 0. -/
def place (layout : Layout) (digits : List Char) (exponent : Int) : List Char :=
  let ending := if layout.pointZero then ['.', '0'] else []
  if exponent < 0 then
    '0' :: '.' :: (List.replicate (-exponent - 1).toNat '0' ++ digits)
  else
    let whole := exponent.toNat + 1
    if digits.length ≤ whole then
      digits ++ List.replicate (whole - digits.length) '0' ++ ending
    else digits.take whole ++ '.' :: digits.drop whole

/-- The digits with the point after the first one, and the exponent of that digit. -/
def scale (layout : Layout) (digits : List Char) (exponent : Int) : List Char :=
  let mantissa := match digits with
    | [] => []
    | [d] => [d]
    | d :: ds => d :: '.' :: ds
  let sign := if layout.plusSign && 0 ≤ exponent then ['+'] else []
  mantissa ++ 'e' :: (sign ++ intChars exponent)

/-- The digits without the zeros at their end. -/
def significant (digits : List Char) : List Char :=
  (digits.reverse.dropWhile (· == '0')).reverse

/-- The digits of a coefficient, laid out for its power of ten. -/
def arrange (layout : Layout) (coefficient : Nat) (exponent : Int) : List Char :=
  let digits := Nat.toDigits 10 coefficient
  let first := exponent + digits.length - 1
  if layout.positional first then layout.place (significant digits) first
  else layout.scale (significant digits) first

/-- The text of a finite number. -/
def chars (layout : Layout) (x : FiniteDouble) : List Char :=
  (if x.negative then ['-'] else []) ++
    if x.isZero then '0' :: (if layout.pointZero then ['.', '0'] else [])
    else
      let shortest := x.shortest layout.tie
      layout.arrange shortest.1 shortest.2

def text (layout : Layout) (x : FiniteDouble) : String := String.ofList (layout.chars x)

end Layout

end DiscountPolicy
