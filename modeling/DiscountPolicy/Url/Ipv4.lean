import DiscountPolicy.Text.Hex

/-! Addresses of 32 bits. They are written as four decimal numbers, one for each byte. Reading also
takes octal and hexadecimal numbers, and fewer than four: the last number then stands for all the
bytes that are left. -/

namespace DiscountPolicy

structure Ipv4 where
  value : UInt32
  deriving DecidableEq, Repr

namespace Ipv4

open Text

/-- The number that a part spells: hexadecimal after `0x`, octal after another `0`, and decimal
otherwise. Only `0x` may be followed by nothing. -/
def number? : List Char → Option Nat
  | [] => none
  | '0' :: 'x' :: digits => if digits.all Hex.isDigit then some (Hex.natOfDigits digits) else none
  | '0' :: d :: digits =>
    if (d :: digits).all fun c => '0' ≤ c && c ≤ '7' then some (Nat.ofDigitChars 8 (d :: digits) 0)
    else none
  | digits => if digits.all Char.isDigit then some (Nat.ofDigitChars 10 digits 0) else none

/-- The parts without one empty part at their end. -/
def withoutFinalEmpty (parts : List (List Char)) : List (List Char) :=
  if parts.getLast? = some [] then parts.dropLast else parts

/-- The last part is a number or looks like one, so that the parts have to be an address. -/
def isMeant (parts : List (List Char)) : Bool :=
  match (withoutFinalEmpty parts).getLast? with
  | none | some [] => false
  | some part => part.all Char.isDigit || (number? part).isSome

/-- The address that parts spell: at most four numbers, all but the last one below 256, and the last
one small enough for the bytes that are left. -/
def ofParts? (parts : List (List Char)) : Option Ipv4 := do
  let numbers ← (withoutFinalEmpty parts).mapM number?
  let last ← numbers.getLast?
  let leading := numbers.dropLast
  let left := Nat.pow 256 (4 - leading.length)
  if leading.length < 4 ∧ leading.all (· < 256) ∧ last < left then
    some ⟨(leading.foldl (fun n byte => n * 256 + byte) 0 * left + last).toUInt32⟩
  else none

/-- The bytes of an address, the first one first. -/
def bytes (a : Ipv4) : List Nat :=
  let n := a.value.toNat
  [n / 0x1000000, n / 0x10000 % 0x100, n / 0x100 % 0x100, n % 0x100]

def chars (a : Ipv4) : List Char := ['.'].intercalate (a.bytes.map (Nat.toDigits 10))

end Ipv4

end DiscountPolicy
