/-! Hexadecimal digits: read in either case, written in the case that a format asks for. -/

namespace DiscountPolicy.Text.Hex

/-- The value of a hexadecimal digit, in either case. -/
def digit? (c : Char) : Option Nat :=
  if c.isDigit then some (c.toNat - '0'.toNat)
  else if 'a' ≤ c ∧ c ≤ 'f' then some (c.toNat - 'a'.toNat + 10)
  else if 'A' ≤ c ∧ c ≤ 'F' then some (c.toNat - 'A'.toNat + 10)
  else none

/-- The character is a hexadecimal digit. -/
def isDigit (c : Char) : Bool := (digit? c).isSome

/-- The number that a run of digits spells. A character that is no digit counts as zero. -/
def natOfDigits (digits : List Char) : Nat :=
  digits.foldl (fun n c => n * 16 + (digit? c).getD 0) 0

theorem digit?_digitChar {n : Nat} (h : n < 16) : digit? (Nat.digitChar n) = some n := by
  have all : ∀ m ∈ List.range 16, digit? (Nat.digitChar m) = some m := by decide
  exact all n (List.mem_range.mpr h)

theorem digit?_toUpper_digitChar {n : Nat} (h : n < 16) :
    digit? (Nat.digitChar n).toUpper = some n := by
  have all : ∀ m ∈ List.range 16, digit? (Nat.digitChar m).toUpper = some m := by decide
  exact all n (List.mem_range.mpr h)

/-- A byte as two digits, in upper case. -/
def upperByte (b : UInt8) : List Char :=
  [(Nat.digitChar (b.toNat / 16)).toUpper, (Nat.digitChar (b.toNat % 16)).toUpper]

end DiscountPolicy.Text.Hex
