import DiscountPolicy.Text.Hex
import DiscountPolicy.Text.Utf8

/-! Percent escapes in addresses. A character that may not stand in a part of an address is written
as its UTF-8 bytes, each as a percent sign and two hexadecimal digits. Writing leaves percent signs
alone, so escapes that the text holds already are kept. -/

namespace DiscountPolicy.Percent

open Text

/-- The character is printable ASCII and none of the given ones. -/
def isPlain (escaped : List Char) (c : Char) : Bool :=
  0x20 ≤ c.toNat && c.toNat < 0x7F && c ∉ escaped

/-- A byte as a percent sign and two digits. -/
def escapeByte (b : UInt8) : List Char := '%' :: Hex.upperByte b

/-- A character as it is written where the given characters are escaped. -/
def escapeChar (escaped : List Char) (c : Char) : List Char :=
  if isPlain escaped c then [c] else (Utf8.encode [c]).flatMap escapeByte

/-- A text in which the given characters, the control characters and all that is not ASCII are
escaped. -/
def escape (escaped : List Char) (cs : List Char) : List Char := cs.flatMap (escapeChar escaped)

/-- The bytes of a text in which each escape stands for its byte. A percent sign that starts no
escape stands for itself. -/
def bytes : List Char → List UInt8
  | [] => []
  | '%' :: a :: b :: rest =>
    match Hex.digit? a, Hex.digit? b with
    | some high, some low => (high * 16 + low).toUInt8 :: bytes rest
    | _, _ => Utf8.encode ['%'] ++ bytes (a :: b :: rest)
  | c :: rest => Utf8.encode [c] ++ bytes rest

/-- The text whose escapes are resolved; none if the bytes are no UTF-8. -/
def unescape? (cs : List Char) : Option (List Char) := Utf8.decode? (bytes cs)

end DiscountPolicy.Percent
