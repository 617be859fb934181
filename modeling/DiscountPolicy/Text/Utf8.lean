/-! Text as UTF-8 bytes, and bytes as text. When some of the bytes may be no UTF-8, each longest run
of bytes that starts a character without completing it, and each byte that starts none, is read as
one U+FFFD; the strict reading refuses such bytes. -/

namespace DiscountPolicy.Text.Utf8

/-- A character that is partly read: the bits so far, the number of bytes that are still owed, and
the least and the greatest value that the next byte may have. -/
structure Pending where
  bits : Nat
  owed : Nat
  low : Nat
  high : Nat
  deriving DecidableEq, Repr

/-- What a byte between two characters begins. -/
inductive Lead where
  | whole (c : Char)
  | first (p : Pending)
  | invalid
  deriving DecidableEq, Repr

/-- The character that a byte between two characters is or begins. -/
def lead (b : Nat) : Lead :=
  if b ≤ 0x7F then .whole (Char.ofNat b)
  else if b < 0xC2 then .invalid
  else if b ≤ 0xDF then .first ⟨b - 0xC0, 1, 0x80, 0xBF⟩
  else if b = 0xE0 then .first ⟨0, 2, 0xA0, 0xBF⟩
  else if b = 0xED then .first ⟨0xD, 2, 0x80, 0x9F⟩
  else if b ≤ 0xEF then .first ⟨b - 0xE0, 2, 0x80, 0xBF⟩
  else if b = 0xF0 then .first ⟨0, 3, 0x90, 0xBF⟩
  else if b ≤ 0xF3 then .first ⟨b - 0xF0, 3, 0x80, 0xBF⟩
  else if b = 0xF4 then .first ⟨4, 3, 0x80, 0x8F⟩
  else .invalid

/-- The character that stands for bytes that are no UTF-8. -/
def replacement : Char := Char.ofNat 0xFFFD

/-- A byte between two characters: the characters that it completes and the character that it
begins. -/
def start (b : Nat) : List Char × Option Pending :=
  match lead b with
  | .whole c => ([c], none)
  | .first p => ([], some p)
  | .invalid => ([replacement], none)

/-- One byte: the characters that it completes and the character that is then partly read. A byte
that does not continue a partly read character closes it and is read anew. -/
def step (pending : Option Pending) (b : Nat) : List Char × Option Pending :=
  match pending with
  | none => start b
  | some p =>
    if p.low ≤ b ∧ b ≤ p.high then
      let bits := p.bits * 64 + (b - 0x80)
      if p.owed = 1 then ([Char.ofNat bits], none)
      else ([], some ⟨bits, p.owed - 1, 0x80, 0xBF⟩)
    else
      let (cs, next) := start b
      (replacement :: cs, next)

/-- The characters of the bytes that follow a partly read character. -/
def decodeFrom : Option Pending → List UInt8 → List Char
  | none, [] => []
  | some _, [] => [replacement]
  | pending, b :: bs =>
    let (cs, next) := step pending b.toNat
    cs ++ decodeFrom next bs

/-- The text of the bytes, with U+FFFD for what is no UTF-8. -/
def decode (bytes : List UInt8) : String := String.ofList (decodeFrom none bytes)

/-- The bytes of a text. -/
def encode (cs : List Char) : List UInt8 := cs.flatMap String.utf8EncodeChar

/-- The text of the bytes; none if they are no UTF-8. A byte that is read as U+FFFD is not the byte
that is written for it, so the bytes are those of a text exactly if they come back. -/
def decode? (bytes : List UInt8) : Option (List Char) :=
  let cs := decodeFrom none bytes
  if encode cs = bytes then some cs else none

end DiscountPolicy.Text.Utf8
