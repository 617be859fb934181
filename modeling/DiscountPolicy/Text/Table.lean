/-! Tables of characters: sets of characters as ranges of codes, and texts that belong to single
characters. All tables are those of Unicode 17, with characters and directions that Unicode 18
brings. -/

namespace DiscountPolicy.Text

/-- The code of the character lies in one of the ranges. -/
def inRanges (ranges : List (Nat × Nat)) (c : Char) : Bool :=
  ranges.any fun (first, last) => first ≤ c.toNat && c.toNat ≤ last

/-- Texts of characters at equal distances: the text at the place `i` belongs to the character with
the code `first + i * stride`. -/
structure Run where
  first : Nat
  stride : Nat
  texts : Array (List Char)

namespace Run

/-- The run of the texts that stand between spaces. -/
def ofText (first stride : Nat) (texts : String) : Run :=
  ⟨first, stride, (texts.toList.splitOn ' ').toArray⟩

/-- The text of a character. -/
def text? (r : Run) (c : Char) : Option (List Char) :=
  let distance := c.toNat - r.first
  if r.first ≤ c.toNat ∧ distance % r.stride = 0 then r.texts[distance / r.stride]? else none

/-- The character of a text. -/
def char? (r : Run) (text : List Char) : Option Char :=
  (r.texts.findIdx? (· == text)).map fun i => Char.ofNat (r.first + i * r.stride)

end Run

/-- The text of a character in one of the runs. -/
def textIn? (runs : List Run) (c : Char) : Option (List Char) := runs.findSome? (·.text? c)

/-- The character of a text in one of the runs. -/
def charIn? (runs : List Run) (text : List Char) : Option Char := runs.findSome? (·.char? text)

end DiscountPolicy.Text
