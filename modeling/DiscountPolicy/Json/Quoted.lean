import DiscountPolicy.Text.Hex

/-! Quoted texts in structured data. Inside the quotes a backslash starts an escape; a quote, a
backslash and the characters below the space are written with one. Reading also takes the escapes
that writing does not use; a character outside the first 65536 may be spelled by the two code units
of its surrogate pair, and a code unit of a pair that stands alone is refused. -/

namespace DiscountPolicy.Quoted

/-- The letter of the two-character escape for a character, if there is one that is used. -/
def letter? (c : Char) : Option Char :=
  match c.toNat with
  | 0x22 => some '"'
  | 0x5C => some '\\'
  | 0x08 => some 'b'
  | 0x09 => some 't'
  | 0x0A => some 'n'
  | 0x0C => some 'f'
  | 0x0D => some 'r'
  | _ => none

/-- A character as it is written between quotes. -/
def escapeChar (c : Char) : List Char :=
  match letter? c with
  | some l => ['\\', l]
  | none =>
    if c.toNat < 0x20 then
      ['\\', 'u', '0', '0', Nat.digitChar (c.toNat / 16), Nat.digitChar (c.toNat % 16)]
    else [c]

def escape (cs : List Char) : List Char := cs.flatMap escapeChar

def chars (s : String) : List Char := '"' :: (escape s.toList ++ ['"'])

/-- What stands before the quote that ends a text, as it is written, and what follows that quote.
None if no quote ends it. -/
def splitQuote : List Char → Option (List Char × List Char)
  | [] => none
  | '"' :: rest => some ([], rest)
  | '\\' :: c :: rest => (splitQuote rest).map fun (raw, rest) => ('\\' :: c :: raw, rest)
  | c :: rest => (splitQuote rest).map fun (raw, rest) => (c :: raw, rest)

theorem length_splitQuote_lt {cs raw rest : List Char} (h : splitQuote cs = some (raw, rest)) :
    rest.length < cs.length := by
  fun_induction splitQuote cs generalizing raw <;>
    simp only [Option.map_eq_some_iff, Option.some.injEq, Prod.mk.injEq, reduceCtorEq] at h
  case case2 => simp [h.2]
  all_goals
    rename_i ih
    obtain ⟨⟨_, _⟩, hq, _, rfl⟩ := h
    have := ih hq
    simp only [List.length_cons] at *
    omega

/-- The code unit that four hexadecimal digits spell. -/
def codeUnit? (a b c d : Char) : Option Nat := do
  let high := (← Text.Hex.digit? a) * 16 + (← Text.Hex.digit? b)
  let low := (← Text.Hex.digit? c) * 16 + (← Text.Hex.digit? d)
  return high * 256 + low

/-- The character of a two-character escape. -/
def ofLetter? : Char → Option Char
  | '"' => some '"'
  | '\\' => some '\\'
  | '/' => some '/'
  | 'b' => some (Char.ofNat 0x08)
  | 't' => some (Char.ofNat 0x09)
  | 'n' => some (Char.ofNat 0x0A)
  | 'f' => some (Char.ofNat 0x0C)
  | 'r' => some (Char.ofNat 0x0D)
  | _ => none

/-- The code unit is the first of a surrogate pair. -/
def isHighSurrogate (u : Nat) : Bool := 0xD800 ≤ u && u ≤ 0xDBFF

/-- The code unit is the second of a surrogate pair. -/
def isLowSurrogate (u : Nat) : Bool := 0xDC00 ≤ u && u ≤ 0xDFFF

/-- The character of a surrogate pair. -/
def ofPair (high low : Nat) : Char :=
  Char.ofNat (0x10000 + (high - 0xD800) * 0x400 + (low - 0xDC00))

/-- The text that is written as the given characters between quotes; none for an unknown or broken
escape and for a bare character below the space. A first code unit of a pair waits in `high` for the
second one. -/
def unescapeFrom (high : Option Nat) : List Char → Option (List Char)
  | [] => if high.isSome then none else some []
  | '\\' :: 'u' :: a :: b :: c :: d :: rest =>
    match codeUnit? a b c d, high with
    | none, _ => none
    | some u, some h =>
      if isLowSurrogate u then (unescapeFrom none rest).map (ofPair h u :: ·) else none
    | some u, none =>
      if isHighSurrogate u then unescapeFrom (some u) rest
      else if isLowSurrogate u then none
      else (unescapeFrom none rest).map (Char.ofNat u :: ·)
  | '\\' :: l :: rest =>
    if high.isSome then none
    else (ofLetter? l).bind fun c => (unescapeFrom none rest).map (c :: ·)
  | c :: rest =>
    if high.isSome || c == '\\' || c.toNat < 0x20 then none
    else (unescapeFrom none rest).map (c :: ·)

def unescape? (raw : List Char) : Option String := (unescapeFrom none raw).map String.ofList

end DiscountPolicy.Quoted
