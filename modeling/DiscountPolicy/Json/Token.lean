import DiscountPolicy.Json.Number
import DiscountPolicy.Json.Quoted

/-! The tokens of structured data: what a text of it consists of, apart from blanks between the
tokens. Writing spells the tokens one after the other; reading takes a text apart into them. -/

namespace DiscountPolicy.Json

inductive Token where
  | openArray
  | closeArray
  | openObject
  | closeObject
  | comma
  | colon
  | null
  | bool (b : Bool)
  | number (n : Number)
  | text (s : String)
  deriving DecidableEq, Repr

namespace Token

def chars : Token → List Char
  | .openArray => ['[']
  | .closeArray => [']']
  | .openObject => ['\x7b']
  | .closeObject => ['\x7d']
  | .comma => [',']
  | .colon => [':']
  | .null => ['n', 'u', 'l', 'l']
  | .bool true => ['t', 'r', 'u', 'e']
  | .bool false => ['f', 'a', 'l', 's', 'e']
  | .number n => n.chars
  | .text s => Quoted.chars s

def isSpace (c : Char) : Bool := c == ' ' || c == '\t' || c == '\n' || c == '\r'

/-- The character may occur in a number. -/
def isNumberChar (c : Char) : Bool :=
  c.isDigit || c == '-' || c == '+' || c == '.' || c == 'e' || c == 'E'

/-- The token that starts a text and what follows it. A number takes all characters that may occur
in numbers, since none of them can follow one. -/
def first? : List Char → Option (Token × List Char)
  | [] => none
  | '[' :: rest => some (.openArray, rest)
  | ']' :: rest => some (.closeArray, rest)
  | '\x7b' :: rest => some (.openObject, rest)
  | '\x7d' :: rest => some (.closeObject, rest)
  | ',' :: rest => some (.comma, rest)
  | ':' :: rest => some (.colon, rest)
  | 'n' :: 'u' :: 'l' :: 'l' :: rest => some (.null, rest)
  | 't' :: 'r' :: 'u' :: 'e' :: rest => some (.bool true, rest)
  | 'f' :: 'a' :: 'l' :: 's' :: 'e' :: rest => some (.bool false, rest)
  | '"' :: rest =>
    match Quoted.splitQuote rest with
    | some (raw, rest) => (Quoted.unescape? raw).map fun s => (.text s, rest)
    | none => none
  | c :: rest =>
    if isNumberChar c then
      (Number.ofChars? (c :: rest.takeWhile isNumberChar)).map fun n =>
        (.number n, rest.dropWhile isNumberChar)
    else none

theorem length_first?_lt {cs rest : List Char} {t : Token} (h : first? cs = some (t, rest)) :
    rest.length < cs.length := by
  unfold first? at h
  split at h
  case h_11 rest' =>
    split at h
    next raw rest'' hq =>
      have := Quoted.length_splitQuote_lt hq
      simp only [Option.map_eq_some_iff, Prod.mk.injEq] at h
      obtain ⟨_, _, _, rfl⟩ := h
      simp only [List.length_cons]
      omega
    next => simp at h
  case h_12 c rest' _ _ _ _ _ _ _ _ _ _ =>
    split at h
    next =>
      simp only [Option.map_eq_some_iff, Prod.mk.injEq] at h
      obtain ⟨_, _, _, rfl⟩ := h
      exact Nat.lt_succ_of_le (List.dropWhile_sublist _).length_le
    next => simp at h
  all_goals simp_all
  all_goals (obtain ⟨_, rfl⟩ := h; omega)

/-- The tokens of a text; none if a part of it is no token. -/
def ofChars? (cs : List Char) : Option (List Token) :=
  match cs with
  | [] => some []
  | c :: rest =>
    if isSpace c then ofChars? rest
    else match _h : first? (c :: rest) with
      | none => none
      | some (t, rest') => (ofChars? rest').map (t :: ·)
  termination_by cs.length
  decreasing_by
    · exact Nat.lt_succ_self _
    · exact length_first?_lt _h

end Token

end DiscountPolicy.Json
