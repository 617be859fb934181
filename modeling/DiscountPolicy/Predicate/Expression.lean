import DiscountPolicy.Predicate.Basic
import DiscountPolicy.Text.Blank

/-! Expressions: predicates as users type them. Parentheses are for the reader alone. What counts is
the sequence of words, which blanks and commas separate: an operator is followed by its two parts,
and a tag by its operands, which end where the next name stands. -/

namespace DiscountPolicy.Expression

/-! ### Words -/

def isParenthesis (c : Char) : Bool := c == '(' || c == ')'

def isSeparator (c : Char) : Bool := Text.isBlank c || c == ','

/-- The words of a text: its parentheses are taken away, and the rest is split at separators. -/
def wordsOf (cs : List Char) : List (List Char) :=
  ((cs.filter (!isParenthesis ·)).splitOnP isSeparator).filter (!·.isEmpty)

def words (s : String) : List String := (wordsOf s.toList).map String.ofList

/-! ### Trees -/

/-- The greatest number of operators that a node may lie inside. -/
def maxNesting : Nat := 64

/-- What keeps words from being a predicate. -/
inductive Defect where
  /-- A word stands where a name has to stand. -/
  | notName (word : String) (position : Nat)
  /-- Nothing follows an operator. -/
  | noOperands (op : Operator) (position : Nat)
  /-- Nothing follows the first part of an operator. -/
  | noSecondOperand (op : Operator) (position : Nat)
  /-- The operators are nested too deeply. -/
  | tooDeep
  deriving DecidableEq, Repr

def Defect.message : Defect → String
  | .notName word position =>
    "'" ++ word ++ "' at position " ++ intText position ++ " is not a constraint or operator"
  | .noOperands op position =>
    "'" ++ op.name ++ "' at position " ++ intText position ++ " has no operands"
  | .noSecondOperand op position =>
    "'" ++ op.name ++ "' at position " ++ intText position ++ " is missing its second operand"
  | .tooDeep => "Nesting deeper than " ++ intText maxNesting ++ " levels"

/-- A word with its position among all words, counted from 0. -/
abbrev Placed := String × Nat

/-- The predicate that starts with a given word, and the words after it that do not belong to it.
`levels` is the number of levels of the tree that are still allowed. -/
def readTree (levels : Nat) (first : Placed) (rest : List Placed) :
    Except Defect (Predicate × List Placed) :=
  match levels with
  | 0 => .error .tooDeep
  | levels + 1 =>
    match Operator.ofName? first.1 with
    | some op =>
      match rest with
      | [] => .error (.noOperands op first.2)
      | second :: rest => do
        let (left, unread) ← readTree levels second rest
        match unread with
        | [] => .error (.noSecondOperand op first.2)
        | third :: rest => do
          let (right, unread) ← readTree levels third rest
          return (.composite op left right, unread)
    | none =>
      match Tag.ofName? first.1 with
      | some tag =>
        let operands := rest.takeWhile (!isKeyword ·.1)
        .ok (.leaf tag (operands.map fun w => .scalar (.ofWord w.1)),
          rest.dropWhile (!isKeyword ·.1))
      | none => .error (.notName first.1 first.2)

/-- A predicate that words spell, the number of words that belong to it, and the number of all
words. -/
structure Reading where
  predicate : Predicate
  consumed : Nat
  total : Nat
  deriving DecidableEq, Repr

/-- The numbers of words read and of all words, if words are left over. -/
def Reading.ignored? (r : Reading) : Option (Nat × Nat) :=
  if r.consumed < r.total then some (r.consumed, r.total) else none

/-- The predicate that words spell from the first one on; none if there are no words. -/
def build (words : List String) : Except Defect (Option Reading) :=
  match words.zipIdx with
  | [] => .ok none
  | first :: rest => do
    let (predicate, unread) ← readTree (maxNesting + 1) first rest
    return some ⟨predicate, words.length - unread.length, words.length⟩

/-- The predicate that a text spells, with the count of its words; none for a text without words. -/
def read (s : String) : Except Defect (Option Reading) := build (words s)

/-- The predicate that a text spells; none for a text without words. -/
def parse (s : String) : Except Defect (Option Predicate) := do
  return (← read s).map (·.predicate)

end DiscountPolicy.Expression
