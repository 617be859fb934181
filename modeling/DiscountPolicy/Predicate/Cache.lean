import DiscountPolicy.Predicate.Expression

/-! A cache of expressions that were parsed. It holds at most 1024 of them, and is emptied before
one more would be put in. Texts without words and texts that do not parse are not kept.

Parsing through the cache takes two steps, between which others may change the cache: a look-up and,
after a miss, an insertion. -/

namespace DiscountPolicy

/-- Expressions and their predicates, the last one first. -/
structure Cache where
  entries : List (String × Predicate) := []
  deriving DecidableEq, Repr

namespace Cache

def capacity : Nat := 1024

def empty : Cache := {}

def size (c : Cache) : Nat := c.entries.length

def find? (c : Cache) (expression : String) : Option Predicate := c.entries.lookup expression

def contains (c : Cache) (expression : String) : Bool := (c.find? expression).isSome

/-- The cache with an expression. One that is there takes the new predicate and its place stays; any
other finds a full cache emptied. -/
def insert (c : Cache) (expression : String) (p : Predicate) : Cache :=
  if c.contains expression then
    ⟨c.entries.map fun e => if e.1 = expression then (expression, p) else e⟩
  else if capacity ≤ c.size then ⟨[(expression, p)]⟩
  else ⟨(expression, p) :: c.entries⟩

/-- What parsing puts into the cache. -/
def keep (c : Cache) (expression : String) :
    Except Expression.Defect (Option Predicate) → Cache
  | .ok (some p) => c.insert expression p
  | _ => c

/-- The predicate of an expression, from the cache if it is there, and the cache afterwards. -/
def parse (c : Cache) (expression : String) :
    Except Expression.Defect (Option Predicate) × Cache :=
  match c.find? expression with
  | some p => (.ok (some p), c)
  | none =>
    let parsed := Expression.parse expression
    (parsed, c.keep expression parsed)

end Cache

end DiscountPolicy
