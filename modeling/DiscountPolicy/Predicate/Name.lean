/-! The names in predicates: the operators that combine two predicates, and the tags of the single
constraints. Each has one name, and all names differ. -/

namespace DiscountPolicy

inductive Operator where
  | and
  | or
  | xor
  | implies
  deriving DecidableEq, Repr

namespace Operator

def name : Operator → String
  | .and => "and"
  | .or => "or"
  | .xor => "xor"
  | .implies => "implies"

def all : List Operator := [.and, .or, .xor, .implies]

def ofName? (s : String) : Option Operator := all.find? (·.name = s)

theorem ofName?_name (op : Operator) : ofName? op.name = some op := by
  cases op <;> decide

theorem name_of_ofName? {s : String} {op : Operator} (h : ofName? s = some op) : op.name = s := by
  simpa using List.find?_some h

theorem ofName?_eq_some_iff {s : String} {op : Operator} : ofName? s = some op ↔ s = op.name :=
  ⟨fun h => (name_of_ofName? h).symm, fun h => h ▸ ofName?_name op⟩

end Operator

/-- What the bounds of a constraint measure. -/
inductive Measure where
  | price
  | amount
  | weight
  deriving DecidableEq, Repr

def Measure.name : Measure → String
  | .price => "price"
  | .amount => "amount"
  | .weight => "weight"

/-- What the measure of a constraint is taken of. -/
inductive Scope where
  | basket
  | product
  | category
  deriving DecidableEq, Repr

def Scope.name : Scope → String
  | .basket => "basket"
  | .product => "product"
  | .category => "category"

/-- The kind of a single constraint. -/
inductive Tag where
  | age
  | time
  | location
  | dayOfMonth
  | dayOfWeek
  | season
  | holidaysOfCountry
  | bounds (measure : Measure) (scope : Scope)
  deriving DecidableEq, Repr

namespace Tag

def name : Tag → String
  | .age => "age"
  | .time => "time"
  | .location => "location"
  | .dayOfMonth => "day_of_month"
  | .dayOfWeek => "day_of_week"
  | .season => "season"
  | .holidaysOfCountry => "holidays_of_country"
  | .bounds measure scope => measure.name ++ "_" ++ scope.name

def all : List Tag :=
  [.age, .time, .location, .dayOfMonth, .dayOfWeek, .season, .holidaysOfCountry] ++
    [Measure.price, .amount, .weight].flatMap fun measure =>
      [Scope.basket, .product, .category].map (.bounds measure)

def ofName? (s : String) : Option Tag := all.find? (·.name = s)

theorem ofName?_name (tag : Tag) : ofName? tag.name = some tag := by
  cases tag with
  | bounds measure scope => cases measure <;> cases scope <;> decide
  | _ => decide

theorem name_of_ofName? {s : String} {tag : Tag} (h : ofName? s = some tag) : tag.name = s := by
  simpa using List.find?_some h

theorem ofName?_eq_some_iff {s : String} {tag : Tag} : ofName? s = some tag ↔ s = tag.name :=
  ⟨fun h => (name_of_ofName? h).symm, fun h => h ▸ ofName?_name tag⟩

end Tag

/-- The word is the name of an operator or of a tag. -/
def isKeyword (word : String) : Bool :=
  (Operator.ofName? word).isSome || (Tag.ofName? word).isSome

end DiscountPolicy
