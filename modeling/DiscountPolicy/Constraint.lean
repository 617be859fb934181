import DiscountPolicy.Predicate.Expression

/-! Typed constraints: what the forms for discounts and purchase policies fill in. Each checks its
own fields and becomes a leaf of a predicate. Words are accepted only if they come back as
themselves from an expression. -/

namespace DiscountPolicy

/-- A single condition on a purchase. -/
inductive Constraint where
  | age (least : UInt32)
  | time (startHour startMinute endHour endMinute : UInt32)
  | location (l : Location)
  | dayOfMonth (first last : UInt32)
  | dayOfWeek (first last : UInt32)
  | season (name : String)
  | holidaysOfCountry (code : String)
  | basket (measure : Measure) (min max : Double) (storeId : Scalar)
  | product (measure : Measure) (min max : Double) (productId storeId : Scalar)
  | category (measure : Measure) (min max : Double) (categoryId : Scalar)
  deriving DecidableEq, Repr

namespace Constraint

/-- The fields that messages name. -/
inductive Field where
  | age
  | startHour
  | startMinute
  | endHour
  | endMinute
  | startDay
  | endDay
  | countryCode
  | storeId
  | productId
  | categoryId
  deriving DecidableEq, Repr

def Field.name : Field → String
  | .age => "age"
  | .startHour => "start hour"
  | .startMinute => "start minute"
  | .endHour => "end hour"
  | .endMinute => "end minute"
  | .startDay => "start day"
  | .endDay => "end day"
  | .countryCode => "country code"
  | .storeId => "store id"
  | .productId => "product id"
  | .categoryId => "category id"

/-- What is wrong with a constraint. -/
inductive Violation where
  /-- A count lies outside its range. -/
  | outOfRange (field : Field) (low high value : UInt32)
  | boundNotFinite
  | negativeMinimum (min : FiniteDouble)
  | crossedBounds (min max : FiniteDouble)
  /-- The country of a location is blank. -/
  | noCountry
  | unknownSeason (name : String)
  /-- A country code is empty or holds something else than Latin letters. -/
  | invalidCountryCode (code : String)
  /-- A text is not exactly one word of an expression. -/
  | notOneWord (field : Field) (value : String)
  /-- A text is the name of an operator or of a tag. -/
  | keyword (field : Field) (value : String)
  /-- A text spells a number. -/
  | numeric (field : Field) (value : String)
  /-- An identifier is a floating-point number. -/
  | realId (field : Field)
  deriving DecidableEq, Repr

def Violation.message : Violation → String
  | .outOfRange field low high value =>
    field.name ++ " must be between " ++ intText low.toNat ++ " and " ++ intText high.toNat ++
      ", got " ++ intText value.toNat
  | .boundNotFinite => "bounds must be finite numbers"
  | .negativeMinimum min => "minimum must not be negative, got " ++ Layout.message.text min
  | .crossedBounds min max =>
    "minimum " ++ Layout.message.text min ++ " is greater than maximum " ++
      Layout.message.text max
  | .noCountry => "location requires a country"
  | .unknownSeason name => "unknown season: " ++ name
  | .invalidCountryCode code => "invalid country code: '" ++ code ++ "'"
  | .notOneWord field value => field.name ++ " must be a single word, got '" ++ value ++ "'"
  | .keyword field value => field.name ++ " must not be a keyword, got '" ++ value ++ "'"
  | .numeric field value =>
    field.name ++ " '" ++ value ++ "' looks numeric, pass it as a number"
  | .realId field => field.name ++ " must be an integer or a word"

def maxAge : UInt32 := 150

def seasons : List String := ["spring", "summer", "autumn", "fall", "winter"]

/-- The count lies between `low` and `high`. -/
def checkRange (field : Field) (low high value : UInt32) : Except Violation Unit :=
  if value < low ∨ high < value then .error (.outOfRange field low high value) else .ok ()

/-- The bounds are finite, and the lower one is neither negative nor above the upper one. -/
def checkBounds : Double → Double → Except Violation Unit
  | .finite min, .finite max =>
    if min.less (.zero false) then .error (.negativeMinimum min)
    else if max.less min then .error (.crossedBounds min max)
    else .ok ()
  | _, _ => .error .boundNotFinite

/-- The text holds no character that ends a word or that an expression drops. -/
def isOneWord (s : String) : Bool :=
  s ≠ "" && s.toList.all fun c => !(Text.isBlank c || c == ',' || c == '(' || c == ')')

/-- The text is one word of an expression that stands for itself. -/
def checkWord (field : Field) (s : String) : Except Violation Unit :=
  if !isOneWord s then .error (.notOneWord field s)
  else if isKeyword s then .error (.keyword field s)
  else match Scalar.ofWord s with
    | .text _ => .ok ()
    | _ => .error (.numeric field s)

/-- The identifier is an integer or a word that stands for itself. -/
def checkId (field : Field) : Scalar → Except Violation Unit
  | .integer _ => .ok ()
  | .real _ => .error (.realId field)
  | .text s => checkWord field s

def isLatinLetter (c : Char) : Bool := ('a' ≤ c && c ≤ 'z') || ('A' ≤ c && c ≤ 'Z')

/-- Checks the fields in their order; the first violation counts. -/
def validate : Constraint → Except Violation Unit
  | .age least => checkRange .age 0 maxAge least
  | .time startHour startMinute endHour endMinute => do
    checkRange .startHour 0 23 startHour
    checkRange .startMinute 0 59 startMinute
    checkRange .endHour 0 23 endHour
    checkRange .endMinute 0 59 endMinute
  | .location l => if Text.isBlankText l.country then .error .noCountry else .ok ()
  | .dayOfMonth first last => do
    checkRange .startDay 1 31 first
    checkRange .endDay first 31 last
  | .dayOfWeek first last => do
    checkRange .startDay 1 7 first
    checkRange .endDay first 7 last
  | .season name => if name ∈ seasons then .ok () else .error (.unknownSeason name)
  | .holidaysOfCountry code =>
    if code = "" ∨ !code.toList.all isLatinLetter then .error (.invalidCountryCode code)
    else checkWord .countryCode code
  | .basket _ min max storeId => do
    checkBounds min max
    checkId .storeId storeId
  | .product _ min max productId storeId => do
    checkBounds min max
    checkId .productId productId
    checkId .storeId storeId
  | .category _ min max categoryId => do
    checkBounds min max
    checkId .categoryId categoryId

def tag : Constraint → Tag
  | .age .. => .age
  | .time .. => .time
  | .location .. => .location
  | .dayOfMonth .. => .dayOfMonth
  | .dayOfWeek .. => .dayOfWeek
  | .season .. => .season
  | .holidaysOfCountry .. => .holidaysOfCountry
  | .basket measure .. => .bounds measure .basket
  | .product measure .. => .bounds measure .product
  | .category measure .. => .bounds measure .category

def count (n : UInt32) : Operand := .scalar (.integer (Int64.ofNat n.toNat))

/-- The operands of a constraint in the order in which its tag takes them. -/
def operands : Constraint → List Operand
  | .age least => [count least]
  | .time startHour startMinute endHour endMinute =>
    [count startHour, count startMinute, count endHour, count endMinute]
  | .location l => [.location l]
  | .dayOfMonth first last | .dayOfWeek first last => [count first, count last]
  | .season name => [.scalar (.text name)]
  | .holidaysOfCountry code => [.scalar (.text code)]
  | .basket _ min max storeId =>
    [.scalar (.number min), .scalar (.number max), .scalar storeId]
  | .product _ min max productId storeId =>
    [.scalar (.number min), .scalar (.number max), .scalar productId, .scalar storeId]
  | .category _ min max categoryId =>
    [.scalar (.number min), .scalar (.number max), .scalar categoryId]

/-- Constraints of one kind with equal fields. -/
def equal : Constraint → Constraint → Bool
  | .basket measure min max storeId, .basket measure' min' max' storeId' =>
    measure == measure' && min.equal min' && max.equal max' && storeId.equal storeId'
  | .product measure min max productId storeId, .product measure' min' max' productId' storeId' =>
    measure == measure' && min.equal min' && max.equal max' && productId.equal productId' &&
      storeId.equal storeId'
  | .category measure min max categoryId, .category measure' min' max' categoryId' =>
    measure == measure' && min.equal min' && max.equal max' && categoryId.equal categoryId'
  | c, d => c == d

/-- The leaf for a constraint whose fields pass. -/
def toPredicate (c : Constraint) : Except Violation Predicate := do
  c.validate
  return .leaf c.tag c.operands

end Constraint

end DiscountPolicy
