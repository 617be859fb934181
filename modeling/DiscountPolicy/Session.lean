import DiscountPolicy.Predicate.Cache
import DiscountPolicy.Predicate.Render
import DiscountPolicy.Session.Config

/-! A session of a script: one client, which is replaced when a client is started again, and the
cache of parsed expressions. A call that fails leaves the client and its token as they were. -/

namespace DiscountPolicy

/-- What a session keeps between calls. -/
structure Session where
  client : Option Client := none
  stores : TokenStores := {}
  cache : Cache := {}
  deriving DecidableEq, Repr

/-- The functions that a script may call. -/
inductive Command where
  /-- The words of an expression. -/
  | words
  /-- The scalar that a word stands for. -/
  | scalar
  /-- The predicate of an expression, as nested lists. -/
  | parse
  /-- The predicate of an expression, as an expression in normal form. -/
  | render
  /-- Starts a client for a configuration. -/
  | start
  | hasClient
  | setToken
  /-- Attaches the predicate of an expression to a discount. -/
  | assign
  deriving DecidableEq, Repr

namespace Session

/-- What a call brings: its result, the session after it, and the request that it made. -/
structure Outcome where
  result : Except Fault Value
  session : Session
  request : Option Request := none

/-- The session as it is, with the result of a call that changes nothing. -/
def answer (s : Session) (result : Except Fault Value) : Outcome := { result, session := s }

/-- The predicate of an expression, through the cache. -/
def parsed (s : Session) (expression : String) : Except Fault (Option Predicate) × Session :=
  let (result, cache) := s.cache.parse expression
  match result with
  | .ok p => (.ok p, { s with cache })
  | .error d => (.error (.failed (.expression d)), { s with cache })

/-- The value of a predicate that may be missing. -/
def optional (value : Predicate → Value) : Option Predicate → Value
  | some p => value p
  | none => .nothing

/-- Parses an expression and shows the predicate. -/
def showParsed (s : Session) (value : Predicate → Value) (expression : String) : Outcome :=
  let (result, s) := s.parsed expression
  s.answer (result.map (optional value))

/-- Replaces the client by one for a configuration. -/
def start (s : Session) (config : Config) : Outcome :=
  match Client.start s.stores config with
  | .ok (client, stores) => { s with client := some client, stores }.answer (.ok .nothing)
  | .error p => s.answer (.error (.failed (.config p)))

def setToken (s : Session) (token : Option String) : Outcome :=
  match s.client with
  | some client => { s with stores := client.setToken s.stores token }.answer (.ok .nothing)
  | none => s.answer (.error .noClient)

/-- Parses an expression and attaches the predicate to a discount. -/
def assign (s : Session) (backend : Backend) (discountId storeId : Int64) (expression : String) :
    Outcome :=
  match s.client with
  | none => s.answer (.error .noClient)
  | some client =>
    match s.parsed expression with
    | (.error f, s) => s.answer (.error f)
    | (.ok none, s) => s.answer (.error (.failed .emptyExpression))
    | (.ok (some p), s) =>
      let exchange := client.assign s.stores backend discountId storeId p
      let result := match exchange.result with
        | .ok v => .ok (.text v.render)
        | .error f => .error (.failed (.client f))
      ⟨result, s, exchange.request⟩

/-- What a call does with arguments that may be of the wrong types. -/
def withArguments {α : Type} (s : Session) (arguments : Except Fault α) (run : α → Outcome) :
    Outcome :=
  match arguments with
  | .ok x => run x
  | .error f => s.answer (.error f)

/-- Calls a function with arguments. The arguments are read from left to right before the function
does anything. -/
def call (s : Session) (backend : Backend) : Command → List Value → Outcome
  | .words, [x] => s.withArguments x.toText fun e =>
    s.answer (.ok (.list ((Expression.words e).map .text)))
  | .scalar, [x] => s.withArguments x.toText fun word =>
    s.answer (.ok (Scalar.ofWord word).toValue)
  | .parse, [x] => s.withArguments x.toText (s.showParsed Predicate.toValue)
  | .render, [x] => s.withArguments x.toText (s.showParsed fun p => .text p.render)
  | .start, [x] => s.withArguments (do Config.ofDict (← x.toDict)) s.start
  | .hasClient, [] => s.answer (.ok (.bool s.client.isSome))
  | .setToken, [] => s.setToken none
  | .setToken, [x] => s.withArguments x.toOptionalText s.setToken
  | .assign, [x, y, z] =>
    s.withArguments (do return (← x.toInt64, ← y.toInt64, ← z.toText)) fun (d, st, e) =>
      s.assign backend d st e
  | _, _ => s.answer (.error .wrongType)

end Session

end DiscountPolicy
