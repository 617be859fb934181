import DiscountPolicy.Config
import DiscountPolicy.Http
import DiscountPolicy.Predicate.Wire
import DiscountPolicy.TokenStores

/-! The client of the marketplace backend. Every request carries the token that its store holds at
that moment, and every reply is classified by its status before its text is read. Requests do not
depend on each other. -/

namespace DiscountPolicy

/-- A client: where its backend is, and the store that its token comes from. -/
structure Client where
  baseUrl : String
  store : Nat
  deriving DecidableEq, Repr

namespace Client

/-- Why a request brings no data. -/
inductive Failure where
  /-- The address is none, or is too long. -/
  | invalidUrl
  | unsendableToken
  | noReply
  | unauthorized
  /-- Another status than one of success. -/
  | backend (status : Nat) (message : String)
  /-- The text of a reply is no structured data. -/
  | notData
  deriving DecidableEq, Repr

def withoutFinalSlashes (url : String) : String :=
  String.ofList (url.toList.reverse.dropWhile (· == '/')).reverse

/-- A client for a configuration, with a new store for its token. What connects it to its backend is
taken to be there: setting it up does not fail. -/
def start (stores : TokenStores) (config : Config) :
    Except Config.Problem (Client × TokenStores) := do
  config.validate
  return (⟨withoutFinalSlashes config.apiUrl, stores.size⟩, stores.create config.token)

/-- A client for the same backend that shares the token. -/
def twin (c : Client) (stores : TokenStores) : Client × TokenStores :=
  ({ c with store := stores.size }, stores.share c.store)

def token (c : Client) (stores : TokenStores) : Option String := stores.get c.store

def setToken (c : Client) (stores : TokenStores) (token : Option String) : TokenStores :=
  stores.put c.store token

/-- The address of a path, with one slash between the base and the path. -/
def url (c : Client) (path : String) : String :=
  c.baseUrl ++ "/" ++ String.ofList (path.toList.dropWhile (· == '/'))

/-- The character may stand in a header field: a tab, or no control character. -/
def isHeaderChar (c : Char) : Bool := c == '\t' || (0x20 ≤ c.toNat && c.toNat != 0x7F)

/-- A token as the credential of a request; none if a request cannot carry it. -/
def bearer? (token : String) : Option String :=
  if token.toList.all isHeaderChar then some ("Bearer " ++ token) else none

/-- The greatest number of characters of an address that can be sent. -/
def maxUrl : Nat := 65534

def sendable? (url : String) : Option Url :=
  (Url.ofText? url).filter (·.chars.length ≤ maxUrl)

/-- The credential of the token of the moment, if there is one. -/
def bearer (c : Client) (stores : TokenStores) : Except Failure (Option String) :=
  match c.token stores with
  | none => .ok none
  | some token =>
    match bearer? token with
    | some credential => .ok (some credential)
    | none => .error .unsendableToken

/-- The request for a path with the token of the moment. What the address says of who asks is sent
before the token. -/
def request (c : Client) (stores : TokenStores) (method : Method) (path : String)
    (body : Option Json) : Except Failure Request :=
  match sendable? (c.url path) with
  | none => .error .invalidUrl
  | some url => do
    let bearer ← c.bearer stores
    return {
      method, url
      authorization := (url.credentials.map Credentials.basic).toList ++ bearer.toList
      body := body.map Json.render }

/-- The greatest number of characters that are kept of a text as a message. -/
def maxMessage : Nat := 512

/-- The keys whose texts serve as messages, the preferred one first. -/
def messageKeys : List String := ["message", "error", "detail"]

/-- The text under the first of the message keys that has one. -/
def messageField? (members : List (String × Json)) : Option String :=
  messageKeys.findSome? fun key =>
    match Json.member? key members with
    | some (.text s) => some s
    | _ => none

/-- The message of a text that comes with a status of failure: a text under one of the message keys
if the text is an object, and otherwise the start of the text itself. -/
def backendMessage (body : String) : String :=
  let start := String.ofList ((Text.trimChars body.toList).take maxMessage)
  match Json.ofText? body with
  | some (.object members) => (messageField? members).getD start
  | _ => start

/-- What a reply brings. -/
def classify (reply : Reply) : Except Failure Json :=
  if reply.isUnauthorized then .error .unauthorized
  else if !reply.isSuccess then .error (.backend reply.status (backendMessage reply.body))
  else if Text.isBlankText reply.body then .ok .null
  else match Json.ofText? reply.body with
    | some v => .ok v
    | none => .error .notData

/-- A request that was made, if one was, and what came of it. -/
structure Exchange where
  request : Option Request
  result : Except Failure Json

/-- Makes a request and classifies the final reply to it. -/
def send (c : Client) (stores : TokenStores) (backend : Backend) (method : Method) (path : String)
    (body : Option Json) : Exchange :=
  match c.request stores method path body with
  | .error f => ⟨none, .error f⟩
  | .ok r =>
    match backend r with
    | none => ⟨some r, .error .noReply⟩
    | some reply => ⟨some r, classify reply⟩

def get (c : Client) (stores : TokenStores) (backend : Backend) (path : String) : Exchange :=
  c.send stores backend .get path none

def post (c : Client) (stores : TokenStores) (backend : Backend) (path : String) (body : Json) :
    Exchange :=
  c.send stores backend .post path (some body)

/-- The path that attaches a predicate to a discount. -/
def assignPath : String := "/store/assign_predicate_to_discount"

/-- What is posted to attach a predicate to a discount. -/
def assignment (discountId storeId : Int64) (p : Predicate) : Json :=
  .object [("discount_id", .ofInt64 discountId), ("store_id", .ofInt64 storeId),
    ("predicate_builder", p.payload)]

def assign (c : Client) (stores : TokenStores) (backend : Backend) (discountId storeId : Int64)
    (p : Predicate) : Exchange :=
  c.post stores backend assignPath (assignment discountId storeId p)

end Client

end DiscountPolicy
