import DiscountPolicy.Text.Base64
import DiscountPolicy.Url

/-! Requests to a backend and its replies. A reply is the last one to its request: redirections are
followed, and provisional replies are skipped, below what is told here. -/

namespace DiscountPolicy

inductive Method where
  | get
  | post
  deriving DecidableEq, Repr

def Method.name : Method → String
  | .get => "GET"
  | .post => "POST"

/-- A request. Its credentials are in the order in which they are sent, and its body is a text of
structured data. -/
structure Request where
  method : Method
  url : Url
  authorization : List String
  body : Option String
  deriving DecidableEq, Repr

/-- The final reply to a request. -/
structure Reply where
  status : Nat
  body : String
  deriving DecidableEq, Repr

/-- How a backend replies to requests. None stands for a connection that fails or is closed without
a reply. -/
abbrev Backend := Request → Option Reply

/-- Who asks, as a credential of a request: the name and the password with a colon between them. -/
def Credentials.basic (c : Credentials) : String :=
  let bytes := Text.Utf8.encode (c.name ++ ':' :: c.password)
  "Basic " ++ String.ofList (Text.Base64.encode bytes)

namespace Request

/-- The server that the request goes to, with its port. -/
def host (r : Request) : String := String.ofList r.url.authority

/-- What is asked of the server. -/
def target (r : Request) : String := String.ofList r.url.target

def contentType (r : Request) : Option String := r.body.map fun _ => "application/json"

end Request

namespace Reply

/-- The reply whose body consists of bytes, which are read as UTF-8. -/
def ofBytes (status : Nat) (bytes : List UInt8) : Reply := ⟨status, Text.Utf8.decode bytes⟩

def isUnauthorized (r : Reply) : Bool := r.status = 401

def isSuccess (r : Reply) : Bool := 200 ≤ r.status && r.status < 300

end Reply

end DiscountPolicy
