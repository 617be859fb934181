import DiscountPolicy.Logging

/-! The configuration of a client: where the backend is, the token of the first session, and how to
log. It is read from named variables; what a script passes is read elsewhere, with the same
checks. -/

namespace DiscountPolicy

structure Config where
  apiUrl : String
  token : Option String := none
  log : LogSettings := {}
  deriving DecidableEq, Repr

namespace Config

/-- What is wrong with a configuration. -/
inductive Problem where
  /-- The variable with the address of the backend is missing or blank. -/
  | urlNotSet
  /-- A script passes no address of the backend. -/
  | urlNotFound
  /-- No log level is called or numbered so. -/
  | unknownLevel (text : String)
  /-- A switch is neither on nor off. -/
  | invalidFlag (text : String)
  /-- The address of the backend does not start with `http://` or `https://`. -/
  | notHttp (url : String)
  deriving DecidableEq, Repr

def urlVariable : String := "NEXT_PUBLIC_API_URL"

def tokenVariable : String := "TRADE_CENTER_TOKEN"

def levelVariable : String := "TRADE_CENTER_LOG"

def jsonVariable : String := "TRADE_CENTER_LOG_JSON"

def Problem.message : Problem → String
  | .urlNotSet => urlVariable ++ " is not set"
  | .urlNotFound => "api_url not found"
  | .unknownLevel text => "Unknown log level: " ++ text
  | .invalidFlag text => "Invalid flag value: " ++ text
  | .notHttp url => "api_url must start with http:// or https://, got '" ++ url ++ "'"

/-- The configuration for an address, with no token and the usual log settings. -/
def ofUrl (apiUrl : String) : Config := { apiUrl }

def startsWith (start s : String) : Bool := start.toList.isPrefixOf s.toList

def isHttp (url : String) : Bool := startsWith "http://" url || startsWith "https://" url

/-- The address of the backend has to be absolute. -/
def validate (c : Config) : Except Problem Unit :=
  if isHttp c.apiUrl then .ok () else .error (.notHttp c.apiUrl)

/-- The level that a text names or counts. -/
def readLevel (s : String) : Except Problem Level :=
  match Level.ofText? s with
  | some level => .ok level
  | none => .error (.unknownLevel s)

/-- The position of a switch. Blanks around the text and the case of letters do not matter, and an
empty text is off. -/
def readFlag (s : String) : Except Problem Bool :=
  let word := (Text.trim s).toLower
  if word ∈ ["1", "true", "yes", "on"] then .ok true
  else if word ∈ ["0", "false", "no", "off", ""] then .ok false
  else .error (.invalidFlag word)

/-- The token of a text; the empty text is none. -/
def readToken (s : String) : Option String := if s = "" then none else some s

/-- The configuration that variables hold. -/
def ofVariables (valueOf? : String → Option String) : Except Problem Config := do
  let apiUrl ← match (valueOf? urlVariable).map Text.trim with
    | some url => if url = "" then .error .urlNotSet else .ok url
    | none => .error .urlNotSet
  let token := (valueOf? tokenVariable).bind readToken
  let level ← match valueOf? levelVariable with
    | some s => readLevel s
    | none => .ok .warn
  let json ← match valueOf? jsonVariable with
    | some s => readFlag s
    | none => .ok false
  let config : Config := ⟨apiUrl, token, ⟨level, json⟩⟩
  config.validate
  return config

end Config

end DiscountPolicy
