import DiscountPolicy.Session.Value

/-! The configuration that a script passes as a dictionary. -/

namespace DiscountPolicy.Config

/-- Turns a problem with a configuration into a fault of the call. -/
def orFault {α : Type} : Except Problem α → Except Fault α
  | .ok x => .ok x
  | .error p => .error (.failed (.config p))

/-- The configuration that the entries of a dictionary hold. They are read in the order of address,
token, level and switch, and the address is checked last. -/
def ofDict (entries : List (String × Value)) : Except Fault Config := do
  let apiUrl ← match entries.lookup "api_url" with
    | some v => v.toText
    | none => .error (.failed (.config .urlNotFound))
  let token ← match entries.lookup "token" with
    | some v => v.toOptionalText
    | none => .ok none
  let level ← match entries.lookup "log_level" with
    | some v => do orFault (readLevel (← v.toText))
    | none => .ok .warn
  let json ← match entries.lookup "log_json" with
    | some v => v.toBool
    | none => .ok false
  let config : Config := ⟨Text.trim apiUrl, token.bind readToken, ⟨level, json⟩⟩
  orFault config.validate
  return config

end DiscountPolicy.Config
