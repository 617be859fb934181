import DiscountPolicy.Session
import DiscountPolicy.Proofs.Cache.Accounting
import DiscountPolicy.Proofs.Client

/-! What a call does in a session. Starting a client replaces the client, setting a token changes what
its store holds, and every other call, like every one that fails, changes at most the cache. -/

namespace DiscountPolicy

/-! ### Configurations of scripts -/

namespace Config

theorem orFault_eq_ok_iff {α : Type} {x : Except Problem α} {a : α} :
    orFault x = .ok a ↔ x = .ok a := by
  cases x with
  | error p => simp [orFault]
  | ok b => simp [orFault]

theorem orFault_ok {α : Type} (a : α) : orFault (.ok a) = .ok a := rfl

theorem orFault_bind {α β : Type} (x : Except Problem α) (f : α → Except Problem β) :
    orFault (x >>= f) = (orFault x >>= fun a => orFault (f a)) := by
  cases x with
  | error p => rfl
  | ok a => rfl

/-- What a dictionary holds under a key, as it is read, or what stands for a missing entry. -/
def entry {α : Type} (entries : List (String × Value)) (key : String)
    (read : Value → Except Fault α) (missing : Except Fault α) : Except Fault α :=
  (entries.lookup key).elim missing read

theorem ofDict_eq (entries : List (String × Value)) :
    ofDict entries = (do
      let apiUrl ← entry entries "api_url" Value.toText (.error (.failed (.config .urlNotFound)))
      let token ← entry entries "token" Value.toOptionalText (.ok none)
      let level ← entry entries "log_level" (fun v => do orFault (readLevel (← v.toText))) (.ok .warn)
      let json ← entry entries "log_json" Value.toBool (.ok false)
      let config : Config := ⟨Text.trim apiUrl, token.bind readToken, ⟨level, json⟩⟩
      orFault config.validate
      return config) := by
  unfold ofDict entry
  cases entries.lookup "api_url" <;> cases entries.lookup "token" <;>
    cases entries.lookup "log_level" <;> cases entries.lookup "log_json" <;>
      simp only [Option.elim, bind_assoc]

/-- A configuration that a script passes is checked. -/
theorem validate_of_ofDict {entries : List (String × Value)} {config : Config}
    (h : ofDict entries = .ok config) : config.validate = .ok () := by
  rw [ofDict_eq] at h
  obtain ⟨apiUrl, -, h⟩ := bind_eq_ok_iff.mp h
  obtain ⟨token, -, h⟩ := bind_eq_ok_iff.mp h
  obtain ⟨level, -, h⟩ := bind_eq_ok_iff.mp h
  obtain ⟨json, -, h⟩ := bind_eq_ok_iff.mp h
  obtain ⟨hvalid, hconfig⟩ := check_bind_eq_ok_iff.mp h
  obtain rfl := Except.ok.inj hconfig
  exact orFault_eq_ok_iff.mp hvalid

end Config

namespace Session

/-! ### Calls -/

/-- A call of a function with arguments, and how the backend replies. -/
structure Call where
  command : Command
  arguments : List Value
  backend : Backend

namespace Call

/-- The configuration of a client that the call starts. -/
def config? (call : Call) : Option Config :=
  match call.command, call.arguments with
  | .start, [x] => (do Config.ofDict (← x.toDict)).toOption
  | _, _ => none

/-- What the call makes the token of a client, if it sets or clears it. -/
def newToken? (call : Call) : Option (Option String) :=
  match call.command, call.arguments with
  | .setToken, [] => some none
  | .setToken, [x] => x.toOptionalText.toOption
  | _, _ => none

end Call

def perform (s : Session) (call : Call) : Outcome := s.call call.backend call.command call.arguments

def run (calls : List Call) : Session := calls.foldl (fun s call => (s.perform call).session) {}

/-- The outcome leaves the client and the tokens as they are, and of the cache what it needs to be
sound. -/
structure Outcome.Keeps (o : Outcome) (s : Session) : Prop where
  client : o.session.client = s.client
  stores : o.session.stores = s.stores
  sound : s.cache.Sound → o.session.cache.Sound

variable {s : Session}

theorem keeps_answer (s : Session) (result : Except Fault Value) : (s.answer result).Keeps s :=
  ⟨rfl, rfl, id⟩

theorem keeps_withArguments {α : Type} {arguments : Except Fault α} {run : α → Outcome}
    (h : ∀ x, (run x).Keeps s) : (s.withArguments arguments run).Keeps s := by
  cases arguments with
  | error f => exact s.keeps_answer _
  | ok x => exact h x

theorem parsed_eq (s : Session) (e : String) :
    s.parsed e = ((s.cache.parse e).1.mapError (.failed ∘ .expression),
      { s with cache := (s.cache.parse e).2 }) := by
  rw [parsed]
  rcases s.cache.parse e with ⟨d | p, cache⟩
  · rfl
  · rfl

theorem keeps_showParsed (s : Session) (value : Predicate → Value) (e : String) :
    (s.showParsed value e).Keeps s := by
  rw [showParsed, parsed_eq]
  exact ⟨rfl, rfl, fun h => h.parse_snd e⟩

theorem keeps_assign (s : Session) (backend : Backend) (discountId storeId : Int64) (e : String) :
    (s.assign backend discountId storeId e).Keeps s := by
  rw [assign, parsed_eq]
  split
  · exact s.keeps_answer _
  · rcases (s.cache.parse e).1 with d | _ | p
    · exact ⟨rfl, rfl, fun h => h.parse_snd e⟩
    · exact ⟨rfl, rfl, fun h => h.parse_snd e⟩
    · exact ⟨rfl, rfl, fun h => h.parse_snd e⟩

/-- Starting a client and setting a token are all that changes more than the cache. -/
theorem keeps_call (s : Session) (backend : Backend) {command : Command} (arguments : List Value)
    (hstart : command ≠ .start) (hset : command ≠ .setToken) :
    (s.call backend command arguments).Keeps s := by
  unfold call
  split
  · exact keeps_withArguments fun e => s.keeps_answer _
  · exact keeps_withArguments fun word => s.keeps_answer _
  · exact keeps_withArguments fun e => s.keeps_showParsed _ e
  · exact keeps_withArguments fun e => s.keeps_showParsed _ e
  · exact absurd rfl hstart
  · exact s.keeps_answer _
  · exact absurd rfl hset
  · exact absurd rfl hset
  · exact keeps_withArguments fun x => s.keeps_assign backend x.1 x.2.1 x.2.2
  · exact s.keeps_answer _

/-! ### What a call does -/

theorem Call.config?_of_ne {call : Call} (h : call.command ≠ .start) : call.config? = none := by
  rw [config?]
  split
  · next x hcommand _ => exact absurd hcommand h
  · rfl

theorem Call.newToken?_of_ne {call : Call} (h : call.command ≠ .setToken) :
    call.newToken? = none := by
  rw [newToken?]
  split
  · next hcommand _ => exact absurd hcommand h
  · next x hcommand _ => exact absurd hcommand h
  · rfl

theorem start_eq (s : Session) {config : Config} (h : config.validate = .ok ()) :
    s.start config =
      { s with
        client := some ⟨Client.withoutFinalSlashes config.apiUrl, s.stores.size⟩
        stores := s.stores.create config.token }.answer (.ok .nothing) := by
  rw [start, Client.start_eq_ok_iff.mpr ⟨h, rfl, rfl⟩]

theorem setToken_cases (s : Session) (token : Option String) :
    (s.client = none ∧ s.setToken token = s.answer (.error .noClient)) ∨
    ∃ c, s.client = some c ∧
      s.setToken token = { s with stores := c.setToken s.stores token }.answer (.ok .nothing) := by
  rw [setToken]
  cases s.client with
  | none => exact .inl ⟨rfl, rfl⟩
  | some c => exact .inr ⟨c, rfl, rfl⟩

theorem perform_start (s : Session) {call : Call} (hcommand : call.command = .start) :
    (∃ config, call.config? = some config ∧ config.validate = .ok () ∧
      s.perform call = s.start config) ∨
    (call.config? = none ∧ ∃ f, s.perform call = s.answer (.error f)) := by
  obtain ⟨command, arguments, backend⟩ := call
  subst hcommand
  match arguments with
  | [] => exact .inr ⟨rfl, _, rfl⟩
  | _ :: _ :: _ => exact .inr ⟨rfl, _, rfl⟩
  | [x] =>
    cases hread : (do Config.ofDict (← x.toDict)) with
    | error f =>
      refine .inr ⟨?_, f, ?_⟩
      · exact congrArg Except.toOption hread
      · rw [perform, call, hread]
        rfl
    | ok config =>
      obtain ⟨entries, -, hdict⟩ := bind_eq_ok_iff.mp hread
      refine .inl ⟨config, ?_, Config.validate_of_ofDict hdict, ?_⟩
      · exact congrArg Except.toOption hread
      · rw [perform, call, hread]
        rfl

theorem perform_setToken (s : Session) {call : Call} (hcommand : call.command = .setToken) :
    (∃ token, call.newToken? = some token ∧ s.perform call = s.setToken token) ∨
    (call.newToken? = none ∧ ∃ f, s.perform call = s.answer (.error f)) := by
  obtain ⟨command, arguments, backend⟩ := call
  subst hcommand
  match arguments with
  | [] => exact .inl ⟨none, rfl, rfl⟩
  | _ :: _ :: _ => exact .inr ⟨rfl, _, rfl⟩
  | [x] =>
    cases hread : x.toOptionalText with
    | error f =>
      refine .inr ⟨?_, f, ?_⟩
      · exact congrArg Except.toOption hread
      · rw [perform, call, hread]
        rfl
    | ok token =>
      refine .inl ⟨token, ?_, ?_⟩
      · exact congrArg Except.toOption hread
      · rw [perform, call, hread]
        rfl

/-- All that a call can do to a session. Starting and setting that do not succeed fail. -/
theorem perform_cases (s : Session) (call : Call) :
    (∃ config, call.config? = some config ∧ s.perform call =
      { s with
        client := some ⟨Client.withoutFinalSlashes config.apiUrl, s.stores.size⟩
        stores := s.stores.create config.token }.answer (.ok .nothing)) ∨
    (call.config? = none ∧ ∃ token c, call.newToken? = some token ∧ s.client = some c ∧
      s.perform call = { s with stores := c.setToken s.stores token }.answer (.ok .nothing)) ∨
    (call.config? = none ∧ (call.newToken? = none ∨ s.client = none) ∧ (s.perform call).Keeps s ∧
      (call.command = .start ∨ call.command = .setToken →
        ∃ f, (s.perform call).result = .error f)) := by
  by_cases hstart : call.command = .start
  · rcases s.perform_start hstart with ⟨config, hconfig, hvalid, h⟩ | ⟨hconfig, f, h⟩
    · rw [h, s.start_eq hvalid]
      exact .inl ⟨config, hconfig, rfl⟩
    · have hset : call.newToken? = none := Call.newToken?_of_ne (by rw [hstart]; decide)
      rw [h]
      exact .inr (.inr ⟨hconfig, .inl hset, s.keeps_answer _, fun _ => ⟨f, rfl⟩⟩)
  have hconfig := Call.config?_of_ne hstart
  by_cases hset : call.command = .setToken
  · rcases s.perform_setToken hset with ⟨token, htoken, h⟩ | ⟨htoken, f, h⟩
    · rw [h]
      rcases s.setToken_cases token with ⟨hnone, hfails⟩ | ⟨c, hc, hsets⟩
      · rw [hfails]
        exact .inr (.inr ⟨hconfig, .inr hnone, s.keeps_answer _, fun _ => ⟨_, rfl⟩⟩)
      · rw [hsets]
        exact .inr (.inl ⟨hconfig, token, c, htoken, hc, rfl⟩)
    · rw [h]
      exact .inr (.inr ⟨hconfig, .inl htoken, s.keeps_answer _, fun _ => ⟨f, rfl⟩⟩)
  · refine .inr (.inr ⟨hconfig, .inl (Call.newToken?_of_ne hset), ?_, ?_⟩)
    · exact s.keeps_call call.backend call.arguments hstart hset
    · rintro (h | h)
      · exact absurd h hstart
      · exact absurd h hset

/-! ### Results -/

theorem result_start {call : Call} (hcommand : call.command = .start) :
    (∃ v, (s.perform call).result = .ok v) ↔ call.config?.isSome = true := by
  rcases s.perform_cases call with ⟨config, hconfig, hp⟩ | ⟨-, token, c, htoken, -⟩ |
    ⟨hconfig, -, -, hfails⟩
  · rw [hp, hconfig]
    exact ⟨fun _ => rfl, fun _ => ⟨_, rfl⟩⟩
  · rw [Call.newToken?_of_ne (by rw [hcommand]; decide)] at htoken
    cases htoken
  · obtain ⟨f, hf⟩ := hfails (.inl hcommand)
    rw [hf, hconfig]
    constructor
    · rintro ⟨v, hv⟩
      cases hv
    · intro h
      cases h

theorem result_setToken {call : Call} (hcommand : call.command = .setToken) :
    (∃ v, (s.perform call).result = .ok v) ↔
      s.client.isSome = true ∧ call.newToken?.isSome = true := by
  rcases s.perform_cases call with ⟨config, hconfig, -⟩ | ⟨-, token, c, htoken, hc, hp⟩ |
    ⟨-, hkept, -, hfails⟩
  · rw [Call.config?_of_ne (by rw [hcommand]; decide)] at hconfig
    cases hconfig
  · rw [hp, htoken, hc]
    exact ⟨fun _ => ⟨rfl, rfl⟩, fun _ => ⟨_, rfl⟩⟩
  · obtain ⟨f, hf⟩ := hfails (.inr hcommand)
    rw [hf]
    constructor
    · rintro ⟨v, hv⟩
      cases hv
    · rintro ⟨hclient, htoken⟩
      rcases hkept with hnone | hnone
      · rw [hnone] at htoken
        cases htoken
      · rw [hnone] at hclient
        cases hclient

theorem keeps_of_error {call : Call} {f : Fault} (h : (s.perform call).result = .error f) :
    (s.perform call).Keeps s := by
  rcases s.perform_cases call with ⟨config, -, hp⟩ | ⟨-, token, c, -, -, hp⟩ | ⟨-, -, hkeeps, -⟩
  · rw [hp] at h
    cases h
  · rw [hp] at h
    cases h
  · exact hkeeps

/-- What is shown of the predicate of an expression. -/
def shown (value : Predicate → Value) (e : String) : Except Fault Value :=
  match Expression.parse e with
  | .ok p => .ok (optional value p)
  | .error d => .error (.failed (.expression d))

theorem result_showParsed (h : s.cache.Sound) (value : Predicate → Value) (e : String) :
    (s.showParsed value e).result = shown value e := by
  rw [showParsed, parsed_eq, h.parse_fst, shown]
  cases Expression.parse e with
  | error d => rfl
  | ok p => rfl

/-! ### Assignments -/

/-- With a client, the expression is parsed before anything is sent. -/
theorem assign_eq (h : s.cache.Sound) {c : Client} (hc : s.client = some c) (backend : Backend)
    (discountId storeId : Int64) (e : String) :
    let after := { s with cache := (s.cache.parse e).2 }
    s.assign backend discountId storeId e =
      match Expression.parse e with
      | .error d => after.answer (.error (.failed (.expression d)))
      | .ok none => after.answer (.error (.failed .emptyExpression))
      | .ok (some p) =>
        let exchange := c.assign s.stores backend discountId storeId p
        let result := match exchange.result with
          | .ok v => .ok (.text v.render)
          | .error f => .error (.failed (.client f))
        ⟨result, after, exchange.request⟩ := by
  intro after
  rw [assign, hc, parsed_eq, h.parse_fst]
  rcases Expression.parse e with d | _ | p
  · rfl
  · rfl
  · rfl

theorem call_assign {x y : Value} {discountId storeId : Int64} (hx : x.toInt64 = .ok discountId)
    (hy : y.toInt64 = .ok storeId) (backend : Backend) (e : String) :
    s.call backend .assign [x, y, .text e] = s.assign backend discountId storeId e := by
  rw [call, hx, hy]
  rfl

end Session

end DiscountPolicy
