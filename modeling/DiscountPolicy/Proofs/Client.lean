import DiscountPolicy.Failure
import DiscountPolicy.Proofs.Outcome

/-! The requests of a client. A request is made if the address and the token can be sent; what it
carries does not depend on the replies. -/

namespace DiscountPolicy.Client

variable {c : Client} {stores : TokenStores}

theorem request_eq_ok_iff {method : Method} {path : String} {body : Option Json} {r : Request} :
    c.request stores method path body = .ok r ↔
      ∃ url bearer, sendable? (c.url path) = some url ∧ c.bearer stores = .ok bearer ∧
        r = { method, url
              authorization := (url.credentials.map Credentials.basic).toList ++ bearer.toList
              body := body.map Json.render } := by
  rw [request]
  cases sendable? (c.url path) with
  | none => simp
  | some url =>
    simp only [bind_eq_ok_iff, pure_eq_ok, Except.ok.injEq, Option.some.injEq]
    constructor
    · rintro ⟨bearer, hbearer, rfl⟩
      exact ⟨url, bearer, rfl, hbearer, rfl⟩
    · rintro ⟨_, bearer, rfl, hbearer, rfl⟩
      exact ⟨bearer, hbearer, rfl⟩

theorem start_eq_ok_iff {config : Config} {started : TokenStores} :
    start stores config = .ok (c, started) ↔ config.validate = .ok () ∧
      c = ⟨withoutFinalSlashes config.apiUrl, stores.size⟩ ∧ started = stores.create config.token := by
  rw [start, check_bind_eq_ok_iff, pure_eq_ok, Except.ok.injEq, Prod.mk.injEq, eq_comm (b := c),
    eq_comm (b := started)]

/-! ### The token of the moment -/

/-- A request can carry the token. -/
def IsSendable (token : String) : Prop := ∀ ch ∈ token.toList, isHeaderChar ch = true

/-- All that becomes of the token of the moment. -/
theorem bearer_cases (c : Client) (stores : TokenStores) :
    (c.token stores = none ∧ c.bearer stores = .ok none) ∨
    ∃ token, c.token stores = some token ∧
      ((IsSendable token ∧ c.bearer stores = .ok (some ("Bearer " ++ token))) ∨
        (¬IsSendable token ∧ c.bearer stores = .error .unsendableToken)) := by
  rw [Client.bearer]
  cases c.token stores with
  | none => exact .inl ⟨rfl, rfl⟩
  | some token =>
    refine .inr ⟨token, rfl, ?_⟩
    by_cases hall : token.toList.all isHeaderChar = true
    · left
      simp only [bearer?, if_pos hall]
      exact ⟨List.all_eq_true.mp hall, trivial⟩
    · right
      simp only [bearer?, if_neg hall]
      exact ⟨fun h => hall (List.all_eq_true.mpr h), trivial⟩

theorem bearer_eq_ok_iff {bearer : Option String} :
    c.bearer stores = .ok bearer ↔
      (∀ token, c.token stores = some token → IsSendable token) ∧
        bearer = (c.token stores).map ("Bearer " ++ ·) := by
  rcases bearer_cases c stores with ⟨htoken, hb⟩ | ⟨token, htoken, ⟨hsend, hb⟩ | ⟨hnot, hb⟩⟩
  · rw [htoken, hb]
    simp [eq_comm]
  · rw [htoken, hb]
    simp [hsend, eq_comm]
  · rw [htoken, hb]
    simp [hnot]

/-! ### Requests -/

theorem request_send_eq_some_iff {backend : Backend} {method : Method} {path : String}
    {body : Option Json} {r : Request} :
    (c.send stores backend method path body).request = some r ↔
      c.request stores method path body = .ok r := by
  rw [send]
  cases c.request stores method path body with
  | error f => simp
  | ok sent =>
    simp only [Except.ok.injEq]
    split <;> simp

/-- What keeps a request from being made is the address or the token. -/
theorem request_eq_error {method : Method} {path : String} {body : Option Json} {f : Failure}
    (h : c.request stores method path body = .error f) : f = .invalidUrl ∨ f = .unsendableToken := by
  rw [request] at h
  split at h
  · exact .inl (Except.error.inj h).symm
  · right
    rcases bearer_cases c stores with ⟨-, hb⟩ | ⟨token, -, ⟨-, hb⟩ | ⟨-, hb⟩⟩
    · rw [hb] at h
      cases h
    · rw [hb] at h
      cases h
    · rw [hb] at h
      exact (Except.error.inj h).symm

/-- Where the address or the token cannot be sent, no request is made. -/
theorem exchange_of_unsendable {backend : Backend} {method : Method} {path : String}
    {body : Option Json} (h : sendable? (c.url path) = none ∨
      ∃ token, c.token stores = some token ∧ ¬IsSendable token) :
    let e := c.send stores backend method path body
    e.request = none ∧ ∃ f, e.result = .error f ∧ (Failure.client f).kind = .http := by
  rw [send]
  cases hrequest : c.request stores method path body with
  | ok r =>
    exfalso
    obtain ⟨url, bearer, hurl, hbearer, -⟩ := request_eq_ok_iff.mp hrequest
    rcases h with hnone | ⟨token, htoken, hnot⟩
    · rw [hnone] at hurl
      cases hurl
    · exact hnot ((bearer_eq_ok_iff.mp hbearer).1 token htoken)
  | error f =>
    refine ⟨rfl, f, rfl, ?_⟩
    rcases request_eq_error hrequest with rfl | rfl <;> rfl

theorem request_of_sendable {backend : Backend} {method : Method} {path : String}
    {body : Option Json} {url : Url} (hurl : sendable? (c.url path) = some url)
    (htoken : ∀ token, c.token stores = some token → IsSendable token) :
    (c.send stores backend method path body).request = some
      { method, url
        authorization := (url.credentials.map Credentials.basic).toList ++
          ((c.token stores).map ("Bearer " ++ ·)).toList
        body := body.map Json.render } :=
  request_send_eq_some_iff.mpr
    (request_eq_ok_iff.mpr ⟨url, _, hurl, bearer_eq_ok_iff.mpr ⟨htoken, rfl⟩, rfl⟩)

theorem url_assignPath (c : Client) : c.url assignPath = c.baseUrl ++ assignPath := by
  have hslash : "/" ++ String.ofList (assignPath.toList.dropWhile (· == '/')) = assignPath := by
    decide +kernel
  rw [url, String.append_assoc, hslash]

end DiscountPolicy.Client
