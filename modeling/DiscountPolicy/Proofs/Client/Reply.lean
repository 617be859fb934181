import DiscountPolicy.Proofs.Client
import DiscountPolicy.Proofs.Json.Text

/-! The messages that a client takes from replies of failure. The text of a body is cut, but a text
under a message key is kept whole, so how long a message gets is up to the backend. -/

namespace DiscountPolicy.Client

variable {members : List (String × Json)} {body s : String}

/-- No text stands under the key. -/
def NoText (key : String) (members : List (String × Json)) : Prop :=
  ∀ t, Json.member? key members ≠ some (.text t)

/-- The message of an object: the text under the first of three keys that has one. -/
inductive IsMessage (members : List (String × Json)) : String → Prop
  | message {s : String} (text : Json.member? "message" members = some (.text s)) :
      IsMessage members s
  | error {s : String} (noMessage : NoText "message" members)
      (text : Json.member? "error" members = some (.text s)) : IsMessage members s
  | detail {s : String} (noMessage : NoText "message" members) (noError : NoText "error" members)
      (text : Json.member? "detail" members = some (.text s)) : IsMessage members s

/-- The body is an object with this message. -/
def BringsMessage (body s : String) : Prop :=
  ∃ members, Json.ofText? body = some (.object members) ∧ IsMessage members s

/-- The text under a key, if there is one. -/
def textUnder? (members : List (String × Json)) (key : String) : Option String :=
  match Json.member? key members with
  | some (.text s) => some s
  | _ => none

theorem textUnder?_eq_some_iff {key : String} :
    textUnder? members key = some s ↔ Json.member? key members = some (.text s) := by
  unfold textUnder?
  split
  · next t ht => simp [ht]
  · next hother => exact iff_of_false (by simp) (hother s)

theorem textUnder?_eq_none_iff {key : String} :
    textUnder? members key = none ↔ NoText key members := by
  simp only [Option.eq_none_iff_forall_ne_some, NoText, Ne, textUnder?_eq_some_iff]

theorem messageField?_eq_or : messageField? members =
    (textUnder? members "message").or
      ((textUnder? members "error").or (textUnder? members "detail")) := by
  change messageKeys.findSome? (textUnder? members) = _
  simp only [messageKeys, List.findSome?_cons, List.findSome?_nil]
  cases textUnder? members "message" <;> cases textUnder? members "error" <;>
    cases textUnder? members "detail" <;> rfl

theorem messageField?_eq_some_iff : messageField? members = some s ↔ IsMessage members s := by
  simp only [messageField?_eq_or, Option.or_eq_some_iff, textUnder?_eq_some_iff,
    textUnder?_eq_none_iff]
  constructor
  · rintro (hmessage | ⟨hnone, herror | ⟨hnone', hdetail⟩⟩)
    · exact .message hmessage
    · exact .error hnone herror
    · exact .detail hnone hnone' hdetail
  · rintro (hmessage | ⟨hnone, herror⟩ | ⟨hnone, hnone', hdetail⟩)
    · exact .inl hmessage
    · exact .inr ⟨hnone, .inl herror⟩
    · exact .inr ⟨hnone, .inr ⟨hnone', hdetail⟩⟩

/-! ### Messages -/

theorem backendMessage_of_brings (h : BringsMessage body s) : backendMessage body = s := by
  obtain ⟨members, hbody, hmessage⟩ := h
  unfold backendMessage
  simp only [hbody, messageField?_eq_some_iff.mpr hmessage, Option.getD_some]

theorem backendMessage_of_not_brings (h : ∀ s, ¬BringsMessage body s) :
    backendMessage body = String.ofList ((Text.trimChars body.toList).take maxMessage) := by
  unfold backendMessage
  split
  · next members hbody =>
    cases hfield : messageField? members with
    | none => rfl
    | some s => exact absurd ⟨members, hbody, messageField?_eq_some_iff.mp hfield⟩ (h s)
  · rfl

theorem length_backendMessage_le_iff :
    (backendMessage body).length ≤ maxMessage ↔ ∀ s, BringsMessage body s → s.length ≤ maxMessage := by
  constructor
  · intro h s hs
    rw [← backendMessage_of_brings hs]
    exact h
  · intro h
    by_cases hbrings : ∃ s, BringsMessage body s
    · obtain ⟨s, hs⟩ := hbrings
      rw [backendMessage_of_brings hs]
      exact h s hs
    · rw [backendMessage_of_not_brings (not_exists.mp hbrings), String.length_ofList]
      exact List.length_take_le _ _

/-- Every text, however long, is the message of some body. -/
theorem bringsMessage_render (s : String) :
    BringsMessage (Json.object [("message", .text s)]).render s := by
  have hkept : (Json.object [("message", .text s)]).Kept := by
    apply Json.kept_object
    rw [List.forall_mem_singleton]
    exact Json.kept_text s
  have hnest : (Json.object [("message", .text s)]).nesting ≤ Json.maxOpen :=
    show 1 ≤ Json.maxOpen by decide
  exact ⟨_, Json.ofText?_render hkept hnest, .message rfl⟩

/-! ### Replies of failure -/

theorem classify_failure {reply : Reply} (hunauthorized : reply.status ≠ 401)
    (hfailure : reply.status < 200 ∨ 300 ≤ reply.status) :
    classify reply = .error (.backend reply.status (backendMessage reply.body)) := by
  have h401 : reply.isUnauthorized = false := decide_eq_false hunauthorized
  have h2xx : reply.isSuccess = false := by
    rw [Reply.isSuccess, Bool.and_eq_false_iff, decide_eq_false_iff_not, decide_eq_false_iff_not]
    omega
  rw [classify, h401, h2xx]
  rfl

variable {c : Client} {stores : TokenStores} {backend : Backend} {method : Method} {path : String}
  {data : Option Json} {r : Request} {reply : Reply}

theorem result_of_reply (hrequest : c.request stores method path data = .ok r)
    (hreply : backend r = some reply) :
    (c.send stores backend method path data).result = classify reply := by
  simp only [send, hrequest, hreply]

/-- A reply of failure becomes a failure with its status and a message. The message is the one that
the body brings, and the start of the trimmed body if it brings none, so it is within the limit
exactly if the body brings no longer one. -/
theorem send_failure (hrequest : c.request stores method path data = .ok r)
    (hreply : backend r = some reply) (hunauthorized : reply.status ≠ 401)
    (hfailure : reply.status < 200 ∨ 300 ≤ reply.status) :
    ∃ message,
      (c.send stores backend method path data).result = .error (.backend reply.status message) ∧
      (∀ s, BringsMessage reply.body s → message = s) ∧
      ((∀ s, ¬BringsMessage reply.body s) →
        message = String.ofList ((Text.trimChars reply.body.toList).take maxMessage)) ∧
      (message.length ≤ maxMessage ↔
        ∀ s, BringsMessage reply.body s → s.length ≤ maxMessage) := by
  refine ⟨backendMessage reply.body, ?_, fun s => backendMessage_of_brings,
    backendMessage_of_not_brings, length_backendMessage_le_iff⟩
  rw [result_of_reply hrequest hreply, classify_failure hunauthorized hfailure]

theorem send_failure_text :
    let c : Client := { baseUrl := "http://backend:8000", store := 0 }
    let stores := TokenStores.empty.create none
    let reply : Reply := ⟨503, " down\n"⟩
    ∃ r, c.request stores .get "x" none = .ok r ∧ reply.status ≠ 401 ∧
      (reply.status < 200 ∨ 300 ≤ reply.status) ∧
      (c.send stores (fun _ => some reply) .get "x" none).result = .error (.backend 503 "down") := by
  intro c stores reply
  have hok : (c.request stores .get "x" none).isOk = true := by decide +kernel
  obtain ⟨r, hrequest⟩ := exists_ok_of_isOk hok
  have hnone : ∀ s, ¬BringsMessage reply.body s := by
    rintro s ⟨members, hbody, -⟩
    have hnot : Json.ofText? reply.body = none := by decide +kernel
    rw [hnot] at hbody
    cases hbody
  obtain ⟨message, hresult, -, htext, -⟩ := @send_failure c stores (fun _ => some reply) .get "x"
    none r reply hrequest rfl (by decide) (by decide)
  have hdown : message = "down" := (htext hnone).trans (by decide +kernel)
  refine ⟨r, hrequest, by decide, by decide, ?_⟩
  rw [hresult, hdown]

/-- A message of 513 characters in a field is kept whole. -/
theorem send_failure_past_maxMessage :
    let c : Client := { baseUrl := "http://backend:8000", store := 0 }
    let stores := TokenStores.empty.create none
    let message := String.ofList (List.replicate 513 'x')
    let reply : Reply := ⟨500, (Json.object [("message", .text message)]).render⟩
    reply.status ≠ 401 ∧ (reply.status < 200 ∨ 300 ≤ reply.status) ∧
      (c.send stores (fun _ => some reply) .get "x" none).result =
        .error (.backend reply.status message) ∧
      maxMessage < message.length := by
  intro c stores message reply
  refine ⟨by decide, by decide, ?_, ?_⟩
  · have hok : (c.request stores .get "x" none).isOk = true := by decide +kernel
    obtain ⟨r, hrequest⟩ := exists_ok_of_isOk hok
    rw [result_of_reply hrequest rfl, classify_failure (by decide) (by decide),
      backendMessage_of_brings (bringsMessage_render message)]
  · rw [String.length_ofList, List.length_replicate]
    decide

end DiscountPolicy.Client
