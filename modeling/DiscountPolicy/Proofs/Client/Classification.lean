import DiscountPolicy.Proofs.Client.Reply
import DiscountPolicy.Proofs.Client.Tokens
import DiscountPolicy.Proofs.Json.Grammar

/-! What replies bring. The status decides first: it tells whether the session ended, whether the
backend failed, and whether the text is read as data. -/

namespace DiscountPolicy.Client

variable {body message s : String} {members others : List (String × Json)}

/-! ### Messages -/

/-- Nothing but the texts under the three keys matters. -/
theorem IsMessage.of_texts (h : ∀ key ∈ ["message", "error", "detail"], ∀ t,
    Json.member? key members = some (.text t) ↔ Json.member? key others = some (.text t))
    (hmessage : IsMessage members s) : IsMessage others s := by
  have hnone {key : String} (hkey : key ∈ ["message", "error", "detail"])
      (hmembers : NoText key members) : NoText key others :=
    fun t ht => hmembers t ((h key hkey t).mpr ht)
  cases hmessage with
  | message text => exact .message ((h _ (by decide) s).mp text)
  | error noMessage text =>
    exact .error (hnone (by decide) noMessage) ((h _ (by decide) s).mp text)
  | detail noMessage noError text =>
    exact .detail (hnone (by decide) noMessage) (hnone (by decide) noError)
      ((h _ (by decide) s).mp text)

theorem isMessage_congr (h : ∀ key ∈ ["message", "error", "detail"], ∀ t,
    Json.member? key members = some (.text t) ↔ Json.member? key others = some (.text t)) :
    IsMessage members s ↔ IsMessage others s :=
  ⟨.of_texts h, .of_texts fun key hkey t => (h key hkey t).symm⟩

/-- The text is an object with this message under one of the message keys. A key that is repeated
counts where it stands last. -/
def Announces (body s : String) : Prop :=
  ∃ members, (Json.object members).SpelledBy body ∧ IsMessage members.reverse s

theorem isMessage_normalMembers_iff :
    IsMessage (Json.normalMembers [] members) s ↔ IsMessage members.reverse s := by
  refine isMessage_congr fun key _ t => ?_
  rw [Json.member?_normalMembers, show Json.member? key [] = none from rfl, Option.or_none,
    Option.map_eq_some_iff]
  simp only [Json.normal_eq_text_iff, exists_eq_right]

theorem bringsMessage_iff_announces : BringsMessage body s ↔ Announces body s := by
  constructor
  · rintro ⟨_, hbody, hmessage⟩
    obtain ⟨w, hspelled, hw⟩ := Json.ofText?_eq_some_iff.mp hbody
    obtain ⟨members, rfl, rfl⟩ := Json.normal_eq_object_iff.mp hw
    exact ⟨members, hspelled, isMessage_normalMembers_iff.mp hmessage⟩
  · rintro ⟨members, hspelled, hmessage⟩
    refine ⟨_, ?_, isMessage_normalMembers_iff.mpr hmessage⟩
    exact Json.ofText?_eq_some_iff.mpr ⟨_, hspelled, rfl⟩

/-- The message of a text that comes with a status of failure. -/
inductive IsMessageOf (body : String) : String → Prop
  | field {s : String} (announces : Announces body s) : IsMessageOf body s
  | start {kept : List Char} (announcesNone : ∀ s, ¬Announces body s)
      (trims : Text.TrimsTo body.toList kept) : IsMessageOf body (String.ofList (kept.take 512))

theorem backendMessage_eq_iff : backendMessage body = message ↔ IsMessageOf body message := by
  constructor
  · rintro rfl
    by_cases hbrings : ∃ s, BringsMessage body s
    · obtain ⟨s, hs⟩ := hbrings
      rw [backendMessage_of_brings hs]
      exact .field (bringsMessage_iff_announces.mp hs)
    · have hnone := not_exists.mp hbrings
      rw [backendMessage_of_not_brings hnone]
      refine .start (fun s hs => ?_) (Text.trimsTo_trimChars _)
      exact hnone s (bringsMessage_iff_announces.mpr hs)
  · intro h
    cases h with
    | field announces => exact backendMessage_of_brings (bringsMessage_iff_announces.mpr announces)
    | start announcesNone trims =>
      rw [backendMessage_of_not_brings, trims.trimChars_eq]
      · rfl
      · exact fun s hs => announcesNone s (bringsMessage_iff_announces.mp hs)

/-! ### Replies -/

variable {reply : Reply} {result : Except Failure Json}

/-- What a reply brings. -/
inductive Brings (reply : Reply) : Except Failure Json → Prop
  | unauthorized (status : reply.status = 401) : Brings reply (.error .unauthorized)
  | failure {message : String} (not401 : reply.status ≠ 401)
      (status : reply.status < 200 ∨ 300 ≤ reply.status) (text : IsMessageOf reply.body message) :
      Brings reply (.error (.backend reply.status message))
  | nothing (status : 200 ≤ reply.status ∧ reply.status < 300)
      (blank : ∀ c ∈ reply.body.toList, Text.isBlank c = true) : Brings reply (.ok .null)
  | data {w : Json} (status : 200 ≤ reply.status ∧ reply.status < 300)
      (text : w.SpelledBy reply.body) : Brings reply (.ok w.normal)
  | notData (status : 200 ≤ reply.status ∧ reply.status < 300)
      (notBlank : ¬∀ c ∈ reply.body.toList, Text.isBlank c = true)
      (text : ∀ w : Json, ¬w.SpelledBy reply.body) : Brings reply (.error .notData)

theorem classify_unauthorized (h : reply.status = 401) : classify reply = .error .unauthorized := by
  have h401 : reply.isUnauthorized = true := decide_eq_true h
  rw [classify, if_pos h401]

theorem classify_success (h : 200 ≤ reply.status ∧ reply.status < 300) :
    classify reply = if Text.isBlankText reply.body then .ok .null
      else (Json.ofText? reply.body).elim (.error .notData) .ok := by
  have h401 : reply.isUnauthorized = false := decide_eq_false (by omega)
  have h2xx : reply.isSuccess = true := by
    rw [Reply.isSuccess, decide_eq_true h.1, decide_eq_true h.2]
    rfl
  rw [classify, h401, h2xx]
  cases Json.ofText? reply.body <;> rfl

theorem isBlankText_iff : Text.isBlankText body = true ↔ ∀ c ∈ body.toList, Text.isBlank c = true :=
  List.all_eq_true

theorem brings_classify (reply : Reply) : Brings reply (classify reply) := by
  by_cases h401 : reply.status = 401
  · rw [classify_unauthorized h401]
    exact .unauthorized h401
  by_cases h2xx : 200 ≤ reply.status ∧ reply.status < 300
  · rw [classify_success h2xx]
    split
    · next hblank => exact .nothing h2xx (isBlankText_iff.mp hblank)
    · next hnot =>
      rw [isBlankText_iff] at hnot
      cases htext : Json.ofText? reply.body with
      | none => exact .notData h2xx hnot (Json.ofText?_eq_none_iff.mp htext)
      | some v =>
        obtain ⟨w, hw, rfl⟩ := Json.ofText?_eq_some_iff.mp htext
        exact .data h2xx hw
  · have hfailure : reply.status < 200 ∨ 300 ≤ reply.status := by omega
    rw [classify_failure h401 hfailure]
    exact .failure h401 hfailure (backendMessage_eq_iff.mp rfl)

theorem Brings.classify_eq (h : Brings reply result) : classify reply = result := by
  cases h with
  | unauthorized status => exact classify_unauthorized status
  | failure not401 status text =>
    rw [classify_failure not401 status, backendMessage_eq_iff.mpr text]
  | nothing status blank => rw [classify_success status, if_pos (isBlankText_iff.mpr blank)]
  | @data w status text =>
    have htext : Json.ofText? reply.body = some w.normal :=
      Json.ofText?_eq_some_iff.mpr ⟨w, text, rfl⟩
    rw [classify_success status, if_neg (text.not_blank ∘ isBlankText_iff.mp), htext]
    rfl
  | notData status notBlank text =>
    rw [classify_success status, if_neg (notBlank ∘ isBlankText_iff.mp),
      Json.ofText?_eq_none_iff.mpr text]
    rfl

theorem classify_eq_iff : classify reply = result ↔ Brings reply result :=
  ⟨fun h => h ▸ brings_classify reply, Brings.classify_eq⟩

theorem Brings.kind {f : Failure} (h : Brings reply (.error f)) :
    (DiscountPolicy.Failure.client f).kind =
      if reply.status = 401 then .unauthorized
      else if 200 ≤ reply.status ∧ reply.status < 300 then .serialization
      else .backend reply.status := by
  cases h with
  | unauthorized status => rw [if_pos status]; rfl
  | failure not401 status _ => rw [if_neg not401, if_neg (by omega)]; rfl
  | notData status _ _ => rw [if_neg (by omega), if_pos status]; rfl

theorem Brings.success {v : Json} (h : Brings reply (.ok v)) :
    200 ≤ reply.status ∧ reply.status < 300 := by
  cases h with
  | nothing status _ => exact status
  | data status _ => exact status

/-! ### Requests -/

variable {c : Client} {stores : TokenStores} {op : Operation} {path : String} {url : Url}

/-- Whatever is asked, a request is made if its address and the token can be sent, and its reply is
classified. -/
theorem exists_request (hpath : op.path? = some path) (hurl : sendable? (c.url path) = some url)
    (htoken : ∀ token, c.token stores = some token → IsSendable token) :
    ∃ r : Request, r.url = url ∧ ∀ backend : Backend, ∃ e,
      c.exchange? stores backend op = some e ∧ e.request = some r ∧
        ∀ reply, backend r = some reply → e.result = classify reply := by
  obtain ⟨method, data, hsend⟩ := exists_send hpath
  have hrequest (backend : Backend) :=
    @request_of_sendable c stores backend method path data url hurl htoken
  refine ⟨_, ?_, fun backend => ⟨_, hsend c stores backend, hrequest backend, ?_⟩⟩
  · rfl
  · exact fun reply => result_of_reply (request_send_eq_some_iff.mp (hrequest backend))

/-- Whatever is asked for a path, be it a get, a post or an assignment: if the address and the token
can be sent, a request is made, and if it is replied to, the result is exactly what the reply brings.
So data come with a status of success only, and with such a status nothing fails but the reading of
data. The message of a failure depends on an object's values under three keys alone. -/
theorem result_iff_brings (hpath : op.path? = some path)
    (hurl : sendable? (c.url path) = some url)
    (htoken : ∀ token, c.token stores = some token → IsSendable token) :
    (∃ r : Request, r.url = url ∧ ∀ backend : Backend, ∃ e,
      c.exchange? stores backend op = some e ∧ e.request = some r ∧
        ∀ reply, backend r = some reply →
          (∀ result, e.result = result ↔ Brings reply result) ∧
          (∀ f, e.result = .error f → (DiscountPolicy.Failure.client f).kind =
            if reply.status = 401 then .unauthorized
            else if 200 ≤ reply.status ∧ reply.status < 300 then .serialization
            else .backend reply.status) ∧
          (∀ v, e.result = .ok v → 200 ≤ reply.status ∧ reply.status < 300) ∧
          (200 ≤ reply.status ∧ reply.status < 300 →
            e.result ≠ .error .unauthorized ∧ ∀ s m, e.result ≠ .error (.backend s m))) ∧
    ∀ (members others : List (String × Json)) (s : String),
      (∀ key ∈ ["message", "error", "detail"],
        Json.member? key members = Json.member? key others) →
          (IsMessage members s ↔ IsMessage others s) := by
  obtain ⟨r, hr, hexchange⟩ := exists_request hpath hurl htoken
  refine ⟨⟨r, hr, fun backend => ?_⟩, fun members others s h => ?_⟩
  · obtain ⟨e, he, hrequest, hresult⟩ := hexchange backend
    refine ⟨e, he, hrequest, fun reply hreply => ?_⟩
    rw [hresult reply hreply]
    refine ⟨fun _ => classify_eq_iff, fun f hf => (classify_eq_iff.mp hf).kind,
      fun v hv => (classify_eq_iff.mp hv).success, fun hstatus => ⟨fun h => ?_, fun s m h => ?_⟩⟩
    · cases classify_eq_iff.mp h with
      | unauthorized status => omega
    · cases classify_eq_iff.mp h with
      | failure not401 status _ => omega
  · refine isMessage_congr fun key hkey t => ?_
    rw [h key hkey]

/-- What a post brings with a status of success is the data that the reply spells, with its members
in the order of their keys and with the last value of a key that is repeated. A get that fails passes
over a value under a message key that is no text. -/
theorem result_iff_brings_replies :
    let c : Client := { baseUrl := "http://backend:8000", store := 0 }
    let stores := TokenStores.empty.create (some "secret")
    let tenth : FiniteDouble := { negative := false, rank := 0x3FB999999999999A }
    let rate : String × Json := ("rate", .number (.real tenth))
    let ids : String × Json := ("ids", .array [.number (.whole (-7) (by decide)), .text "é\n"])
    let data : Json := .object [("rate", .bool true), ids, rate]
    let created : Reply := ⟨201, data.render⟩
    let posted := c.post stores (fun _ => some created) "discounts" .null
    let body : Json := .object [("detail", .text "low"), ("error", .bool true), ("code", .null)]
    let refused : Reply := ⟨422, body.render⟩
    let got := c.get stores (fun _ => some refused) "/store"
    ((∃ r, posted.request = some r) ∧ posted.result = .ok (.object [ids, rate])) ∧
      (∃ r, got.request = some r) ∧ got.result = .error (.backend 422 "low") := by
  intro c stores tenth rate ids data created posted body refused got
  have htoken : ∀ token, c.token stores = some token → IsSendable token := by
    rintro token ⟨⟩
    exact List.all_eq_true.mp (by decide +kernel)
  have hurl (path : String) (h : (sendable? (c.url path)).isSome = true) :
      ∃ url, sendable? (c.url path) = some url :=
    Option.isSome_iff_exists.mp h
  constructor
  · obtain ⟨url, hurl⟩ := hurl "discounts" (by decide +kernel)
    obtain ⟨⟨r, -, hexchange⟩, -⟩ := @result_iff_brings c stores (.post "discounts" .null) _ _
      rfl hurl htoken
    obtain ⟨_, ⟨⟩, hrequest, hresult⟩ := hexchange fun _ => some created
    have hspelled : data.SpelledBy created.body :=
      Json.spelledBy_render (by decide +kernel) (by decide)
    have hbrings : Brings created (.ok data.normal) := .data (by decide) hspelled
    exact ⟨⟨r, hrequest⟩, ((hresult created rfl).1 _).mpr hbrings⟩
  · obtain ⟨url, hurl⟩ := hurl "/store" (by decide +kernel)
    obtain ⟨⟨r, -, hexchange⟩, -⟩ := @result_iff_brings c stores (.get "/store") _ _
      rfl hurl htoken
    obtain ⟨_, ⟨⟩, hrequest, hresult⟩ := hexchange fun _ => some refused
    have hspelled : body.SpelledBy refused.body :=
      Json.spelledBy_render (by decide +kernel) (by decide)
    have hbrings : Brings refused (.error (.backend 422 "low")) :=
      .failure (by decide) (by decide) (.field ⟨_, hspelled, .detail nofun nofun rfl⟩)
    exact ⟨⟨r, hrequest⟩, ((hresult refused rfl).1 _).mpr hbrings⟩

end DiscountPolicy.Client
