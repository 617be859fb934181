import DiscountPolicy.Proofs.Client
import DiscountPolicy.Proofs.Expression.RoundTrip
import DiscountPolicy.Proofs.Wire.RoundTrip
import DiscountPolicy.Proofs.Wire.Text

/-! The assignment of a predicate to a discount. Whoever reads what is posted finds the two numbers
and the predicate that the expression stands for. -/

namespace DiscountPolicy.Client

variable {t : Predicate}

theorem kept_assignment (discountId storeId : Int64) (h : t.RealsKept) :
    (assignment discountId storeId t).Kept := by
  have hpayload : t.payload.Kept := Predicate.kept_encode Location.kept_payload h
  exact Json.kept_object (by simp [Json.kept_ofInt64, hpayload])

theorem nesting_assignment_le (discountId storeId : Int64) (t : Predicate) :
    (assignment discountId storeId t).nesting ≤ t.depth + 2 := by
  have hpayload := t.nesting_payload_le
  simp only [assignment, Json.nesting, Json.nestingOfMembers, Json.ofInt64]
  omega

theorem normal_assignment (discountId storeId : Int64) (t : Predicate) :
    (assignment discountId storeId t).normal =
      .object [("discount_id", .ofInt64 discountId), ("predicate_builder", t.toJson),
        ("store_id", .ofInt64 storeId)] := by
  have hpayload : t.payload.normal = t.toJson := Predicate.normal_encode Location.normal_payload t
  rw [← hpayload]
  rfl

theorem ofText?_render_assignment (discountId storeId : Int64) (h : t.RealsKept)
    (hdepth : t.depth ≤ Expression.maxNesting + 1) :
    Json.ofText? (assignment discountId storeId t).render =
      some (.object [("discount_id", .ofInt64 discountId), ("predicate_builder", t.toJson),
        ("store_id", .ofInt64 storeId)]) := by
  have hle := nesting_assignment_le discountId storeId t
  have hlimit : Expression.maxNesting + 3 ≤ Json.maxOpen := by decide
  have hnest : (assignment discountId storeId t).nesting ≤ Json.maxOpen := by omega
  rw [Json.ofText?_render (kept_assignment discountId storeId h) hnest, normal_assignment]

/-- What is posted for the predicate of an expression is an object of three members: the two
numbers, and data that decodes to the predicate. In general, the form of a predicate that is sent
and the one in normal form are texts of one value, unless too many arrays and objects are open in
them. -/
theorem posted_assignment_reads_back :
    (∀ (e : String) (t : Predicate), Expression.parse e = .ok (some t) → t.RealsKept →
      Predicate.ofJson t.toJson = .ok t ∧
      ∀ (c : Client) (stores : TokenStores) (backend : Backend) (discountId storeId : Int64),
        ((c.assign stores backend discountId storeId t).request.isSome ↔
          (∃ url, sendable? (c.url assignPath) = some url) ∧
            ∃ bearer, c.bearer stores = .ok bearer) ∧
        ∀ r, (c.assign stores backend discountId storeId t).request = some r →
          r.method = .post ∧ ∃ text, r.body = some text ∧
            Json.ofText? text = some (.object [("discount_id", .ofInt64 discountId),
              ("predicate_builder", t.toJson), ("store_id", .ofInt64 storeId)])) ∧
    ∀ t : Predicate, t.RealsKept → t.payload.nesting ≤ Json.maxOpen →
      Json.ofText? t.payload.render = some t.toJson ∧
        Json.ofText? t.toJson.render = some t.toJson := by
  refine ⟨fun e t hparse hkept => ⟨?_, fun c stores backend discountId storeId => ⟨?_, ?_⟩⟩,
    fun t hkept hnest => ⟨Predicate.ofText?_render_payload hkept hnest,
      Predicate.ofText?_render_toJson hkept hnest⟩⟩
  · have hexpressible := Expression.expressible_of_parse hparse
    exact Predicate.ofJson_toJson_iff.mpr
      ⟨rfl, fun x hx => Operand.Expressible.keptUnder (hexpressible.operands x hx) x.1⟩
  · rw [Option.isSome_iff_exists]
    simp only [assign, post, request_send_eq_some_iff, request_eq_ok_iff]
    constructor
    · rintro ⟨_, url, bearer, hurl, hbearer, rfl⟩
      exact ⟨⟨url, hurl⟩, bearer, hbearer⟩
    · rintro ⟨⟨url, hurl⟩, bearer, hbearer⟩
      exact ⟨_, url, bearer, hurl, hbearer, rfl⟩
  · intro r hr
    rw [assign, post, request_send_eq_some_iff, request_eq_ok_iff] at hr
    obtain ⟨url, bearer, -, -, rfl⟩ := hr
    have hdepth := (Expression.expressible_of_parse hparse).depth
    exact ⟨rfl, _, rfl, ofText?_render_assignment discountId storeId hkept hdepth⟩

/-- A word with a quote, a backslash, a control character and a letter outside of ASCII, next to
`0.1` and an integer. -/
theorem posted_assignment_reads_back_escapes :
    let e := "or (season a\"b\\\u0001é), (price_product 0.1 9)"
    let tenth : FiniteDouble := { negative := false, rank := 0x3FB999999999999A }
    let t : Predicate := .composite .or (.leaf .season [.scalar (.text "a\"b\\\u0001é")])
      (.leaf (.bounds .price .product) [.scalar (.real (.finite tenth)), .scalar (.integer 9)])
    let c : Client := { baseUrl := "http://localhost:8080", store := 0 }
    let stores := TokenStores.empty.create (some "secret")
    Expression.parse e = .ok (some t) ∧ t.RealsKept ∧ t.payload.nesting ≤ Json.maxOpen ∧
      Predicate.ofJson t.toJson = .ok t ∧
      Json.ofText? t.payload.render = some t.toJson ∧ Json.ofText? t.toJson.render = some t.toJson ∧
      ∃ r text, (c.assign stores (fun _ => none) 5 (-7) t).request = some r ∧
        r.body = some text ∧
        Json.ofText? text = some (.object [("discount_id", .ofInt64 5),
          ("predicate_builder", t.toJson), ("store_id", .ofInt64 (-7))]) := by
  intro e tenth t c stores
  have hparse : Expression.parse e = .ok (some t) := by decide +kernel
  have hkept : t.RealsKept := by decide +kernel
  have hnest : t.payload.nesting ≤ Json.maxOpen := by decide
  have hurl : ∃ url, sendable? (c.url assignPath) = some url :=
    Option.isSome_iff_exists.mp (by decide +kernel)
  have hbearer : c.bearer stores = .ok (some "Bearer secret") := by decide +kernel
  obtain ⟨hdata, hposted⟩ := posted_assignment_reads_back.1 e t hparse hkept
  obtain ⟨hsome, hbody⟩ := hposted c stores (fun _ => none) 5 (-7)
  obtain ⟨hpayload, hnormal⟩ := posted_assignment_reads_back.2 t hkept hnest
  obtain ⟨r, hr⟩ := Option.isSome_iff_exists.mp (hsome.mpr ⟨hurl, _, hbearer⟩)
  obtain ⟨-, text, htext, hread⟩ := hbody r hr
  exact ⟨hparse, hkept, hnest, hdata, hpayload, hnormal, r, text, hr, htext, hread⟩

end DiscountPolicy.Client
