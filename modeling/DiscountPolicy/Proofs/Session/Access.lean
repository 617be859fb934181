import DiscountPolicy.Proofs.Session
import DiscountPolicy.Proofs.TokenStores

/-! Runs of calls in a session. There is a client after the first start that succeeds; it asks the
backend that the last one named, with the token that was set last since then. A call that fails
changes neither, and what an expression stands for depends on nothing that was called before. -/

namespace DiscountPolicy.Session

open TokenStores (tokenAfter)

variable {s : Session}

/-! ### What a client asks with -/

/-- Where the backend of a client is, and the token that it is asked with. -/
structure Access where
  baseUrl : String
  token : Option String
  deriving DecidableEq, Repr

/-- What the client of a session asks with. -/
def access (s : Session) : Option Access := s.client.map fun c => ⟨c.baseUrl, c.token s.stores⟩

/-- What the client asks with after a call. -/
def Call.access (before : Option Access) (call : Call) : Option Access :=
  match call.config? with
  | some config => some ⟨Client.withoutFinalSlashes config.apiUrl, config.token⟩
  | none => before.map fun a => { a with token := call.newToken?.getD a.token }

/-- The session asks with this, its cache is sound, and its client has a store. -/
structure Holds (s : Session) (a : Option Access) : Prop where
  sound : s.cache.Sound
  tied : ∀ c, s.client = some c → ∃ place, s.stores.At c.store place
  access : s.access = a

theorem holds_empty : Holds {} none := ⟨Cache.sound_empty, fun _ h => (nomatch h), rfl⟩

namespace Holds

variable {a : Option Access}

theorem keeps (h : s.Holds a) {o : Outcome} (hkeeps : o.Keeps s) : o.session.Holds a := by
  refine ⟨hkeeps.sound h.sound, ?_, ?_⟩
  · rw [hkeeps.client, hkeeps.stores]
    exact h.tied
  · rw [Session.access, hkeeps.client, hkeeps.stores]
    exact h.access

theorem step (h : s.Holds a) (call : Call) : (s.perform call).session.Holds (call.access a) := by
  rcases s.perform_cases call with ⟨config, hconfig, hp⟩ | ⟨hconfig, token, c, htoken, hc, hp⟩ |
    ⟨hconfig, hkept, hkeeps, -⟩
  -- The new client has a store of its own.
  · rw [hp, Call.access, hconfig]
    refine ⟨h.sound, ?_, ?_⟩
    · rintro c ⟨⟩
      exact ⟨_, TokenStores.at_create _ _⟩
    · exact congrArg (fun token => some (Access.mk _ token)) (TokenStores.get_create _ _)
  -- The client keeps its store, which holds another token.
  · obtain ⟨place, hat⟩ := h.tied c hc
    have ha : some ⟨c.baseUrl, c.token s.stores⟩ = a := by
      rw [← h.access, Session.access, hc, Option.map_some]
    rw [hp, Call.access, hconfig, htoken, ← ha]
    refine ⟨h.sound, ?_, ?_⟩
    · intro c' hc'
      obtain ⟨place', hat'⟩ := h.tied c' hc'
      exact ⟨place', hat'.put ..⟩
    · rw [answer, Session.access, hc]
      exact congrArg (fun token => some (Access.mk _ token)) (TokenStores.get_put hat hat token)
  -- A token that cannot be set is none, or finds no client.
  · have ha : call.access a = a := by
      rw [Call.access, hconfig]
      rcases hkept with htoken | hnone
      · rw [htoken]
        exact Option.map_id'
      · rw [← h.access, Session.access, hnone]
        rfl
    rw [ha]
    exact h.keeps hkeeps

end Holds

theorem holds_run (calls : List Call) : (run calls).Holds (calls.foldl Call.access none) := by
  have hfold : ∀ (s : Session) (a : Option Access), s.Holds a →
      (calls.foldl (fun s call => (s.perform call).session) s).Holds (calls.foldl Call.access a) := by
    induction calls with
    | nil => exact fun s a h => h
    | cons call calls ih => exact fun s a h => ih _ _ (h.step call)
  exact hfold {} none holds_empty

theorem foldl_access (calls : List Call) (a : Option Access) :
    (calls.foldl Call.access a).isSome = (a.isSome || calls.any (·.config?.isSome)) := by
  induction calls generalizing a with
  | nil => simp
  | cons call calls ih =>
    rw [List.foldl_cons, ih, List.any_cons, ← Bool.or_assoc]
    congr 1
    rw [Call.access]
    cases call.config? with
    | none => simp
    | some config => simp

theorem foldl_access_of_no_start {calls : List Call} (h : ∀ call ∈ calls, call.config? = none)
    (a : Access) :
    calls.foldl Call.access (some a) =
      some { a with token := tokenAfter Call.newToken? a.token calls } := by
  induction calls generalizing a with
  | nil => rfl
  | cons call calls ih =>
    obtain ⟨hcall, hcalls⟩ := List.forall_mem_cons.mp h
    rw [List.foldl_cons, Call.access, hcall, TokenStores.tokenAfter_cons]
    exact ih hcalls _

/-! ### Assignments -/

/-- Nothing was sent, and the call failed in this way. -/
def Outcome.Unsent (o : Outcome) (sort : FaultSort) : Prop :=
  o.request = none ∧ ∃ f, o.result = .error f ∧ f.sort = sort

/-- The outcome of attaching the predicate of an expression to a discount. -/
structure Outcome.Assigns (o : Outcome) (access : Option Access) (discountId storeId : Int64)
    (e : String) : Prop where
  /-- Without a client it does not matter what the expression is. -/
  noClient : access = none → o.Unsent .runtime
  /-- The expression does not parse, or has no words. -/
  noPredicate : access.isSome → (∀ p, Expression.parse e ≠ .ok (some p)) → o.Unsent .value
  sent : ∀ a p url, access = some a → Expression.parse e = .ok (some p) →
    Client.sendable? (a.baseUrl ++ Client.assignPath) = some url →
    (∀ token, a.token = some token → Client.IsSendable token) →
    o.request = some
      { method := .post, url
        authorization := (url.credentials.map Credentials.basic).toList ++
          (a.token.map ("Bearer " ++ ·)).toList
        body := some (Client.assignment discountId storeId p).render }
  /-- The address is none, or a header cannot hold the token. -/
  unsendable : ∀ a p, access = some a → Expression.parse e = .ok (some p) →
    (Client.sendable? (a.baseUrl ++ Client.assignPath) = none ∨
      ∃ token, a.token = some token ∧ ¬Client.IsSendable token) → o.Unsent .connection

theorem assigns_assign (h : s.cache.Sound) (backend : Backend) (discountId storeId : Int64)
    (e : String) : (s.assign backend discountId storeId e).Assigns s.access discountId storeId e := by
  rw [access]
  cases hc : s.client with
  | none =>
    have hfails : s.assign backend discountId storeId e = s.answer (.error .noClient) := by
      rw [assign, hc]
    rw [hfails]
    refine ⟨fun _ => ⟨rfl, _, rfl, rfl⟩, ?_, ?_, ?_⟩
    · intro h
      cases h
    · rintro a p url ⟨⟩
    · rintro a p ⟨⟩
  | some c =>
    rw [assign_eq h hc]
    refine ⟨?_, ?_, ?_, ?_⟩
    · intro h
      cases h
    · intro _ hnot
      rcases hparse : Expression.parse e with d | _ | p
      · exact ⟨rfl, _, rfl, rfl⟩
      · exact ⟨rfl, _, rfl, rfl⟩
      · exact absurd hparse (hnot p)
    · rintro a p url ⟨⟩ hparse hurl htoken
      rw [hparse]
      rw [← c.url_assignPath] at hurl
      exact Client.request_of_sendable hurl htoken
    · rintro a p ⟨⟩ hparse hnot
      rw [hparse]
      rw [← c.url_assignPath] at hnot
      obtain ⟨hrequest, f, hf, hkind⟩ :
          let exchange := c.assign s.stores backend discountId storeId p
          exchange.request = none ∧
            ∃ f, exchange.result = .error f ∧ (Failure.client f).kind = .http :=
        Client.exchange_of_unsendable hnot
      refine ⟨hrequest, .failed (.client f), ?_, ?_⟩
      · simp only [hf]
      · rw [Fault.sort, hkind]

/-- A token that a header cannot hold keeps the predicate of an expression from being sent. -/
theorem assign_unsendable :
    let settings : Value := .dict [("api_url", .text "http://backend"), ("token", .text "a\nb")]
    let backend : Backend := fun _ => some ⟨200, "{}"⟩
    let now := run [⟨.start, [settings], backend⟩]
    let out := now.call backend .assign [.integer 1, .integer 1, .text "(age 17)"]
    now.client.isSome = true ∧ (∃ p, Expression.parse "(age 17)" = .ok (some p)) ∧
      out.Unsent .connection := by
  intro settings backend now out
  have haccess : now.access = some ⟨"http://backend", some "a\nb"⟩ := by decide +kernel
  have hparse : Expression.parse "(age 17)" = .ok (some (.leaf .age [.scalar (.integer 17)])) := by
    decide +kernel
  have hnot : ¬Client.IsSendable "a\nb" := fun h => absurd (h '\n' (by decide)) (by decide)
  have hone : (Value.integer 1).toInt64 = .ok 1 := rfl
  have hassigns : out.Assigns now.access 1 1 "(age 17)" := by
    rw [show out = now.assign backend 1 1 "(age 17)" from call_assign hone hone _ _]
    exact assigns_assign (holds_run _).sound backend 1 1 "(age 17)"
  refine ⟨?_, ⟨_, hparse⟩, hassigns.unsendable _ _ haccess hparse (.inr ⟨_, rfl, hnot⟩)⟩
  decide +kernel

/-- After every run there is a client if one was started, and it asks as the last start and what was
set since then tell. Starting fails exactly for what is no configuration, and setting without a
client or for what is no token; whatever fails leaves the client and its token as they were. With a
client, the predicate of an expression is posted with that token, unless there is none or it cannot
be sent. What is shown of an expression is the same after every run. -/
theorem access_run (calls : List Call) :
    let now := run calls
    now.client.isSome = calls.any (·.config?.isSome) ∧
    (∀ backend, (now.call backend .hasClient []).result =
      .ok (.bool (calls.any (·.config?.isSome)))) ∧
    (∀ before call after config, calls = before ++ call :: after → call.config? = some config →
      (∀ later ∈ after, later.config? = none) →
      now.access = some ⟨Client.withoutFinalSlashes config.apiUrl,
        tokenAfter Call.newToken? config.token after⟩) ∧
    (∀ next : Call, next.command = .start →
      ((∃ v, (now.perform next).result = .ok v) ↔ next.config?.isSome)) ∧
    (∀ next : Call, next.command = .setToken →
      ((∃ v, (now.perform next).result = .ok v) ↔ now.client.isSome ∧ next.newToken?.isSome)) ∧
    (∀ (next : Call) (f : Fault), (now.perform next).result = .error f →
      (now.perform next).session.client = now.client ∧
        (now.perform next).session.stores = now.stores) ∧
    (∀ (backend : Backend) (x y : Value) (discountId storeId : Int64) (e : String),
      x.toInt64 = .ok discountId → y.toInt64 = .ok storeId →
      (now.call backend .assign [x, y, .text e]).Assigns now.access discountId storeId e) ∧
    ∀ (backend : Backend) (e : String),
      (now.call backend .parse [.text e]).result = shown Predicate.toValue e ∧
      (now.call backend .render [.text e]).result = shown (fun p => .text p.render) e := by
  intro now
  have hnow : now.Holds (calls.foldl Call.access none) := holds_run calls
  have hclient : now.client.isSome = calls.any (·.config?.isSome) := by
    have hsome := foldl_access calls none
    rwa [← hnow.access, access, Option.isSome_map] at hsome
  refine ⟨hclient, fun backend => ?_, ?_, fun next => result_start, fun next => result_setToken,
    fun next f hf => ?_, ?_, fun backend e => ⟨?_, ?_⟩⟩
  · rw [← hclient]
    rfl
  · rintro before call after config rfl hconfig hlater
    rw [hnow.access, List.foldl_append, List.foldl_cons, Call.access, hconfig]
    exact foldl_access_of_no_start hlater _
  · have hkeeps := keeps_of_error hf
    exact ⟨hkeeps.client, hkeeps.stores⟩
  · intro backend x y discountId storeId e hx hy
    rw [call_assign hx hy]
    exact assigns_assign hnow.sound backend discountId storeId e
  · exact result_showParsed hnow.sound _ e
  · exact result_showParsed hnow.sound _ e

-- A start without an address fails, and the client keeps the token that was set before.
example :
    let backend : Backend := fun _ => none
    let settings : Value := .dict [("api_url", .text "http://backend/"), ("token", .text "first")]
    (run [⟨.start, [settings], backend⟩, ⟨.setToken, [.text "second"], backend⟩,
      ⟨.start, [.dict []], backend⟩]).access = some ⟨"http://backend", some "second"⟩ := by
  decide +kernel

end DiscountPolicy.Session
