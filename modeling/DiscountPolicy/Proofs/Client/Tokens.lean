import DiscountPolicy.Failure
import DiscountPolicy.Proofs.Client
import DiscountPolicy.Proofs.TokenStores

/-! Two clients that share a token, and what requests through either of them carry. The token of the
moment is the one that was set last, whichever of the two it was set through; what backends reply
changes nothing for later requests. -/

namespace DiscountPolicy.Client

/-! ### Operations -/

/-- What may be asked of a client. -/
inductive Operation where
  | setToken (token : String)
  | clearToken
  | get (path : String)
  | post (path : String) (body : Json)
  | assign (discountId storeId : Int64) (p : Predicate)

/-- What an operation makes the token, if it sets or clears it. -/
def Operation.newToken? : Operation → Option (Option String)
  | .setToken token => some (some token)
  | .clearToken => some none
  | .get .. | .post .. | .assign .. => none

def operate (c : Client) (stores : TokenStores) : Operation → TokenStores
  | .setToken token => c.setToken stores (some token)
  | .clearToken => c.setToken stores none
  | .get .. | .post .. | .assign .. => stores

/-- The exchange of an operation that makes a request. -/
def exchange? (c : Client) (stores : TokenStores) (backend : Backend) : Operation → Option Exchange
  | .setToken _ | .clearToken => none
  | .get path => some (c.get stores backend path)
  | .post path body => some (c.post stores backend path body)
  | .assign discountId storeId p => some (c.assign stores backend discountId storeId p)

/-- The path that an operation makes a request for, if it makes one. -/
def Operation.path? : Operation → Option String
  | .setToken _ | .clearToken => none
  | .get path | .post path _ => some path
  | .assign .. => some assignPath

theorem exists_send {op : Operation} {path : String} (h : op.path? = some path) :
    ∃ method body, ∀ (c : Client) (stores : TokenStores) (backend : Backend),
      c.exchange? stores backend op = some (c.send stores backend method path body) := by
  cases op with
  | setToken token => cases h
  | clearToken => cases h
  | get p =>
    obtain rfl := Option.some.inj h
    exact ⟨.get, none, fun _ _ _ => rfl⟩
  | post p body =>
    obtain rfl := Option.some.inj h
    exact ⟨.post, some body, fun _ _ _ => rfl⟩
  | assign discountId storeId p =>
    obtain rfl := Option.some.inj h
    exact ⟨.post, some (assignment discountId storeId p), fun _ _ _ => rfl⟩

theorem operate_eq (c : Client) (stores : TokenStores) (op : Operation) :
    c.operate stores op = match op.newToken? with
      | some token => c.setToken stores token
      | none => stores := by
  cases op <;> rfl

/-! ### Two clients -/

/-- Two clients, and the stores of their tokens. -/
structure Pair where
  client : Client
  twin : Client
  stores : TokenStores

/-- A step: an operation of one of the clients, and how the backend replies. -/
structure Step where
  viaTwin : Bool
  operation : Operation
  backend : Backend

def Step.newToken? (s : Step) : Option (Option String) := s.operation.newToken?

/-- What is asked in a step, and of which client. -/
def Step.asks (s : Step) : Bool × Operation := (s.viaTwin, s.operation)

namespace Pair

/-- A client for a configuration, and one that shares its token. -/
def start (stores : TokenStores) (config : Config) : Except Config.Problem Pair := do
  let (client, stores) ← Client.start stores config
  let (twin, stores) := client.twin stores
  return ⟨client, twin, stores⟩

/-- The client that a step is asked of. -/
def asked (pair : Pair) (s : Step) : Client := if s.viaTwin then pair.twin else pair.client

def exchange? (pair : Pair) (s : Step) : Option Exchange :=
  (pair.asked s).exchange? pair.stores s.backend s.operation

def step (pair : Pair) (s : Step) : Pair :=
  { pair with stores := (pair.asked s).operate pair.stores s.operation }

def run (pair : Pair) (steps : List Step) : Pair := steps.foldl step pair

/-- Both clients ask one backend, and their stores are at one place, which holds the token. -/
structure Shares (pair : Pair) (baseUrl : String) (token : Option String) : Prop where
  client : pair.client.baseUrl = baseUrl
  twin : pair.twin.baseUrl = baseUrl
  tied : ∃ place, pair.stores.At pair.client.store place ∧ pair.stores.At pair.twin.store place
  token : pair.client.token pair.stores = token

namespace Shares

variable {pair : Pair} {baseUrl : String} {token : Option String}

theorem token_asked (h : pair.Shares baseUrl token) (s : Step) :
    (pair.asked s).token pair.stores = token := by
  obtain ⟨place, hclient, htwin⟩ := h.tied
  rw [asked]
  split
  · rw [← h.token, Client.token, Client.token, hclient.get_eq, htwin.get_eq]
  · exact h.token

theorem at_asked (h : pair.Shares baseUrl token) (s : Step) :
    ∃ place, pair.stores.At (pair.asked s).store place ∧
      pair.stores.At pair.client.store place ∧ pair.stores.At pair.twin.store place := by
  obtain ⟨place, hclient, htwin⟩ := h.tied
  refine ⟨place, ?_, hclient, htwin⟩
  rw [asked]
  split
  · exact htwin
  · exact hclient

theorem step (h : pair.Shares baseUrl token) (s : Step) :
    (pair.step s).Shares baseUrl (s.newToken?.getD token) := by
  obtain ⟨place, hasked, hclient, htwin⟩ := h.at_asked s
  rw [Pair.step, operate_eq]
  rw [Step.newToken?]
  cases s.operation.newToken? with
  | none => exact h
  | some new =>
    refine ⟨h.client, h.twin, ⟨place, hclient.put .., htwin.put ..⟩, ?_⟩
    exact TokenStores.get_put hasked hclient new

theorem run (h : pair.Shares baseUrl token) (steps : List Step) :
    (pair.run steps).Shares baseUrl (TokenStores.tokenAfter Step.newToken? token steps) := by
  induction steps generalizing pair token with
  | nil => exact h
  | cons s steps ih =>
    rw [TokenStores.tokenAfter_cons]
    exact ih (h.step s)

end Shares

theorem shares_start {stores : TokenStores} {config : Config} {pair : Pair}
    (h : start stores config = .ok pair) :
    pair.Shares (withoutFinalSlashes config.apiUrl) config.token := by
  obtain ⟨⟨client, created⟩, hclient, hpair⟩ := bind_eq_ok_iff.mp h
  obtain rfl := Except.ok.inj hpair
  obtain ⟨-, rfl, rfl⟩ := start_eq_ok_iff.mp hclient
  have hat := TokenStores.at_create stores config.token
  have hshared := hat.share stores.size
  refine ⟨rfl, rfl, ⟨_, hshared, hat.shared⟩, ?_⟩
  -- The client's own store still holds what it held before it was shared.
  calc ((stores.create config.token).share stores.size).get stores.size
      = ((stores.create config.token).share stores.size).get (stores.create config.token).size :=
        hshared.get_eq.trans hat.shared.get_eq.symm
    _ = (stores.create config.token).get stores.size := hat.get_share
    _ = config.token := TokenStores.get_create stores config.token

/-! ### Replies -/

/-- What backends reply in a step plays no part in what comes after it. -/
theorem step_congr (pair : Pair) {s t : Step} (h : s.asks = t.asks) : pair.step s = pair.step t := by
  obtain ⟨viaTwin, operation, backend⟩ := s
  obtain ⟨rfl, rfl⟩ := Prod.mk.inj h
  rfl

theorem run_congr (pair : Pair) {steps other : List Step}
    (h : other.map Step.asks = steps.map Step.asks) : pair.run other = pair.run steps := by
  induction steps generalizing pair other with
  | nil => rw [List.map_eq_nil_iff.mp h]
  | cons s steps ih =>
    obtain ⟨t, rest, rfl, hhead, htail⟩ := List.map_eq_cons_iff.mp h
    rw [run, List.foldl_cons, pair.step_congr hhead]
    exact ih _ htail

/-! ### Requests -/

/-- An address may say who asks. Then a request names them without a token, and before the token if
there is one. -/
theorem authorization_of_address :
    let client : Client := { baseUrl := "http://u:p@backend", store := 0 }
    let pair : Pair := ⟨client, { client with store := 1 }, ⟨[none], [0, 0]⟩⟩
    let next : Step := ⟨false, .get "/p", fun _ => none⟩
    start .empty (Config.ofUrl "http://u:p@backend") = .ok pair ∧
    pair.client.token pair.stores = none ∧
    ((pair.exchange? next).bind (·.request)).map (·.authorization) = some ["Basic dTpw"] ∧
    (((pair.step ⟨true, .setToken "tk", fun _ => none⟩).exchange? next).bind (·.request)).map
      (·.authorization) = some ["Basic dTpw", "Bearer tk"] := by
  refine ⟨rfl, rfl, ?_, ?_⟩
  · decide +kernel
  · decide +kernel

/-- After every run both clients hold the token that was set last, through either of them, or the
configured one. A request carries what its address says of who asks, and then that token; it is made
unless the address or the token cannot be sent. Replies change nothing: a run in which the same was
asked and backends replied otherwise ends in the same. -/
theorem token_run {stores : TokenStores} {config : Config} {pair : Pair}
    (h : start stores config = .ok pair) (steps : List Step) :
    let now := pair.run steps
    let token := TokenStores.tokenAfter Step.newToken? config.token steps
    now.client.token now.stores = token ∧ now.twin.token now.stores = token ∧
    now.client.baseUrl = withoutFinalSlashes config.apiUrl ∧
    now.twin.baseUrl = withoutFinalSlashes config.apiUrl ∧
    (∀ (next : Step) (path : String), next.operation.path? = some path →
      ∃ e, now.exchange? next = some e ∧
        (∀ url, sendable? ((now.asked next).url path) = some url →
          (∀ t, token = some t → IsSendable t) →
            ∃ r, e.request = some r ∧ r.url = url ∧
              r.authorization = (url.credentials.map Credentials.basic).toList ++
                (token.map ("Bearer " ++ ·)).toList) ∧
        (sendable? ((now.asked next).url path) = none ∨ (∃ t, token = some t ∧ ¬IsSendable t) →
          e.request = none ∧ ∃ f, e.result = .error f ∧ (Failure.client f).kind = .http)) ∧
    (∀ other : List Step, other.map Step.asks = steps.map Step.asks → pair.run other = now) := by
  intro now token
  have hnow : now.Shares (withoutFinalSlashes config.apiUrl) token := (shares_start h).run steps
  refine ⟨hnow.token, hnow.token_asked ⟨true, .clearToken, fun _ => none⟩, hnow.client, hnow.twin,
    fun next path hpath => ?_, fun other => pair.run_congr⟩
  obtain ⟨method, body, hsend⟩ := exists_send hpath
  refine ⟨_, hsend (now.asked next) now.stores next.backend, fun url hurl htoken => ?_, ?_⟩
  · rw [← hnow.token_asked next] at htoken ⊢
    exact ⟨_, request_of_sendable hurl htoken, rfl, rfl⟩
  · rw [← hnow.token_asked next]
    exact exchange_of_unsendable

/-- A token that is set through the second client after a refusal is what the first one sends next,
and a token with a line break in it is not sent. -/
theorem token_run_twin :
    let config : Config := { apiUrl := "https://backend/", token := some "first" }
    let client : Client := { baseUrl := "https://backend", store := 0 }
    let pair : Pair := ⟨client, { client with store := 1 }, ⟨[some "first"], [0, 0]⟩⟩
    let refusing : Backend := fun _ => some ⟨401, "expired"⟩
    let steps : List Step := [⟨false, .get "a", refusing⟩, ⟨true, .setToken "second", refusing⟩]
    let broken : List Step := [⟨false, .setToken "a\nb", refusing⟩]
    let next : Step := ⟨false, .post "b" .null, refusing⟩
    start .empty config = .ok pair ∧
    (pair.run steps).client.token (pair.run steps).stores = some "second" ∧
    (∃ e r, (pair.run steps).exchange? next = some e ∧ e.request = some r ∧
      r.authorization = ["Bearer second"]) ∧
    ∃ e, (pair.run broken).exchange? next = some e ∧ e.request = none := by
  intro config client pair refusing steps broken next
  have hstart : start .empty config = .ok pair := by
    subst config
    rfl
  obtain ⟨htoken, -, -, -, hrequest, -⟩ := token_run hstart steps
  obtain ⟨-, -, -, -, hbroken, -⟩ := token_run hstart broken
  have hcredentials : (sendable? (((pair.run steps).asked next).url "b")).map (·.credentials) =
      some none := by
    decide +kernel
  obtain ⟨url, hurl, hnone⟩ := Option.map_eq_some_iff.mp hcredentials
  obtain ⟨e, he, hsent, -⟩ := hrequest next "b" rfl
  have hsendable : ∀ t, some "second" = some t → IsSendable t := by
    rintro t ⟨⟩
    exact List.all_eq_true.mp (by decide +kernel)
  obtain ⟨r, hr, -, hauthorization⟩ := hsent url hurl hsendable
  obtain ⟨e', he', -, hunsent⟩ := hbroken next "b" rfl
  have hunsendable : ¬IsSendable "a\nb" := fun h => absurd (h '\n' (by decide)) (by decide)
  refine ⟨hstart, htoken, ⟨e, r, he, hr, ?_⟩, e', he', ?_⟩
  · rw [hauthorization, hnone]
    rfl
  · exact (hunsent (.inr ⟨_, rfl, hunsendable⟩)).1

end Pair

end DiscountPolicy.Client
