import DiscountPolicy.Proofs.TokenStores
import Mathlib.Logic.ExistsUnique
import Mathlib.Logic.Relation

/-! Which stores hold one token between them. Stores are related if a chain of sharings leads from
one to the other. After any steps, the stores that are related to one are those at its place, and
so it holds what was put last into any of them. -/

namespace DiscountPolicy.TokenStores

/-- Steps that led to so many stores, the outermost one last. What is shared or put into is a store
that there is. An empty store is created with no token, and a store is cleared by putting none. -/
inductive History : Nat → Type where
  | start : History 0
  | create {n : Nat} (h : History n) (token : Option String) : History (n + 1)
  | share {n : Nat} (h : History n) (store : Fin n) : History (n + 1)
  | put {n : Nat} (h : History n) (store : Fin n) (token : Option String) : History n

namespace History

variable {n i j p : Nat}

/-- The stores after the steps. -/
def stores : {n : Nat} → History n → TokenStores
  | _, start => .empty
  | _, create h token => h.stores.create token
  | _, share h store => h.stores.share store
  | _, put h store token => h.stores.put store token

/-- The stores that were created and not shared from others, each with its first token. -/
def created : {n : Nat} → History n → List (Nat × Option String)
  | _, start => []
  | n + 1, create h token => h.created ++ [(n, token)]
  | _, share h _ => h.created
  | _, put h _ _ => h.created

/-- The stores that were shared, each with the store that came of it. -/
def shared : {n : Nat} → History n → List (Nat × Nat)
  | _, start => []
  | _, create h _ => h.shared
  | n + 1, share h store => h.shared ++ [(store.val, n)]
  | _, put h _ _ => h.shared

/-- A chain of sharings, each followed either way, leads from one store to the other. -/
def Related (h : History n) : Nat → Nat → Prop :=
  Relation.EqvGen fun i j => (i, j) ∈ h.shared

/-- What was put last into a store of the group, or the first token if nothing was. -/
def lastPut (group : Nat → Prop) [DecidablePred group] (first : Option String) :
    {n : Nat} → History n → Option String
  | _, start => first
  | _, create h _ => h.lastPut group first
  | _, share h _ => h.lastPut group first
  | _, put h store token => if group store then token else h.lastPut group first

/-! ### The stores that there are -/

section Places

variable {h : History n}

theorem size_stores (h : History n) : h.stores.size = n := by
  induction h with
  | start => rfl
  | create h token ih => simpa [stores, TokenStores.create, size] using ih
  | @share n h store ih =>
    rw [stores, TokenStores.share]
    split
    · simpa [size] using ih
    · next hnone =>
      have hlt : store.val < h.stores.size := by omega
      exact absurd (List.getElem?_eq_none_iff.mp hnone) (Nat.not_le.mpr hlt)
  | put h store token ih =>
    rw [stores, TokenStores.put]
    split <;> exact ih

theorem length_tokens (h : History n) : h.stores.tokens.length = h.created.length := by
  induction h with
  | start => rfl
  | create h token ih => simpa [stores, created, TokenStores.create] using ih
  | share h store ih => rw [stores, tokens_share, ih, created]
  | put h store token ih =>
    rw [stores, created, TokenStores.put]
    split
    · rw [List.length_set, ih]
    · exact ih

theorem lt_of_at (hat : h.stores.At i p) : i < n := h.size_stores ▸ hat.lt_size

theorem lt_length_of_at (hat : h.stores.At i p) : p < h.created.length :=
  h.length_tokens ▸ hat.held

theorem at_new_create (h : History n) (token : Option String) :
    (h.create token).stores.At n h.created.length := by
  have hat := at_create h.stores token
  rw [h.size_stores, h.length_tokens] at hat
  exact hat

theorem at_new_share {store : Fin n} (hat : h.stores.At store p) :
    (h.share store).stores.At n p := by
  have hshared := hat.shared
  rw [h.size_stores] at hshared
  exact hshared

theorem exists_at (h : History n) (hi : i < n) : ∃ place, h.stores.At i place := by
  induction h generalizing i with
  | start => omega
  | create h token ih =>
    rcases Nat.lt_succ_iff_lt_or_eq.mp hi with hi | rfl
    · obtain ⟨place, hat⟩ := ih hi
      exact ⟨place, hat.create token⟩
    · exact ⟨_, h.at_new_create token⟩
  | share h store ih =>
    rcases Nat.lt_succ_iff_lt_or_eq.mp hi with hi | rfl
    · obtain ⟨place, hat⟩ := ih hi
      exact ⟨place, hat.share store⟩
    · obtain ⟨place, hat⟩ := ih store.isLt
      exact ⟨place, at_new_share hat⟩
  | put h store token ih =>
    obtain ⟨place, hat⟩ := ih hi
    exact ⟨place, hat.put store token⟩

/-- What keeps a store where it is takes it nowhere else. -/
theorem at_iff_of_keeps (hi : i < n) {s : TokenStores}
    (hkeeps : ∀ place, h.stores.At i place → s.At i place) : s.At i p ↔ h.stores.At i p := by
  obtain ⟨place, hat⟩ := h.exists_at hi
  rw [(hkeeps place hat).at_iff, hat.at_iff]

theorem at_create_iff {token : Option String} (hi : i < n) :
    (h.create token).stores.At i p ↔ h.stores.At i p :=
  at_iff_of_keeps hi fun _ hat => hat.create token

theorem at_share_iff {store : Fin n} (hi : i < n) :
    (h.share store).stores.At i p ↔ h.stores.At i p :=
  at_iff_of_keeps hi fun _ hat => hat.share store

theorem at_put_iff {store : Fin n} {token : Option String} (hi : i < n) :
    (h.put store token).stores.At i p ↔ h.stores.At i p :=
  at_iff_of_keeps hi fun _ hat => hat.put store token

theorem at_of_create {token : Option String} (hat : (h.create token).stores.At i p) :
    h.stores.At i p ∨ (i = n ∧ p = h.created.length) := by
  rcases Nat.lt_succ_iff_lt_or_eq.mp (lt_of_at hat) with hi | rfl
  · exact .inl ((at_create_iff hi).mp hat)
  · exact .inr ⟨rfl, (h.at_new_create token).at_iff.mp hat⟩

theorem at_of_share {store : Fin n} (hat : (h.share store).stores.At i p) :
    h.stores.At i p ∨ (i = n ∧ h.stores.At store p) := by
  rcases Nat.lt_succ_iff_lt_or_eq.mp (lt_of_at hat) with hi | rfl
  · exact .inl ((at_share_iff hi).mp hat)
  · obtain ⟨place, hstore⟩ := h.exists_at store.isLt
    obtain rfl := (at_new_share hstore).at_iff.mp hat
    exact .inr ⟨rfl, hstore⟩

/-! ### Related stores are at one place -/

theorem Related.share (hr : h.Related i j) (store : Fin n) : (h.share store).Related i j :=
  Relation.EqvGen.mono (fun _ _ hmem => List.mem_append_left _ hmem) _ _ hr

theorem related_new (h : History n) (store : Fin n) : (h.share store).Related n store :=
  .symm _ _ (.rel _ _ (List.mem_append_right _ (List.mem_singleton.mpr rfl)))

theorem exists_at_of_shared (hmem : (i, j) ∈ h.shared) :
    ∃ place, h.stores.At i place ∧ h.stores.At j place := by
  induction h with
  | start => cases hmem
  | create h token ih =>
    obtain ⟨place, hi, hj⟩ := ih hmem
    exact ⟨place, hi.create token, hj.create token⟩
  | share h store ih =>
    rcases List.mem_append.mp hmem with hmem | hmem
    · obtain ⟨place, hi, hj⟩ := ih hmem
      exact ⟨place, hi.share store, hj.share store⟩
    · obtain ⟨rfl, rfl⟩ := Prod.mk.inj (List.mem_singleton.mp hmem)
      obtain ⟨place, hat⟩ := h.exists_at store.isLt
      exact ⟨place, hat.share store, at_new_share hat⟩
  | put h store token ih =>
    obtain ⟨place, hi, hj⟩ := ih hmem
    exact ⟨place, hi.put store token, hj.put store token⟩

theorem Related.at_iff (hr : h.Related i j) : h.stores.At i p ↔ h.stores.At j p := by
  have hone : Equivalence fun i j => ∀ p, h.stores.At i p ↔ h.stores.At j p :=
    ⟨fun _ _ => Iff.rfl, fun hij p => (hij p).symm, fun hij hjk p => (hij p).trans (hjk p)⟩
  refine hone.eqvGen_iff.mp (Relation.EqvGen.mono (fun i j hmem p => ?_) _ _ hr) p
  obtain ⟨place, hi, hj⟩ := exists_at_of_shared hmem
  rw [hi.at_iff, hj.at_iff]

theorem related_of_at (hi : h.stores.At i p) (hj : h.stores.At j p) : h.Related i j := by
  induction h generalizing i j p with
  | start => exact absurd (lt_of_at hi) (Nat.not_lt_zero i)
  | create h token ih =>
    -- The new store is alone at its place.
    rcases at_of_create hi with hi | ⟨rfl, rfl⟩
    · rcases at_of_create hj with hj | ⟨-, rfl⟩
      · exact ih hi hj
      · exact absurd (lt_length_of_at hi) (Nat.lt_irrefl _)
    · rcases at_of_create hj with hj | ⟨rfl, -⟩
      · exact absurd (lt_length_of_at hj) (Nat.lt_irrefl _)
      · exact .refl _
  | share h store ih =>
    -- The new store stands for the one that was shared.
    have hold : ∀ {k}, (h.share store).stores.At k p →
        ∃ l, h.stores.At l p ∧ (h.share store).Related k l := by
      intro k hk
      rcases at_of_share hk with hk | ⟨rfl, hstore⟩
      · exact ⟨k, hk, .refl _⟩
      · exact ⟨store, hstore, h.related_new store⟩
    obtain ⟨k, hk, hik⟩ := hold hi
    obtain ⟨l, hl, hjl⟩ := hold hj
    exact .trans _ _ _ hik (.trans _ _ _ ((ih hk hl).share store) (.symm _ _ hjl))
  | put h store token ih =>
    exact ih ((at_put_iff (lt_of_at hi)).mp hi) ((at_put_iff (lt_of_at hj)).mp hj)

/-- The stores that are related to one at a place are those at this place. -/
theorem related_iff_at (hi : h.stores.At i p) : h.Related j i ↔ h.stores.At j p :=
  ⟨fun hr => hr.at_iff.mpr hi, fun hj => related_of_at hj hi⟩

theorem related_iff_places (h : History n) (i : Fin n) :
    h.Related j i ↔ h.stores.places[j]? = h.stores.places[i.val]? := by
  obtain ⟨place, hi⟩ := h.exists_at i.isLt
  rw [related_iff_at hi, hi.found]
  exact ⟨fun hj => hj.found, fun hfound => ⟨hfound, hi.held⟩⟩

instance (h : History n) (j : Nat) (i : Fin n) : Decidable (h.Related j i) :=
  decidable_of_iff _ (h.related_iff_places i).symm

/-! ### The stores that were created -/

theorem created_of_create {token : Option String} {c : Nat × Option String}
    (hc : (h.create token).created[p]? = some c) :
    h.created[p]? = some c ∨ (p = h.created.length ∧ c = (n, token)) := by
  rw [created, List.getElem?_append] at hc
  split at hc
  · exact .inl hc
  · rw [List.getElem?_singleton] at hc
    split at hc
    · exact .inr ⟨by omega, (Option.some.inj hc).symm⟩
    · cases hc

theorem at_of_created {c : Nat × Option String} (hc : h.created[p]? = some c) :
    h.stores.At c.1 p := by
  induction h with
  | start => cases hc
  | create h token ih =>
    rcases created_of_create hc with hc | ⟨rfl, rfl⟩
    · exact (ih hc).create token
    · exact h.at_new_create token
  | share h store ih => exact (ih hc).share store
  | put h store token ih => exact (ih hc).put store token

/-- Of the stores at a place, one was created there. -/
theorem created_iff (hi : h.stores.At i p) {c : Nat × Option String} :
    c ∈ h.created ∧ h.Related c.1 i ↔ h.created[p]? = some c := by
  refine ⟨fun ⟨hmem, hr⟩ => ?_, fun hc => ?_⟩
  · obtain ⟨q, hq⟩ := List.mem_iff_getElem?.mp hmem
    obtain rfl := (at_of_created hq).at_iff.mp (hr.at_iff.mpr hi)
    exact hq
  · exact ⟨List.mem_of_getElem? hc, related_of_at (at_of_created hc) hi⟩

end Places

/-! ### What stores hold -/

section Tokens

variable {h : History n} {first : Option String}

theorem lastPut_congr {group group' : Nat → Prop} [DecidablePred group] [DecidablePred group']
    (h : History n) (hsame : ∀ j < n, group j ↔ group' j) :
    h.lastPut group first = h.lastPut group' first := by
  induction h with
  | start => rfl
  | create h token ih => exact ih fun j hj => hsame j (by omega)
  | share h store ih => exact ih fun j hj => hsame j (by omega)
  | put h store token ih => simp only [lastPut, hsame store store.isLt, ih hsame]

theorem lastPut_of_none {group : Nat → Prop} [DecidablePred group] (h : History n)
    (hnone : ∀ j < n, ¬group j) : h.lastPut group first = first := by
  induction h with
  | start => rfl
  | create h token ih => exact ih fun j hj => hnone j (by omega)
  | share h store ih => exact ih fun j hj => hnone j (by omega)
  | put h store token ih => rw [lastPut, if_neg (hnone store store.isLt), ih hnone]

/-- A place holds what was put last into a store at it, and before that the token of the store that
was created there. -/
theorem tokens_eq_lastPut {c : Nat × Option String} (hc : h.created[p]? = some c) :
    h.stores.tokens[p]? = some (h.lastPut (h.stores.At · p) c.2) := by
  induction h with
  | start => cases hc
  | @create n h token ih =>
    have htokens : (h.create token).stores.tokens = h.stores.tokens ++ [token] := rfl
    rw [htokens, lastPut]
    rcases created_of_create hc with hc | ⟨rfl, rfl⟩
    · rw [List.getElem?_append_left (List.getElem?_eq_some_iff.mp (ih hc)).1, ih hc]
      exact congrArg some (h.lastPut_congr fun j hj => (at_create_iff hj).symm)
    · -- Nothing was put in yet: no other store is at the new place.
      have hnone : ∀ j < n, ¬(h.create token).stores.At j h.created.length := fun j hj hat =>
        Nat.lt_irrefl _ (lt_length_of_at ((at_create_iff hj).mp hat))
      rw [h.lastPut_of_none hnone, ← h.length_tokens, List.getElem?_concat_length]
  | share h store ih =>
    have htokens : (h.share store).stores.tokens = h.stores.tokens := tokens_share ..
    rw [htokens, lastPut, ih hc]
    exact congrArg some (h.lastPut_congr fun j hj => (at_share_iff hj).symm)
  | put h store token ih =>
    obtain ⟨place, hat⟩ := h.exists_at store.isLt
    have htokens : (h.put store token).stores.tokens = h.stores.tokens.set place token :=
      hat.tokens_put token
    have hstore : (h.put store token).stores.At store place := hat.put store token
    have hgroup : h.lastPut ((h.put store token).stores.At · p) c.2 =
        h.lastPut (h.stores.At · p) c.2 := h.lastPut_congr fun j hj => at_put_iff hj
    rw [htokens, lastPut, hgroup]
    by_cases hp : p = place
    · subst hp
      rw [if_pos hstore, List.getElem?_set_self hat.held]
    · have hapart : ¬(h.put store token).stores.At store p := fun hother =>
        hp (hstore.at_iff.mp hother)
      rw [if_neg hapart, List.getElem?_set_ne (Ne.symm hp), ih hc]

/-- After every history a store holds what was put last into any store that is related to it, and if
nothing was, the token that the one of them that was not shared from another was created with. One
more step changes what it holds only if it puts a token into a related store. -/
theorem get_eq_lastPut (h : History n) (i : Fin n) :
    h.stores.size = n ∧
    (∃! c, c ∈ h.created ∧ h.Related c.1 i) ∧
    (∀ c ∈ h.created, h.Related c.1 i → h.stores.get i = h.lastPut (h.Related · i) c.2) ∧
    (∀ (store : Fin n) (token : Option String), ¬h.Related store i →
      (h.stores.put store token).get i = h.stores.get i) ∧
    (∀ token : Option String, (h.stores.create token).get i = h.stores.get i) ∧
    (∀ store : Fin n, (h.stores.share store).get i = h.stores.get i) := by
  obtain ⟨place, hi⟩ := h.exists_at i.isLt
  refine ⟨h.size_stores, ?_, fun c hmem hr => ?_, fun store token hapart => ?_, hi.get_of_create,
    fun store => hi.get_of_share store⟩
  · have hc := List.getElem?_eq_getElem (lt_length_of_at hi)
    refine ⟨_, (created_iff hi).mpr hc, fun d hd => ?_⟩
    exact Option.some.inj (((created_iff hi).mp hd).symm.trans hc)
  · rw [hi.get_eq, tokens_eq_lastPut ((created_iff hi).mp ⟨hmem, hr⟩), Option.join_some]
    exact h.lastPut_congr fun j _ => (related_iff_at hi).symm
  · obtain ⟨q, hstore⟩ := h.exists_at store.isLt
    refine get_put_of_ne hstore hi (fun hsame => hapart ?_) token
    subst hsame
    exact related_of_at hstore hi

/-- What is put into one of three stores that come of each other by sharing, all three hold. -/
example :
    let h := (((History.start.create (some "a")).share 0).put 1 (some "b")).share 1
    h.stores.all = [some "b", some "b", some "b"] ∧
    ((h.create none).put 2 (some "c")).stores.all = [some "c", some "c", some "c", none] := by
  decide

end Tokens

end History

end DiscountPolicy.TokenStores
