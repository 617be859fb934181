import DiscountPolicy.TokenStores

/-! Where stores hold their tokens. Two stores at one place hold one token, whichever of them it is
set in; and a store stays at its place whatever else is shared or set. In a run of steps
some of which set a token, the last of these counts. -/

namespace DiscountPolicy.TokenStores

variable {s : TokenStores} {i j p : Nat}

/-- The store holds its token at the place. -/
structure At (s : TokenStores) (store place : Nat) : Prop where
  found : s.places[store]? = some place
  held : place < s.tokens.length

instance : Decidable (s.At i p) :=
  decidable_of_iff (s.places[i]? = some p ∧ p < s.tokens.length)
    ⟨fun h => ⟨h.1, h.2⟩, fun h => ⟨h.found, h.held⟩⟩

theorem At.get_eq (h : s.At i p) : s.get i = s.tokens[p]?.join := by
  rw [get, h.found, Option.bind_some]

theorem At.lt_size (h : s.At i p) : i < s.size := (List.getElem?_eq_some_iff.mp h.found).1

theorem At.at_iff (h : s.At i p) {q : Nat} : s.At i q ↔ q = p := by
  refine ⟨fun hq => ?_, fun hq => hq ▸ h⟩
  exact Option.some.inj (hq.found.symm.trans h.found)

/-! ### One more store -/

theorem at_create (s : TokenStores) (token : Option String) :
    (s.create token).At s.size s.tokens.length :=
  ⟨by simp [create, size], by simp [create]⟩

theorem get_create (s : TokenStores) (token : Option String) :
    (s.create token).get s.size = token := by
  rw [(at_create s token).get_eq]
  simp [create]

theorem tokens_share (s : TokenStores) (store : Nat) : (s.share store).tokens = s.tokens := by
  rw [share]
  split <;> rfl

namespace At

theorem create (h : s.At i p) (token : Option String) : (s.create token).At i p := by
  have hheld := h.held
  refine ⟨?_, by simp only [TokenStores.create, List.length_append]; omega⟩
  simp only [TokenStores.create]
  rw [List.getElem?_append_left h.lt_size]
  exact h.found

theorem get_of_create (h : s.At i p) (token : Option String) :
    (s.create token).get i = s.get i := by
  rw [(h.create token).get_eq, h.get_eq]
  simp only [TokenStores.create]
  rw [List.getElem?_append_left h.held]

/-- A store that is shared stays where it is, and so do all others. -/
theorem share (h : s.At i p) (j : Nat) : (s.share j).At i p := by
  obtain ⟨hlt, -⟩ := List.getElem?_eq_some_iff.mp h.found
  rw [TokenStores.share]
  split
  · refine ⟨?_, h.held⟩
    rw [List.getElem?_append_left hlt]
    exact h.found
  · exact h

theorem shared (h : s.At i p) : (s.share i).At s.size p := by
  rw [TokenStores.share, h.found]
  exact ⟨by simp [size], h.held⟩

theorem get_share (h : s.At i p) : (s.share i).get s.size = s.get i := by
  rw [h.shared.get_eq, h.get_eq, tokens_share]

theorem get_of_share (h : s.At i p) (j : Nat) : (s.share j).get i = s.get i := by
  rw [(h.share j).get_eq, h.get_eq, tokens_share]

end At

/-! ### Setting a token -/

theorem At.put (h : s.At i p) (j : Nat) (token : Option String) : (s.put j token).At i p := by
  rw [TokenStores.put]
  split
  · exact ⟨h.found, by rw [List.length_set]; exact h.held⟩
  · exact h

theorem At.tokens_put (h : s.At i p) (token : Option String) :
    (s.put i token).tokens = s.tokens.set p token := by
  rw [TokenStores.put, h.found]

/-- What is set in a store is held by every store at its place. -/
theorem get_put (hi : s.At i p) (hj : s.At j p) (token : Option String) :
    (s.put i token).get j = token := by
  rw [(hj.put i token).get_eq, hi.tokens_put]
  simp [hi.held]

theorem get_put_of_ne {q : Nat} (hi : s.At i p) (hj : s.At j q) (hne : p ≠ q)
    (token : Option String) : (s.put i token).get j = s.get j := by
  rw [(hj.put i token).get_eq, hj.get_eq, hi.tokens_put, List.getElem?_set_ne hne]

/-! ### Runs -/

section Run

variable {α : Type} (newToken? : α → Option (Option String)) (first : Option String)

/-- The token after steps: the one that the last of them that sets or clears it leaves, and the
first token if none does. -/
def tokenAfter (steps : List α) : Option String := (steps.filterMap newToken?).getLast?.getD first

theorem tokenAfter_cons (step : α) (steps : List α) :
    tokenAfter newToken? first (step :: steps) =
      tokenAfter newToken? ((newToken? step).getD first) steps := by
  rw [tokenAfter, tokenAfter]
  cases h : newToken? step with
  | none => rw [List.filterMap_cons_none h, Option.getD_none]
  | some token => rw [List.filterMap_cons_some h, List.getLast?_cons, Option.getD_some, Option.getD_some]

end Run

end DiscountPolicy.TokenStores
