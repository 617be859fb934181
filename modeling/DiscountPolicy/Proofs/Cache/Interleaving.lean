import DiscountPolicy.Proofs.Cache

/-! Many callers of one cache at the same time. A call looks its expression up and, if that misses and
a predicate is parsed, inserts it in a second step; between the two anything may happen to the cache.
Every step keeps the cache sound and the calls honest, whatever was filled, emptied or cleared in
between, so every call returns what parsing returns. -/

namespace DiscountPolicy.Cache

abbrev Answer := Except Expression.Defect (Option Predicate)

/-- How far a call for an expression is. -/
inductive Call where
  /-- The expression is not looked up yet. -/
  | begun (expression : String)
  /-- It was not there; its predicate is parsed and to be inserted. -/
  | missed (expression : String) (p : Predicate)
  | returned (expression : String) (answer : Answer)

namespace Call

/-- What becomes of a call when its expression is looked up. After a miss it goes on only if there is
a predicate to insert. -/
def lookUp (c : Cache) (expression : String) : Call :=
  match c.find? expression with
  | some p => .returned expression (.ok (some p))
  | none =>
    match Expression.parse expression with
    | .ok (some p) => .missed expression p
    | answer => .returned expression answer

/-- The next step of a call, and the cache after it. -/
def step (c : Cache) : Call → Call × Cache
  | .begun e => (lookUp c e, c)
  | .missed e p => (.returned e (.ok (some p)), c.insert e p)
  | .returned e answer => (.returned e answer, c)

/-- The expression that the call is for. -/
def expression : Call → String
  | .begun e => e
  | .missed e _ => e
  | .returned e _ => e

/-- The greatest number of steps that the call still takes. -/
def stepsLeft : Call → Nat
  | .begun _ => 2
  | .missed _ _ => 1
  | .returned _ _ => 0

/-- What the call knows of its expression is what parsing says of it. -/
def Honest : Call → Prop
  | .begun _ => True
  | .missed e p => Expression.parse e = .ok (some p)
  | .returned e answer => answer = Expression.parse e

variable {c : Cache}

theorem honest_lookUp (hc : c.Sound) (e : String) : (lookUp c e).Honest := by
  unfold lookUp
  split
  · next p hfind => exact (hc.parse_of_find? hfind).symm
  · split
    · next p hparse => exact hparse
    · rfl

@[simp] theorem expression_lookUp (e : String) : (lookUp c e).expression = e := by
  unfold lookUp
  split
  · rfl
  · split <;> rfl

theorem stepsLeft_lookUp (e : String) : (lookUp c e).stepsLeft ≤ 1 := by
  unfold lookUp
  split
  · exact Nat.zero_le 1
  · split
    · exact Nat.le_refl 1
    · exact Nat.zero_le 1

@[simp] theorem expression_step (call : Call) : (call.step c).1.expression = call.expression := by
  cases call with
  | begun e => exact expression_lookUp e
  | missed e p => rfl
  | returned e answer => rfl

theorem stepsLeft_step (call : Call) : (call.step c).1.stepsLeft ≤ call.stepsLeft - 1 := by
  cases call with
  | begun e => exact stepsLeft_lookUp e
  | missed e p => exact Nat.le_refl 0
  | returned e answer => exact Nat.le_refl 0

/-- A step of an honest call keeps the cache sound and the call honest. -/
theorem Honest.step {call : Call} (h : call.Honest) (hc : c.Sound) :
    (call.step c).1.Honest ∧ (call.step c).2.Sound := by
  cases call with
  | begun e => exact ⟨honest_lookUp hc e, hc⟩
  | missed e p => exact ⟨Eq.symm h, hc.insert h⟩
  | returned e answer => exact ⟨h, hc⟩

/-- Two steps with nothing between them are a call of a cache that nobody shares. -/
theorem step_step (c : Cache) (e : String) :
    let first := (Call.begun e).step c
    first.1.step first.2 = (.returned e (c.parse e).1, (c.parse e).2) := by
  simp only [step, lookUp, parse]
  cases c.find? e with
  | some p => rfl
  | none =>
    rcases Expression.parse e with d | _ | p
    · rfl
    · rfl
    · rfl

end Call

/-! ### Runs -/

/-- A cache and all calls that were made, each with how far it is. -/
structure Shared where
  cache : Cache := .empty
  calls : List Call := []

/-- What may happen next. -/
inductive Event where
  /-- A new call is made. -/
  | call (expression : String)
  /-- A call takes its next step. -/
  | advance (call : Nat)
  | clear
  deriving DecidableEq

namespace Shared

def step (s : Shared) : Event → Shared
  | .call e => { s with calls := s.calls ++ [.begun e] }
  | .advance i =>
    match s.calls[i]? with
    | some call => ⟨(call.step s.cache).2, s.calls.set i (call.step s.cache).1⟩
    | none => s
  | .clear => { s with cache := .empty }

def runFrom (s : Shared) (events : List Event) : Shared := events.foldl step s

/-- A run from an empty cache, before any call. -/
def run (events : List Event) : Shared := runFrom {} events

structure Consistent (s : Shared) : Prop where
  cache : s.cache.Sound
  calls : ∀ call ∈ s.calls, call.Honest

theorem consistent_empty : Consistent {} := ⟨sound_empty, fun _ h => (nomatch h)⟩

theorem Consistent.step {s : Shared} (h : s.Consistent) (event : Event) :
    (s.step event).Consistent := by
  cases event with
  | call e =>
    refine ⟨h.cache, fun call hcall => ?_⟩
    rcases List.mem_append.mp hcall with hcall | hcall
    · exact h.calls call hcall
    · rw [List.mem_singleton.mp hcall]
      trivial
  | clear => exact ⟨sound_empty, h.calls⟩
  | advance i =>
    simp only [Shared.step]
    cases hi : s.calls[i]? with
    | none => exact h
    | some call =>
      obtain ⟨hcall, hcache⟩ := (h.calls call (List.mem_of_getElem? hi)).step h.cache
      refine ⟨hcache, fun other hother => ?_⟩
      rcases List.mem_or_eq_of_mem_set hother with hother | rfl
      · exact h.calls other hother
      · exact hcall

theorem Consistent.runFrom {s : Shared} (h : s.Consistent) (events : List Event) :
    (s.runFrom events).Consistent := by
  induction events generalizing s with
  | nil => exact h
  | cons event events ih => exact ih (h.step event)

/-! ### The progress of one call -/

/-- Events other than its own steps leave a call where it is; its own step is a step of the call. -/
theorem getElem?_step {s : Shared} {i : Nat} {call : Call} (hi : s.calls[i]? = some call)
    (event : Event) : (s.step event).calls[i]? =
      some (if event = .advance i then (call.step s.cache).1 else call) := by
  have hlt : i < s.calls.length := (List.getElem?_eq_some_iff.mp hi).1
  cases event with
  | call e => simp [step, List.getElem?_append_left hlt, hi]
  | clear => simp [step, hi]
  | advance j =>
    by_cases hj : j = i
    · subst hj
      simp only [step, hi, List.getElem?_set_self hlt, if_pos]
    · simp only [step, Event.advance.injEq, if_neg hj]
      split
      · simp [List.getElem?_set_ne hj, hi]
      · exact hi

/-- A call is for one expression all the time, and a run in which it takes `n` steps takes them off
those that are left. -/
theorem progress {s : Shared} {i : Nat} {call : Call} (hi : s.calls[i]? = some call)
    (events : List Event) : ∃ later, (s.runFrom events).calls[i]? = some later ∧
      later.expression = call.expression ∧
      later.stepsLeft ≤ call.stepsLeft - events.count (.advance i) := by
  induction events generalizing s call with
  | nil => exact ⟨call, hi, rfl, Nat.le_refl _⟩
  | cons event events ih =>
    obtain ⟨later, hlater, hexpression, hleft⟩ := ih (getElem?_step hi event)
    refine ⟨later, hlater, ?_, ?_⟩
    · rw [hexpression]
      split
      · exact Call.expression_step call
      · rfl
    · have hstep := call.stepsLeft_step (c := s.cache)
      rw [List.count_cons]
      by_cases hown : event = .advance i
      · simp only [if_pos hown, beq_iff_eq] at hleft ⊢
        omega
      · simp only [if_neg hown, beq_iff_eq] at hleft ⊢
        omega

/-- Whatever callers do and in whatever order their steps are taken, the cache holds only what
parsing gives, and not too much of it; every call that returned has returned what parsing gives, and
every call returns as soon as it has taken two steps; and inserting an expression that another call
has inserted in the meantime leaves the cache as it is. The two steps without anything between them
are what a cache does that nobody shares. -/
theorem run_transparent (events : List Event) :
    let s := run events
    (∀ e p, (e, p) ∈ s.cache.entries → Expression.parse e = .ok (some p)) ∧
    s.cache.size ≤ capacity ∧
    (∀ (i : Nat) e answer, s.calls[i]? = some (.returned e answer) → answer = Expression.parse e) ∧
    (∀ (i : Nat) e later, s.calls[i]? = some (.begun e) → 2 ≤ later.count (.advance i) →
      (s.runFrom later).calls[i]? = some (.returned e (Expression.parse e))) ∧
    (∀ (i : Nat) e p, s.calls[i]? = some (.missed e p) → e ∈ s.cache.keys →
      (s.step (.advance i)).cache = s.cache) ∧
    (∀ (c : Cache) e, let first := (Call.begun e).step c
      first.1.step first.2 = (.returned e (c.parse e).1, (c.parse e).2)) := by
  intro s
  have hs : s.Consistent := consistent_empty.runFrom events
  refine ⟨fun e p hmem => hs.cache.parsed (e, p) hmem, hs.cache.bounded, ?_, ?_, ?_,
    Call.step_step⟩
  · intro i e answer hi
    exact hs.calls _ (List.mem_of_getElem? hi)
  · intro i e later hi hcount
    obtain ⟨call, hcall, hexpression, hleft⟩ := progress hi later
    have hhonest := (hs.runFrom later).calls call (List.mem_of_getElem? hcall)
    rw [hcall]
    cases call with
    | begun e' => simp [Call.stepsLeft] at hleft; omega
    | missed e' p => simp [Call.stepsLeft] at hleft; omega
    | returned e' answer =>
      obtain rfl : e' = e := hexpression
      rw [show answer = Expression.parse e' from hhonest]
  · intro i e p hi hmem
    have hparse : Expression.parse e = .ok (some p) := hs.calls _ (List.mem_of_getElem? hi)
    simp only [step, hi, Call.step]
    exact hs.cache.insert_of_mem hparse hmem

end Shared

end DiscountPolicy.Cache
