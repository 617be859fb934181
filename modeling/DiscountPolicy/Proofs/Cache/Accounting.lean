import DiscountPolicy.Proofs.Cache
import DiscountPolicy.Proofs.Expression.Grammar

/-! What a cache holds after a run of calls, each of which ends before the next one begins. The calls
that put something into the cache are recorded; the cache holds the latest of them, and how many is
settled by their number alone. -/

namespace DiscountPolicy.Cache

/-- A call for the expression misses, and parses it to a predicate. -/
def fills (c : Cache) (expression : String) : Bool :=
  match c.find? expression, Expression.parse expression with
  | none, .ok (some _) => true
  | _, _ => false

theorem fills_iff {c : Cache} {e : String} :
    c.fills e = true ↔ e ∉ c.keys ∧ ∃ p, Expression.parse e = .ok (some p) := by
  rw [fills, ← find?_eq_none_iff]
  cases c.find? e with
  | some p => simp
  | none =>
    rcases Expression.parse e with d | _ | p
    · simp
    · simp
    · simp

/-- All that a call does to the cache. -/
theorem parse_cases (c : Cache) (e : String) :
    (c.fills e = false ∧ (c.parse e).2 = c) ∨
    (∃ p, c.fills e = true ∧ e ∉ c.keys ∧ Expression.parse e = .ok (some p) ∧
      (c.parse e).2 = c.insert e p) := by
  rw [fills, parse, ← find?_eq_none_iff]
  cases c.find? e with
  | some p => exact .inl ⟨rfl, rfl⟩
  | none =>
    rcases Expression.parse e with d | _ | p
    · exact .inl ⟨rfl, rfl⟩
    · exact .inl ⟨rfl, rfl⟩
    · exact .inr ⟨p, rfl, rfl, rfl, rfl⟩

theorem parse_of_not_fills {c : Cache} {e : String} (h : ¬c.fills e = true) :
    (c.parse e).2 = c := by
  rcases c.parse_cases e with ⟨-, hsame⟩ | ⟨p, hfills, -⟩
  · exact hsame
  · exact absurd hfills h

/-- A call answers as parsing does, whatever is held. -/
theorem Sound.parse_fst {c : Cache} (h : c.Sound) (e : String) :
    (c.parse e).1 = Expression.parse e := by
  rw [Cache.parse]
  cases hfind : c.find? e with
  | some p => exact (h.parse_of_find? hfind).symm
  | none => rfl

theorem Sound.parse_snd {c : Cache} (h : c.Sound) (e : String) : (c.parse e).2.Sound := by
  rcases c.parse_cases e with ⟨-, hcache⟩ | ⟨p, -, -, hparse, hcache⟩
  · rw [hcache]
    exact h
  · rw [hcache]
    exact h.insert hparse

/-! ### Runs -/

/-- What may be asked of a cache. -/
inductive Operation where
  | parse (expression : String)
  | clear
  deriving DecidableEq, Repr

/-- A cache, and the expressions of the calls that filled it since it was last cleared, the last
one first. -/
structure History where
  cache : Cache := .empty
  filled : List String := []
  deriving DecidableEq, Repr

namespace History

def step (h : History) : Operation → History
  | .parse e => ⟨(h.cache.parse e).2, if h.cache.fills e then e :: h.filled else h.filled⟩
  | .clear => {}

/-- A run from a cleared cache. -/
def run (operations : List Operation) : History := operations.foldl step {}

/-- The size for a number of calls that filled the cache. -/
def sizeAfter (fillings : Nat) : Nat := if fillings = 0 then 0 else (fillings - 1) % 1024 + 1

theorem sizeAfter_succ (n : Nat) :
    sizeAfter (n + 1) = if capacity ≤ sizeAfter n then 1 else sizeAfter n + 1 := by
  by_cases hzero : n = 0
  · subst hzero
    rfl
  · rw [sizeAfter, sizeAfter, if_neg hzero, if_neg (Nat.succ_ne_zero n), capacity]
    split <;> omega

/-- The cache is accounted for by the calls that filled it. -/
structure Accounted (h : History) : Prop where
  sound : h.cache.Sound
  size : h.cache.size = sizeAfter h.filled.length
  keys : h.cache.keys = h.filled.take h.cache.size

theorem accounted_empty : Accounted {} := ⟨sound_empty, rfl, rfl⟩

theorem Accounted.step {h : History} (acc : h.Accounted) (op : Operation) :
    (h.step op).Accounted := by
  cases op with
  | clear => exact accounted_empty
  | parse e =>
    simp only [History.step]
    rcases h.cache.parse_cases e with ⟨hfills, hcache⟩ | ⟨p, hfills, hmem, hparse, hcache⟩
    · rw [hfills, hcache]
      exact acc
    · have hsound := acc.sound.insert hparse
      rw [hfills, hcache, if_pos rfl]
      rw [insert_of_notMem hmem] at hsound ⊢
      have hsize := sizeAfter_succ h.filled.length
      rw [← acc.size] at hsize
      split
      · next hfull =>
        -- The new expression is the only one that is left.
        rw [if_pos hfull] at hsound hsize
        exact ⟨hsound, hsize.symm, rfl⟩
      · next hroom =>
        rw [if_neg hroom] at hsound hsize
        refine ⟨hsound, hsize.symm, ?_⟩
        exact congrArg (e :: ·) acc.keys

theorem accounted_run (operations : List Operation) : (run operations).Accounted := by
  have hfold : ∀ h : History, h.Accounted → (operations.foldl History.step h).Accounted := by
    induction operations with
    | nil => exact fun h acc => acc
    | cons op operations ih => exact fun h acc => ih _ (acc.step op)
  exact hfold {} accounted_empty

/-- After every run the cache holds exactly the expressions of the latest calls that filled it, each
of them once, and their number follows from the number of these calls. A call hits exactly if its
expression is among them, and a call that hits, fails or has no words leaves the cache as it is. -/
theorem keys_run (operations : List Operation) :
    let h := run operations
    (h.cache.size = if h.filled.length = 0 then 0 else (h.filled.length - 1) % 1024 + 1) ∧
    h.cache.keys = h.filled.take h.cache.size ∧
    h.cache.keys.Nodup ∧
    (∀ e, h.cache.contains e = true ↔ e ∈ h.filled.take h.cache.size) ∧
    (∀ e, h.cache.contains e = true ∨ (∃ d, Expression.parse e = .error d) ∨
      Expression.words e = [] → (h.cache.parse e).2 = h.cache) := by
  intro h
  have acc : h.Accounted := accounted_run operations
  refine ⟨acc.size, acc.keys, acc.sound.distinct, fun e => ?_, fun e hkept => ?_⟩
  · rw [contains_iff, acc.keys]
  · refine parse_of_not_fills fun hfills => ?_
    obtain ⟨hmem, p, hparse⟩ := fills_iff.mp hfills
    rcases hkept with hhit | ⟨d, hd⟩ | hwords
    · exact hmem (contains_iff.mp hhit)
    · rw [hd] at hparse
      cases hparse
    · rw [Expression.parse, Expression.read, hwords, Expression.build_nil] at hparse
      cases hparse

end History

end DiscountPolicy.Cache
