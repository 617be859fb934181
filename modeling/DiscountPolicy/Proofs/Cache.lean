import DiscountPolicy.Predicate.Cache
import DiscountPolicy.Proofs.Outcome

/-! What a cache holds: its keys, and `Sound`, which every insertion keeps. In a sound cache the
predicate under a key is the one that the key parses to, so an insertion under a key that is there
already changes nothing at all. -/

namespace DiscountPolicy.Cache

/-- The expressions that are held, the last one first. -/
def keys (c : Cache) : List String := c.entries.map Prod.fst

theorem find?_eq_none_iff {c : Cache} {e : String} : c.find? e = none ↔ e ∉ c.keys := by
  rw [find?, List.lookup_eq_none_iff]
  simp only [keys, List.mem_map, not_exists, not_and, bne_iff_ne]
  exact forall₂_congr fun entry _ => ne_comm

theorem contains_iff {c : Cache} {e : String} : c.contains e = true ↔ e ∈ c.keys := by
  rw [contains, Option.isSome_iff_ne_none, ne_eq, find?_eq_none_iff, Decidable.not_not]

theorem mem_of_find? {c : Cache} {e : String} {p : Predicate} (h : c.find? e = some p) :
    (e, p) ∈ c.entries := by
  obtain ⟨before, after, hentries, -⟩ := List.lookup_eq_some_iff.mp h
  rw [hentries]
  simp

/-! ### Insertion -/

/-- A new key finds a full cache emptied. -/
theorem insert_of_notMem {c : Cache} {e : String} (h : e ∉ c.keys) (p : Predicate) :
    c.insert e p = if capacity ≤ c.size then ⟨[(e, p)]⟩ else ⟨(e, p) :: c.entries⟩ := by
  rw [insert, if_neg (mt contains_iff.mp h)]

/-- Every key has the predicate that it parses to, no key is there twice, and there is room for all
of them. -/
structure Sound (c : Cache) : Prop where
  parsed : ∀ entry ∈ c.entries, Expression.parse entry.1 = .ok (some entry.2)
  distinct : c.keys.Nodup
  bounded : c.size ≤ capacity

theorem sound_empty : empty.Sound :=
  ⟨fun _ h => (nomatch h), List.nodup_nil, Nat.zero_le _⟩

namespace Sound

variable {c : Cache} {e : String} {p : Predicate}

theorem parse_of_find? (h : c.Sound) (hfind : c.find? e = some p) :
    Expression.parse e = .ok (some p) :=
  h.parsed (e, p) (mem_of_find? hfind)

/-- An expression that is there is inserted once more. -/
theorem insert_of_mem (h : c.Sound) (hparse : Expression.parse e = .ok (some p))
    (hmem : e ∈ c.keys) : c.insert e p = c := by
  rw [Cache.insert, if_pos (contains_iff.mpr hmem)]
  have hentries : (c.entries.map fun entry => if entry.1 = e then (e, p) else entry) =
      c.entries := by
    refine (List.map_congr_left fun entry hentry => ?_).trans (List.map_id _)
    by_cases heq : entry.1 = e
    · have hown := h.parsed entry hentry
      rw [heq, hparse] at hown
      obtain rfl : p = entry.2 := Option.some.inj (Except.ok.inj hown)
      rw [if_pos heq, ← heq, id]
    · rw [if_neg heq, id]
  rw [hentries]

theorem insert (h : c.Sound) (hparse : Expression.parse e = .ok (some p)) :
    (c.insert e p).Sound := by
  by_cases hmem : e ∈ c.keys
  · rw [h.insert_of_mem hparse hmem]
    exact h
  · rw [insert_of_notMem hmem]
    split
    · refine ⟨fun entry hentry => ?_, List.nodup_cons.mpr ⟨List.not_mem_nil, List.nodup_nil⟩, ?_⟩
      · rw [List.mem_singleton.mp hentry]
        exact hparse
      · exact (by decide : 1 ≤ capacity)
    · next hroom =>
      refine ⟨fun entry hentry => ?_, List.nodup_cons.mpr ⟨hmem, h.distinct⟩, ?_⟩
      · rcases List.mem_cons.mp hentry with rfl | hentry
        · exact hparse
        · exact h.parsed entry hentry
      · simp only [size, List.length_cons] at hroom ⊢
        omega

end Sound

end DiscountPolicy.Cache
