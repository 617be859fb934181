import Mathlib.Data.List.Chain
import DiscountPolicy.Proofs.Json.Number
import DiscountPolicy.Proofs.Json.Quoted
import DiscountPolicy.Proofs.Json.Spelling

/-! Tokens are read back from their characters, if no number stands next to another one: nothing
else shows where a number ends. -/

namespace DiscountPolicy.Json.Token

/-- The two tokens are told apart where one is written after the other. -/
def Apart (t u : Token) : Prop := t.isNumber = false ∨ u.isNumber = false

/-- If the token is a number, it is read back from its text. -/
def Kept (t : Token) : Prop := ∀ n, t = .number n → n.Kept

theorem isChain_cons {t : Token} {ts : List Token} (ht : t.isNumber = false)
    (hts : ts.IsChain Apart) : (t :: ts).IsChain Apart := by
  rw [List.isChain_cons]
  exact ⟨fun _ _ => .inl ht, hts⟩

theorem isChain_append {ts us : List Token} (hts : ts.IsChain Apart)
    (hus : us.IsChain Apart) (hhead : ∀ u ∈ us.head?, u.isNumber = false) :
    (ts ++ us).IsChain Apart := by
  rw [List.isChain_append]
  exact ⟨hts, hus, fun _ _ u hu => .inr (hhead u hu)⟩

theorem kept_of_notNumber {t : Token} (h : t.isNumber = false) : t.Kept := by
  rintro n rfl
  exact nomatch h

theorem kept_number {n : Number} (h : n.Kept) : (number n).Kept := by
  intro m hm
  cases hm
  exact h

instance : (t : Token) → Decidable t.Kept
  | .number n => decidable_of_iff n.Kept ⟨kept_number, fun h => h n rfl⟩
  | .openArray | .closeArray | .openObject | .closeObject | .comma | .colon | .null | .bool _
  | .text _ => .isTrue (kept_of_notNumber rfl)

theorem Kept.spells_chars {t : Token} (h : t.Kept) : t.Spells t.chars := by
  cases t with
  | number n => exact Number.ofChars?_eq_some_iff.mp (h n rfl)
  | text s => exact ⟨Quoted.escape s.toList, rfl, Quoted.spells_escape s.toList⟩
  | _ => rfl

theorem stops_chars {ts : List Token} (hkept : ∀ t ∈ ts, t.Kept)
    (h : ∀ t ∈ ts.head?, t.isNumber = false) : Stops isNumberChar (ts.flatMap chars) := by
  cases ts with
  | nil => exact Stops.nil
  | cons t ts =>
    obtain ⟨c, cs, hc, -, hnum⟩ := (hkept t List.mem_cons_self).spells_chars.exists_cons
    rw [List.flatMap_cons, hc, List.cons_append]
    exact Stops.cons _ (hnum (h t rfl))

theorem spelled_chars {ts : List Token} (hkept : ∀ t ∈ ts, t.Kept) (hapart : ts.IsChain Apart) :
    Spelled (ts.flatMap chars) ts := by
  induction ts with
  | nil => exact .nil
  | cons t ts ih =>
    rw [List.isChain_cons] at hapart
    obtain ⟨hhead, htail⟩ := hapart
    have hts : ∀ u ∈ ts, u.Kept := fun u hu => hkept u (List.mem_cons_of_mem t hu)
    rw [List.flatMap_cons]
    refine .token (hkept t List.mem_cons_self).spells_chars (fun ht => ?_) (ih hts htail)
    -- A number takes all that could belong to it, so what follows must begin with something else.
    refine stops_chars hts fun u hu => (hhead u hu).resolve_left ?_
    simp [ht]

end DiscountPolicy.Json.Token
