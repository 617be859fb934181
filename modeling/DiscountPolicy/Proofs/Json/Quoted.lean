import DiscountPolicy.Proofs.Json.Escape

/-! Quoted texts as they are written: what is written between the quotes spells the text. -/

namespace DiscountPolicy.Quoted

/-- The letter that is written for a character stands for it. -/
theorem letter?_spec {c l : Char} (h : letter? c = some l) : (l, c) ∈ letters := by
  unfold letter? at h
  split at h <;> cases h
  all_goals
    next hcode =>
      rw [← Char.ofNat_toNat c, hcode]
      decide

/-- A character is written with a letter, with its code, or as it is. -/
theorem escapeChar_cases (c : Char) :
    (∃ l, escapeChar c = ['\\', l] ∧ (l, c) ∈ letters) ∨
    (c.toNat < 0x20 ∧ escapeChar c =
      ['\\', 'u', '0', '0', Nat.digitChar (c.toNat / 16), Nat.digitChar (c.toNat % 16)]) ∨
    (0x20 ≤ c.toNat ∧ c ≠ '"' ∧ c ≠ '\\' ∧ escapeChar c = [c]) := by
  unfold escapeChar
  split
  · next l hl => exact .inl ⟨l, rfl, letter?_spec hl⟩
  · next hnone =>
    split
    · next hlow => exact .inr (.inl ⟨hlow, rfl⟩)
    · next hhigh =>
      refine .inr (.inr ⟨Nat.le_of_not_lt hhigh, ?_, ?_, rfl⟩)
      · rintro rfl
        cases hnone
      · rintro rfl
        cases hnone

theorem spellsUnit_low {n : Nat} (h : n < 0x20) :
    SpellsUnit ['0', '0', Nat.digitChar (n / 16), Nat.digitChar (n % 16)] n := by
  have hzero : IsHexDigit '0' 0 := ⟨by decide, .inl rfl⟩
  have hhigh : IsHexDigit (Nat.digitChar (n / 16)) (n / 16) := ⟨by omega, .inl rfl⟩
  have hlow : IsHexDigit (Nat.digitChar (n % 16)) (n % 16) := ⟨by omega, .inl rfl⟩
  have hspells := SpellsUnit.intro hzero hzero hhigh hlow
  have hsum : 0 * 0x1000 + 0 * 0x100 + n / 16 * 0x10 + n % 16 = n := by omega
  rwa [hsum] at hspells

theorem spells_escape (cs : List Char) : Spells (escape cs) cs := by
  induction cs with
  | nil => exact .nil
  | cons c cs ih =>
    have hcons : escape (c :: cs) = escapeChar c ++ escape cs := rfl
    rw [hcons]
    rcases escapeChar_cases c with ⟨l, heq, hletter⟩ | ⟨hlow, heq⟩ | ⟨hhigh, hquote, hslash, heq⟩
    · rw [heq]
      exact .letter hletter ih
    · rw [heq]
      exact .unit (spellsUnit_low hlow) ih
    · rw [heq]
      exact .plain hhigh hquote hslash ih

end DiscountPolicy.Quoted
