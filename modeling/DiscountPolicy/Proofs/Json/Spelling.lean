import DiscountPolicy.Json.Token
import DiscountPolicy.Proofs.Json.Escape
import DiscountPolicy.Proofs.Json.Numeral
import DiscountPolicy.Proofs.Text.Blank

/-! The tokens of a text. A text is read as exactly the tokens that it spells, with spaces around
them; a number ends where no character follows that could belong to it. -/

namespace DiscountPolicy.Json.Token

open Decimal

variable {cs rest : List Char} {t : Token} {ts : List Token}

def isNumber : Token → Bool
  | .number _ => true
  | _ => false

/-- The characters spell the token. All tokens but numbers and texts have one spelling. -/
def Spells (w : List Char) : Token → Prop
  | .number n => Number.Spells w n
  | .text s => ∃ raw, w = '"' :: (raw ++ ['"']) ∧ Quoted.Spells raw s.toList
  | t => w = t.chars

/-- A text and its tokens. -/
inductive Spelled : List Char → List Token → Prop
  | nil : Spelled [] []
  | space {cs : List Char} {ts : List Token} {c : Char} (hspace : c ∈ [' ', '\t', '\n', '\r'])
      (tail : Spelled cs ts) : Spelled (c :: cs) ts
  | token {w cs : List Char} {t : Token} {ts : List Token} (spells : t.Spells w)
      (ends : t.isNumber = true → Stops isNumberChar cs) (tail : Spelled cs ts) :
      Spelled (w ++ cs) (t :: ts)

/-! ### The first character of a token -/

theorem isSpace_iff {c : Char} : isSpace c = true ↔ c ∈ [' ', '\t', '\n', '\r'] := by
  simp [isSpace, or_assoc]

theorem isBlank_of_isSpace {c : Char} (h : isSpace c = true) : Text.isBlank c = true := by
  simp only [isSpace, Bool.or_eq_true, beq_iff_eq] at h
  rcases h with ((rfl | rfl) | rfl) | rfl <;> decide

theorem isBlank_of_isNumberChar {c : Char} (h : isNumberChar c = true) :
    Text.isBlank c = false := by
  simp only [isNumberChar, Bool.or_eq_true, beq_iff_eq] at h
  rcases h with ((((hdigit | rfl) | rfl) | rfl) | rfl) | rfl
  · exact Text.isBlank_of_isDigit hdigit
  · decide
  · decide
  · decide
  · decide
  · decide

theorem isNumberChar_of_isDigits {ds : List Char} (h : IsDigits ds) :
    ∀ c ∈ ds, isNumberChar c = true := fun c hc => by simp [isNumberChar, h c hc]

theorem isNumberChar_of_spellsExponent {tail : List Char} {e : Int} (h : SpellsExponent tail e) :
    ∀ c ∈ tail, isNumberChar c = true := by
  cases h with
  | missing => exact List.forall_mem_nil _
  | mark hmark h =>
    obtain @⟨sign, digits, negative, hsign, -, hdigits⟩ := h
    rw [List.forall_mem_cons, List.forall_mem_append]
    refine ⟨?_, ?_, isNumberChar_of_isDigits hdigits⟩
    · rcases hmark with rfl | rfl <;> decide
    · cases hsign <;> simp [isNumberChar]

theorem isNumberChar_of_spells {w : List Char} {n : Number} (h : Number.Spells w n) :
    ∀ c ∈ w, isNumberChar c = true := by
  have hsign (negative : Bool) : ∀ c ∈ signChars negative, isNumberChar c = true := by
    cases negative <;> simp [signChars, isNumberChar]
  cases h with
  | whole hwhole _ =>
    rw [List.forall_mem_append]
    exact ⟨hsign _, isNumberChar_of_isDigits hwhole.isDigits⟩
  | real hwhole hfraction hexponent _ _ =>
    simp only [List.forall_mem_append]
    refine ⟨hsign _, isNumberChar_of_isDigits hwhole.isDigits, ?_,
      isNumberChar_of_spellsExponent hexponent⟩
    cases hfraction with
    | missing => exact List.forall_mem_nil _
    | point _ hdigits =>
      rw [List.forall_mem_cons]
      exact ⟨by decide, isNumberChar_of_isDigits hdigits⟩

theorem ne_nil_of_spells {w : List Char} {n : Number} (h : Number.Spells w n) : w ≠ [] := by
  cases h with
  | whole hwhole _ => simp [hwhole.ne_nil]
  | real hwhole _ _ _ _ => simp [hwhole.ne_nil]

/-- A token begins with a character that is no blank, and with none of a number if it is none. -/
theorem Spells.exists_cons {w : List Char} (h : t.Spells w) :
    ∃ c cs, w = c :: cs ∧ Text.isBlank c = false ∧
      (t.isNumber = false → isNumberChar c = false) := by
  cases t with
  | number n =>
    obtain ⟨c, cs, rfl⟩ := List.exists_cons_of_ne_nil (ne_nil_of_spells h)
    have hnum := isNumberChar_of_spells h c List.mem_cons_self
    exact ⟨c, cs, rfl, isBlank_of_isNumberChar hnum, fun h => nomatch h⟩
  | text s =>
    obtain ⟨raw, rfl, -⟩ := h
    exact ⟨_, _, rfl, by decide, fun _ => by decide⟩
  | bool b => cases b <;> exact ⟨_, _, h, by decide, fun _ => by decide⟩
  | _ => exact ⟨_, _, h, by decide, fun _ => by decide⟩

/-! ### The first token -/

theorem first?_digits {c : Char} (cs : List Char) (h : isNumberChar c = true) :
    first? (c :: cs) = (Number.ofChars? (c :: cs.takeWhile isNumberChar)).map fun n =>
      (.number n, cs.dropWhile isNumberChar) := by
  rw [first?, if_pos h]
  all_goals
    intros
    subst_vars
    exact absurd h (by decide)

theorem Spells.first?_append {w : List Char} (h : t.Spells w)
    (hrest : t.isNumber = true → Stops isNumberChar rest) :
    first? (w ++ rest) = some (t, rest) := by
  cases t with
  | number n =>
    obtain ⟨c, cs, rfl⟩ := List.exists_cons_of_ne_nil (ne_nil_of_spells h)
    obtain ⟨hc, hcs⟩ := List.forall_mem_cons.mp (isNumberChar_of_spells h)
    rw [List.cons_append, first?_digits _ hc, takeWhile_append_stops hcs (hrest rfl),
      dropWhile_append_stops hcs (hrest rfl), Number.ofChars?_eq_some_iff.mpr h]
    rfl
  | text s =>
    obtain ⟨raw, rfl, hraw⟩ := h
    obtain ⟨_, hsplit, hread⟩ := Quoted.exists_splitQuote_iff.mpr ⟨raw, rfl, hraw⟩
    rw [List.cons_append, List.append_assoc, List.singleton_append, first?, hsplit]
    simp only [hread, Option.map_some]
  | bool b =>
    obtain rfl := h
    cases b <;> rfl
  | _ =>
    obtain rfl := h
    rfl

theorem exists_spells_of_first? (h : first? cs = some (t, rest)) :
    ∃ w, cs = w ++ rest ∧ t.Spells w ∧ (t.isNumber = true → Stops isNumberChar rest) := by
  unfold first? at h
  split at h
  case h_1 => cases h
  case h_11 cs =>
    split at h
    · next raw _ hsplit =>
      obtain ⟨s, hread, hs⟩ := Option.map_eq_some_iff.mp h
      cases hs
      obtain ⟨raw, rfl, hraw⟩ := Quoted.exists_splitQuote_iff.mp ⟨raw, hsplit, hread⟩
      exact ⟨'"' :: (raw ++ ['"']), by simp, ⟨raw, rfl, hraw⟩, fun h => nomatch h⟩
    · cases h
  case h_12 c cs _ _ _ _ _ _ _ _ _ _ =>
    split at h
    · obtain ⟨n, hn, heq⟩ := Option.map_eq_some_iff.mp h
      cases heq
      refine ⟨c :: cs.takeWhile isNumberChar, ?_, Number.ofChars?_eq_some_iff.mp hn,
        fun _ => stops_dropWhile _ _⟩
      rw [List.cons_append, List.takeWhile_append_dropWhile]
    · cases h
  all_goals
    cases h
    exact ⟨_, rfl, rfl, fun h => nomatch h⟩

/-! ### All tokens -/

/-- A text of nothing but blanks has no tokens. -/
theorem Spelled.eq_nil_of_blank (h : Spelled cs ts) (hblank : ∀ c ∈ cs, Text.isBlank c = true) :
    ts = [] := by
  induction h with
  | nil => rfl
  | space _ _ ih => exact ih (List.forall_mem_cons.mp hblank).2
  | token spells _ _ _ =>
    obtain ⟨c, cs, rfl, hc, -⟩ := spells.exists_cons
    rw [hblank c (by simp)] at hc
    cases hc

theorem ofChars?_space {c : Char} (h : isSpace c = true) (cs : List Char) :
    ofChars? (c :: cs) = ofChars? cs := by
  rw [ofChars?, if_pos h]

theorem Spells.ofChars?_append {w : List Char} (h : t.Spells w)
    (hrest : t.isNumber = true → Stops isNumberChar rest) :
    ofChars? (w ++ rest) = (ofChars? rest).map (t :: ·) := by
  have hfirst := h.first?_append hrest
  obtain ⟨c, cs, rfl, hblank, -⟩ := h.exists_cons
  have hspace : ¬isSpace c = true := by
    intro hspace
    rw [isBlank_of_isSpace hspace] at hblank
    cases hblank
  rw [List.cons_append] at hfirst ⊢
  rw [ofChars?, if_neg hspace]
  split
  · next h => simp [hfirst] at h
  · next h =>
    rw [hfirst] at h
    cases h
    rfl

/-- A text is read as tokens exactly if it spells them. -/
theorem ofChars?_eq_some_iff : ofChars? cs = some ts ↔ Spelled cs ts := by
  constructor
  · intro h
    fun_induction ofChars? cs generalizing ts with
    | case1 =>
      cases h
      exact .nil
    | case2 c cs hspace ih => exact .space (isSpace_iff.mp hspace) (ih h)
    | case3 => cases h
    | case4 c cs hspace t rest hfirst ih =>
      obtain ⟨ts, hts, rfl⟩ := Option.map_eq_some_iff.mp h
      obtain ⟨w, hw, hspells, hends⟩ := exists_spells_of_first? hfirst
      rw [hw]
      exact .token hspells hends (ih hts)
  · intro h
    induction h with
    | nil => rw [ofChars?]
    | space hspace _ ih => rw [ofChars?_space (isSpace_iff.mpr hspace), ih]
    | token spells ends _ ih => rw [spells.ofChars?_append ends, ih, Option.map_some]

end DiscountPolicy.Json.Token
