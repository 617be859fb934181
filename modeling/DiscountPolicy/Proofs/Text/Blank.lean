import Mathlib.Data.List.DropRight
import DiscountPolicy.Proofs.Prefix
import DiscountPolicy.Text.Blank

/-! Trimming. What is left of a text is the part of it that has nothing but blanks on its two sides
and neither begins nor ends with one; there is only one such part. -/

namespace DiscountPolicy.Text

variable {cs kept : List Char}

theorem isBlank_of_isDigit {c : Char} (h : c.isDigit = true) : isBlank c = false := by
  obtain ⟨hlow, hhigh⟩ : 48 ≤ c.toNat ∧ c.toNat ≤ 57 := Char.isDigit_iff_toNat.mp h
  simp only [isBlank, Bool.or_eq_false_iff, Bool.and_eq_false_iff, decide_eq_false_iff_not,
    beq_eq_false_iff_ne]
  omega

/-- The text neither begins nor ends with a blank. -/
structure IsTrim (cs : List Char) : Prop where
  first : Stops isBlank cs
  last : Stops isBlank cs.reverse

/-- The first text is the second one with blanks around it, and the second one is trim. -/
structure TrimsTo (cs kept : List Char) : Prop where
  exists_blanks : ∃ before after, cs = before ++ (kept ++ after) ∧
    (∀ c ∈ before, isBlank c = true) ∧ ∀ c ∈ after, isBlank c = true
  isTrim : IsTrim kept

theorem IsTrim.trimsTo (h : IsTrim cs) : TrimsTo cs cs :=
  ⟨⟨[], [], by simp, by simp, by simp⟩, h⟩

theorem trimChars_eq (cs : List Char) :
    trimChars cs = (cs.dropWhile isBlank).rdropWhile isBlank := rfl

theorem isTrim_trimChars (cs : List Char) : IsTrim (trimChars cs) := by
  constructor
  · have hstart : Stops isBlank (cs.dropWhile isBlank) := stops_dropWhile isBlank cs
    exact hstart.of_prefix (List.rdropWhile_prefix _ _)
  · have hend := stops_dropWhile isBlank (cs.dropWhile isBlank).reverse
    rwa [trimChars_eq, List.rdropWhile, List.reverse_reverse]

theorem trimsTo_trimChars (cs : List Char) : TrimsTo cs (trimChars cs) := by
  refine ⟨⟨cs.takeWhile isBlank, (cs.dropWhile isBlank).rtakeWhile isBlank, ?_,
    fun c hc => List.mem_takeWhile_imp hc, fun c hc => List.mem_rtakeWhile_imp hc⟩,
    isTrim_trimChars cs⟩
  rw [trimChars_eq, List.rdropWhile_append_rtakeWhile, List.takeWhile_append_dropWhile]

theorem TrimsTo.trimChars_eq (h : TrimsTo cs kept) : trimChars cs = kept := by
  obtain ⟨⟨before, after, rfl, hbefore, hafter⟩, hfirst, hlast⟩ := h
  have hreverse : ∀ c ∈ after.reverse, isBlank c = true :=
    fun c hc => hafter c (List.mem_reverse.mp hc)
  have hend : (kept ++ after).rdropWhile isBlank = kept := by
    rw [List.rdropWhile, List.reverse_append, dropWhile_append_stops hreverse hlast,
      List.reverse_reverse]
  rw [Text.trimChars_eq, List.dropWhile_append_of_pos hbefore]
  cases kept with
  | nil =>
    -- Nothing but blanks is left, whichever end they are taken from.
    rw [List.nil_append, List.dropWhile_eq_nil_iff.mpr hafter, List.rdropWhile_nil]
  | cons c kept =>
    rw [List.cons_append, List.dropWhile_cons_of_neg (by simp [hfirst c rfl]), ← List.cons_append]
    exact hend

theorem trimChars_eq_iff : trimChars cs = kept ↔ TrimsTo cs kept := by
  constructor
  · rintro rfl
    exact trimsTo_trimChars cs
  · exact TrimsTo.trimChars_eq

theorem toList_trim (s : String) : (trim s).toList = trimChars s.toList := String.toList_ofList

/-- A text is blank if nothing is left of it. -/
theorem trim_eq_empty_iff {s : String} : trim s = "" ↔ isBlankText s = true := by
  rw [← String.toList_inj, toList_trim, trimChars_eq_iff, isBlankText, List.all_eq_true]
  constructor
  · rintro ⟨⟨before, after, hs, hbefore, hafter⟩, -⟩
    rw [hs, String.toList_empty, List.nil_append, List.forall_mem_append]
    exact ⟨hbefore, hafter⟩
  · intro h
    exact ⟨⟨s.toList, [], by simp, h, by simp⟩, Stops.nil, Stops.nil⟩

end DiscountPolicy.Text
