import DiscountPolicy.Proofs.Expression.Words
import DiscountPolicy.Proofs.Prefix

/-! The spacing of words in a text. Without its parentheses a text is its words in their order, with
separators in front of the first word, behind the last one and, one at least, between any two; and
the words of a text are the only clean words it can be divided into in this way. -/

namespace DiscountPolicy.Expression

/-- The characters are separators. -/
def IsGap (cs : List Char) : Prop := ∀ c ∈ cs, isSeparator c = true

/-- The characters are `lead w₁ gap₁ w₂ gap₂ … wₙ gapₙ`, where all gaps but the last one hold a
separator at least. -/
def Spaced (cs : List Char) (ws : List (List Char)) : Prop :=
  ∃ (lead : List Char) (gaps : List (List Char)), gaps.length = ws.length ∧
    (∀ gap ∈ lead :: gaps, IsGap gap) ∧ (∀ gap ∈ gaps.dropLast, gap ≠ []) ∧
    cs = lead ++ (List.zipWith (· ++ ·) ws gaps).flatten

variable {cs : List Char} {ws : List (List Char)}

/-! ### A spacing for each text -/

theorem spaced_nil : Spaced [] [] := ⟨[], [], rfl, by simp [IsGap], by simp, rfl⟩

theorem Spaced.separator {c : Char} (hc : isSeparator c = true) (h : Spaced cs ws) :
    Spaced (c :: cs) ws := by
  obtain ⟨lead, gaps, hlength, hgaps, happart, rfl⟩ := h
  rw [List.forall_mem_cons] at hgaps
  refine ⟨c :: lead, gaps, hlength, List.forall_mem_cons.mpr ⟨?_, hgaps.2⟩, happart, rfl⟩
  exact List.forall_mem_cons.mpr ⟨hc, hgaps.1⟩

/-- A character of a word in front of the text starts a word of its own, or belongs to the first
word if that one starts the text. -/
theorem Spaced.letter {c : Char} (hseparator : isSeparator c = false)
    (hparenthesis : isParenthesis c = false) (hws : ∀ w ∈ ws, IsWord w) (h : Spaced cs ws) :
    ∃ ws', (∀ w ∈ ws', IsWord w) ∧ Spaced (c :: cs) ws' := by
  obtain ⟨lead, gaps, hlength, hgaps, happart, rfl⟩ := h
  have hword : IsWord [c] := ⟨by simp, by simp [hseparator, hparenthesis]⟩
  have hnone : IsGap [] := by simp [IsGap]
  by_cases hlead : lead = [] ∧ ws ≠ []
  · obtain ⟨rfl, hne⟩ := hlead
    obtain ⟨w, ws, rfl⟩ := List.exists_cons_of_ne_nil hne
    obtain ⟨gap, gaps, rfl⟩ := List.exists_cons_of_length_eq_add_one hlength
    rw [List.forall_mem_cons] at hws
    refine ⟨(c :: w) :: ws, List.forall_mem_cons.mpr ⟨⟨by simp, ?_⟩, hws.2⟩, [], gap :: gaps,
      by simpa using hlength, hgaps, happart, by simp⟩
    exact List.forall_mem_cons.mpr ⟨⟨hseparator, hparenthesis⟩, hws.1.2⟩
  · refine ⟨[c] :: ws, List.forall_mem_cons.mpr ⟨hword, hws⟩, [], lead :: gaps, by simp [hlength],
      List.forall_mem_cons.mpr ⟨hnone, hgaps⟩, ?_, by simp⟩
    by_cases hempty : gaps = []
    · simp [hempty]
    · -- A word follows the new one, so what led the text has to keep the two apart.
      have hne : ws ≠ [] := by
        rintro rfl
        exact hempty (List.length_eq_zero_iff.mp hlength)
      rw [List.dropLast_cons_of_ne_nil hempty, List.forall_mem_cons]
      exact ⟨fun hnil => hlead ⟨hnil, hne⟩, happart⟩

theorem exists_spaced (cs : List Char) (h : ∀ c ∈ cs, isParenthesis c = false) :
    ∃ ws, (∀ w ∈ ws, IsWord w) ∧ Spaced cs ws := by
  induction cs with
  | nil => exact ⟨[], by simp, spaced_nil⟩
  | cons c cs ih =>
    rw [List.forall_mem_cons] at h
    obtain ⟨ws, hws, hspaced⟩ := ih h.2
    cases hc : isSeparator c with
    | true => exact ⟨ws, hws, hspaced.separator hc⟩
    | false => exact hspaced.letter hc h.1 hws

/-! ### The words of a spacing -/

theorem wordsOf_gap {gap : List Char} (h : IsGap gap) (cs : List Char) :
    wordsOf (gap ++ cs) = wordsOf cs := by
  induction gap with
  | nil => rfl
  | cons c gap ih =>
    obtain ⟨hc, hgap⟩ := List.forall_mem_cons.mp h
    have hsplit := wordsOf_separator [] (gap ++ cs) hc
    rw [List.nil_append] at hsplit
    rw [List.cons_append, hsplit, ih hgap]
    rfl

theorem Spaced.isGap (h : Spaced cs []) : IsGap cs := by
  obtain ⟨lead, gaps, -, hgaps, -, rfl⟩ := h
  rw [List.zipWith_nil_left, List.flatten_nil, List.append_nil]
  exact hgaps lead List.mem_cons_self

/-- What is left behind the first word is spaced too, and starts with a separator, if not empty. -/
theorem Spaced.exists_rest {w : List Char} (h : Spaced cs (w :: ws)) :
    ∃ lead rest, IsGap lead ∧ cs = lead ++ (w ++ rest) ∧ Spaced rest ws ∧
      Stops (!isSeparator ·) rest := by
  obtain ⟨lead, gaps, hlength, hgaps, happart, rfl⟩ := h
  obtain ⟨gap, gaps, rfl⟩ := List.exists_cons_of_length_eq_add_one hlength
  obtain ⟨hlead, hrest⟩ := List.forall_mem_cons.mp hgaps
  refine ⟨lead, gap ++ (List.zipWith (· ++ ·) ws gaps).flatten, hlead, by simp,
    ⟨gap, gaps, by simpa using hlength, hrest, ?_, rfl⟩, ?_⟩
  · intro gap' hmem
    refine happart gap' ?_
    rw [List.dropLast_cons_of_ne_nil (by rintro rfl; cases hmem)]
    exact List.mem_cons_of_mem _ hmem
  · cases gap with
    | nil =>
      -- Only the last gap may be empty.
      have hlast : gaps = [] := by
        by_cases hempty : gaps = []
        · exact hempty
        · rw [List.dropLast_cons_of_ne_nil hempty] at happart
          exact absurd rfl (happart [] List.mem_cons_self)
      rw [hlast, List.zipWith_nil_right]
      exact Stops.nil
    | cons c gap =>
      have hc : isSeparator c = true := hrest (c :: gap) List.mem_cons_self c List.mem_cons_self
      exact Stops.cons _ (by rw [hc]; rfl)

theorem wordsOf_eq_of_spaced (hws : ∀ w ∈ ws, IsWord w) (h : Spaced cs ws) : wordsOf cs = ws := by
  induction ws generalizing cs with
  | nil =>
    have hwords := wordsOf_gap h.isGap []
    rwa [List.append_nil] at hwords
  | cons w ws ih =>
    obtain ⟨lead, rest, hlead, rfl, hrest, hstops⟩ := h.exists_rest
    obtain ⟨hw, hws⟩ := List.forall_mem_cons.mp hws
    have hrestWords : wordsOf rest = ws := ih hws hrest
    rw [wordsOf_gap hlead]
    cases rest with
    | nil =>
      rw [List.append_nil, wordsOf_isWord hw, ← hrestWords]
      rfl
    | cons c rest =>
      have hc : isSeparator c = true := by simpa using hstops c rfl
      rw [← List.nil_append (c :: rest), wordsOf_separator [] rest hc] at hrestWords
      rw [wordsOf_separator w rest hc, wordsOf_isWord hw, ← hrestWords]
      rfl

/-- The words are the text without its separators. -/
theorem flatten_of_spaced (hws : ∀ w ∈ ws, IsWord w) (h : Spaced cs ws) :
    ws.flatten = cs.filter (!isSeparator ·) := by
  have hgap : ∀ gap, IsGap gap → gap.filter (!isSeparator ·) = [] := by
    intro gap hgap
    exact List.filter_eq_nil_iff.mpr fun c hc => by simp [hgap c hc]
  induction ws generalizing cs with
  | nil => rw [hgap cs h.isGap, List.flatten_nil]
  | cons w ws ih =>
    obtain ⟨lead, rest, hlead, rfl, hrest, -⟩ := h.exists_rest
    obtain ⟨hw, hws⟩ := List.forall_mem_cons.mp hws
    have hkept : w.filter (!isSeparator ·) = w :=
      List.filter_eq_self.mpr fun c hc => by simp [(hw.2 c hc).1]
    rw [List.filter_append, List.filter_append, hgap lead hlead, hkept, List.nil_append,
      ← ih hws hrest, List.flatten_cons]

theorem wordsOf_filter (cs : List Char) : wordsOf (cs.filter (!isParenthesis ·)) = wordsOf cs := by
  simp [wordsOf, List.filter_filter]

theorem wordsOf_eq_iff : wordsOf cs = ws ↔
    (∀ w ∈ ws, IsWord w) ∧ Spaced (cs.filter (!isParenthesis ·)) ws := by
  obtain ⟨ws', hws', hspaced⟩ := exists_spaced (cs.filter (!isParenthesis ·)) (by simp)
  have hwords := (wordsOf_filter cs).symm.trans (wordsOf_eq_of_spaced hws' hspaced)
  constructor
  · intro h
    obtain rfl : ws' = ws := hwords.symm.trans h
    exact ⟨hws', hspaced⟩
  · rintro ⟨hws, h⟩
    exact (wordsOf_filter cs).symm.trans (wordsOf_eq_of_spaced hws h)

theorem flatten_wordsOf (cs : List Char) :
    (wordsOf cs).flatten = cs.filter fun c => !isSeparator c && !isParenthesis c := by
  obtain ⟨hws, hspaced⟩ := wordsOf_eq_iff.mp (Eq.refl (wordsOf cs))
  rw [flatten_of_spaced hws hspaced, List.filter_filter]

/-! ### Texts -/

theorem words_eq_iff {s : String} {ts : List String} :
    words s = ts ↔ wordsOf s.toList = ts.map String.toList := by
  constructor
  · rintro rfl
    simp [words, List.map_map, Function.comp_def]
  · intro h
    simp [words, h, List.map_map, Function.comp_def]

/-- Parentheses change no words, wherever they are put in or left out. -/
theorem words_congr {s s' : String}
    (h : s.toList.filter (!isParenthesis ·) = s'.toList.filter (!isParenthesis ·)) :
    words s = words s' := by
  rw [words, ← wordsOf_filter, h, wordsOf_filter]
  rfl

theorem words_intercalate {ts : List String} (h : ∀ t ∈ ts, IsWord t.toList) :
    words (" ".intercalate ts) = ts := by
  induction ts with
  | nil => rfl
  | cons t ts ih =>
    obtain ⟨ht, hts⟩ := List.forall_mem_cons.mp h
    cases ts with
    | nil => exact words_isWord ht
    | cons u ts =>
      rw [String.intercalate_cons_cons, words_space, words_isWord ht, ih hts]
      rfl

/-- The words of a text are exactly the clean words that it holds in their order, apart from
parentheses, with separators around them. So parentheses count for nothing, a separator between two
texts keeps their words apart, all characters but separators and parentheses are kept as they
stand, and the words with a space between them have the same words again. -/
theorem words_eq_iff_spaced (s : String) :
    (∀ ts, words s = ts ↔ (∀ t ∈ ts, IsWord t.toList) ∧
      Spaced (s.toList.filter (!isParenthesis ·)) (ts.map String.toList)) ∧
    (∀ s', s'.toList.filter (!isParenthesis ·) = s.toList.filter (!isParenthesis ·) →
      words s' = words s ∧ parse s' = parse s) ∧
    (∀ c s', isSeparator c = true →
      words (s ++ String.singleton c ++ s') = words s ++ words s') ∧
    (words s).flatMap String.toList =
      s.toList.filter (fun c => !isSeparator c && !isParenthesis c) ∧
    words (" ".intercalate (words s)) = words s := by
  refine ⟨fun ts => ?_, fun s' h => ?_, fun c s' h => words_separator s s' h, ?_, ?_⟩
  · rw [words_eq_iff, wordsOf_eq_iff, List.forall_mem_map]
  · have hwords := words_congr h
    exact ⟨hwords, by rw [parse, read, hwords]; rfl⟩
  · rw [← flatten_wordsOf, words_eq_iff.mp (Eq.refl (words s)), List.flatMap_def]
  · exact words_intercalate fun t ht => isWord_of_mem_words ht

end DiscountPolicy.Expression
