import DiscountPolicy.Predicate.Expression

/-! The words of a text. A separator between two texts keeps their words apart, parentheses do not
count wherever they stand, and a text without separators and parentheses is one word. -/

namespace DiscountPolicy.Expression

/-- The characters are one word. -/
def IsWord (cs : List Char) : Prop :=
  cs ≠ [] ∧ ∀ c ∈ cs, isSeparator c = false ∧ isParenthesis c = false

instance (cs : List Char) : Decidable (IsWord cs) :=
  @instDecidableAnd _ _ inferInstance (List.decidableBAll _ cs)

/-- The pieces between separators are what is there without the separators. -/
theorem mem_of_mem_splitOnP {p : Char → Bool} {cs piece : List Char} (h : piece ∈ cs.splitOnP p) :
    ∀ c ∈ piece, p c = false ∧ c ∈ cs := by
  induction cs generalizing piece with
  | nil =>
    rw [List.splitOnP_nil, List.mem_singleton] at h
    intro c hc
    rw [h] at hc
    cases hc
  | cons x xs ih =>
    rw [List.splitOnP_cons_eq_if_modifyHead] at h
    split at h
    · rcases List.mem_cons.mp h with rfl | h
      · intro c hc
        cases hc
      · intro c hc
        obtain ⟨hp, hmem⟩ := ih h c hc
        exact ⟨hp, List.mem_cons_of_mem x hmem⟩
    · next hx =>
      obtain ⟨first, others, hsplit⟩ := List.exists_cons_of_ne_nil (List.splitOnP_ne_nil p xs)
      rw [hsplit, List.modifyHead_cons, List.mem_cons] at h
      intro c hc
      rcases h with rfl | h
      · rcases List.mem_cons.mp hc with rfl | hc
        · exact ⟨Bool.eq_false_iff.mpr hx, List.mem_cons_self⟩
        · obtain ⟨hp, hmem⟩ := ih (by rw [hsplit]; exact List.mem_cons_self) c hc
          exact ⟨hp, List.mem_cons_of_mem x hmem⟩
      · obtain ⟨hp, hmem⟩ := ih (by rw [hsplit]; exact List.mem_cons_of_mem first h) c hc
        exact ⟨hp, List.mem_cons_of_mem x hmem⟩

theorem isWord_of_mem_wordsOf {cs w : List Char} (h : w ∈ wordsOf cs) : IsWord w := by
  rw [wordsOf, List.mem_filter] at h
  obtain ⟨hsplit, hne⟩ := h
  refine ⟨by simpa using hne, fun c hc => ?_⟩
  obtain ⟨hseparator, hmem⟩ := mem_of_mem_splitOnP hsplit c hc
  exact ⟨hseparator, by simpa using (List.mem_filter.mp hmem).2⟩

theorem isParenthesis_of_isSeparator {c : Char} (h : isSeparator c = true) :
    isParenthesis c = false := by
  cases hc : isParenthesis c with
  | false => rfl
  | true =>
    rw [isParenthesis, Bool.or_eq_true, beq_iff_eq, beq_iff_eq] at hc
    rcases hc with rfl | rfl
    · exact absurd h (by decide)
    · exact absurd h (by decide)

theorem wordsOf_separator (a b : List Char) {c : Char} (h : isSeparator c = true) :
    wordsOf (a ++ c :: b) = wordsOf a ++ wordsOf b := by
  have hkeep : isParenthesis c = false := isParenthesis_of_isSeparator h
  rw [wordsOf, List.filter_append, List.filter_cons_of_pos (by simp [hkeep]),
    List.splitOnP_append_cons _ _ h, List.filter_append]
  rfl

theorem wordsOf_parenthesis (a b : List Char) {c : Char} (h : isParenthesis c = true) :
    wordsOf (a ++ c :: b) = wordsOf (a ++ b) := by
  rw [wordsOf, List.filter_append, List.filter_cons_of_neg (by simp [h]), ← List.filter_append]
  rfl

theorem wordsOf_isWord {w : List Char} (h : IsWord w) : wordsOf w = [w] := by
  obtain ⟨hne, hclean⟩ := h
  have hfilter : w.filter (!isParenthesis ·) = w := by
    refine List.filter_eq_self.mpr fun c hc => ?_
    rw [(hclean c hc).2]
    rfl
  rw [wordsOf, hfilter, List.splitOnP_eq_singleton fun c hc => (hclean c hc).1]
  simp [hne]

/-! ### Texts -/

theorem isWord_of_mem_words {s w : String} (h : w ∈ words s) : IsWord w.toList := by
  obtain ⟨cs, hcs, rfl⟩ := List.mem_map.mp h
  rw [String.toList_ofList]
  exact isWord_of_mem_wordsOf hcs

theorem words_separator (s t : String) {c : Char} (h : isSeparator c = true) :
    words (s ++ String.singleton c ++ t) = words s ++ words t := by
  have hchars : (s ++ String.singleton c ++ t).toList = s.toList ++ c :: t.toList := by
    simp [String.toList_append]
  rw [words, hchars, wordsOf_separator _ _ h, List.map_append]
  rfl

theorem words_space (s t : String) : words (s ++ " " ++ t) = words s ++ words t :=
  words_separator s t (c := ' ') (by decide)

theorem words_parentheses (s : String) : words ("(" ++ s ++ ")") = words s := by
  have hchars : ("(" ++ s ++ ")").toList = [] ++ '(' :: (s.toList ++ ')' :: []) := by
    simp [String.toList_append]
  rw [words, hchars, wordsOf_parenthesis [] _ (by decide), List.nil_append,
    wordsOf_parenthesis _ [] (by decide), List.append_nil]
  rfl

theorem words_isWord {w : String} (h : IsWord w.toList) : words w = [w] := by
  rw [words, wordsOf_isWord h]
  simp

/-- Words written one after another, a space in front of each, are the words behind a text. -/
theorem words_join (s : String) {ws : List String} (h : ∀ w ∈ ws, IsWord w.toList) :
    words (s ++ String.join (ws.map (" " ++ ·))) = words s ++ ws := by
  induction ws generalizing s with
  | nil => simp
  | cons w ws ih =>
    have hjoin : s ++ String.join ((w :: ws).map (" " ++ ·)) =
        s ++ " " ++ w ++ String.join (ws.map (" " ++ ·)) := by
      simp [String.append_assoc]
    rw [hjoin, ih _ fun v hv => h v (List.mem_cons_of_mem w hv), words_space,
      words_isWord (h w List.mem_cons_self), List.append_assoc]
    rfl

end DiscountPolicy.Expression
