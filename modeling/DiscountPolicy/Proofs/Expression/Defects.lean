import DiscountPolicy.Proofs.Expression.Positions

/-! Why words are no predicate. Every defect that `build` finds is there to be seen in the words: at
the position that it names, or around the one where the reader gives up. A word that is no name and
operators nested too deeply stay what they are whatever words follow, while the other two defects
say that the words end too early. -/

namespace DiscountPolicy.Expression

variable {words : List String} {levels : Nat} {first : Placed} {rest : List Placed} {d : Defect}

/-! ### One step of the reader -/

/-- What one step of the reader does where it fails. -/
theorem readTree_eq_error_iff :
    readTree (levels + 1) first rest = .error d ↔
      (isKeyword first.1 = false ∧ d = .notName first.1 first.2) ∨
      (∃ op, first.1 = Operator.name op ∧ rest = [] ∧ d = .noOperands op first.2) ∨
      (∃ op second others, first.1 = Operator.name op ∧ rest = second :: others ∧
        (readTree levels second others = .error d ∨
          (∃ left, readTree levels second others = .ok (left, []) ∧
            d = .noSecondOperand op first.2) ∨
          ∃ left third others', readTree levels second others = .ok (left, third :: others') ∧
            readTree levels third others' = .error d)) := by
  constructor
  · intro h
    cases hkey : isKeyword first.1 with
    | false =>
      rw [readTree_notName hkey] at h
      exact .inl ⟨rfl, (Except.error.inj h).symm⟩
    | true =>
      rcases isKeyword_iff.mp hkey with ⟨op, hop⟩ | ⟨tag, htag⟩
      · cases rest with
        | nil =>
          rw [readTree_lastOperator hop] at h
          exact .inr (.inl ⟨op, hop, rfl, (Except.error.inj h).symm⟩)
        | cons second others =>
          rw [readTree_operator hop] at h
          refine .inr (.inr ⟨op, second, others, hop, rfl, ?_⟩)
          rcases bind_eq_error_iff.mp h with hleft | ⟨⟨left, unread⟩, hleft, h⟩
          · exact .inl hleft
          · cases unread with
            | nil => exact .inr (.inl ⟨left, hleft, (Except.error.inj h).symm⟩)
            | cons third others' =>
              rcases bind_eq_error_iff.mp h with hright | ⟨_, -, h⟩
              · exact .inr (.inr ⟨left, third, others', hleft, hright⟩)
              · cases h
      · rw [readTree_tag htag] at h
        cases h
  · rintro (⟨hplain, rfl⟩ | ⟨op, hop, rfl, rfl⟩ | ⟨op, second, others, hop, rfl, hparts⟩)
    · exact readTree_notName hplain
    · exact readTree_lastOperator hop
    · rw [readTree_operator hop]
      rcases hparts with hleft | ⟨left, hleft, rfl⟩ | ⟨left, third, others', hleft, hright⟩
      · rw [hleft, error_bind]
      · rw [hleft, ok_bind]
      · rw [hleft, ok_bind]
        exact bind_eq_error_iff.mpr (.inl hright)

/-! ### What is wrong with the words -/

/-- A node starts at the position, inside of the operators at the positions `around`, of which the
first one is the innermost. It is the first part of that operator, or words that spell the first
part, up to where it may end, stand in between. -/
inductive Inside (words : List String) : List Nat → Nat → Prop
  | root : Inside words [] 0
  | firstPart {around : List Nat} {position : Nat} {op : Operator}
      (outer : Inside words around position) (name : words[position]? = some op.name) :
      Inside words (position :: around) (position + 1)
  | secondPart {around : List Nat} {position n : Nat} {op : Operator} {left : Predicate}
      (outer : Inside words around position) (name : words[position]? = some op.name)
      (spelled : Spells ((words.drop (position + 1)).take n) left)
      (ends : NodeEnd (words.drop (position + 1 + n))) :
      Inside words (position :: around) (position + 1 + n)

theorem Inside.start {around : List Nat} {position : Nat} (h : Inside words around position) :
    position = 0 ∨ (∃ op, words[position - 1]? = some (Operator.name op)) ∨
      NodeEnd (words.drop position) := by
  cases h with
  | root => exact .inl rfl
  | firstPart outer name => exact .inr (.inl ⟨_, name⟩)
  | secondPart outer name spelled ends => exact .inr (.inr ends)

/-- What a defect says of the words, and the text that says it. -/
inductive Reports (words : List String) : Defect → String → Prop
  | notName {w : String} {i : Nat} (word : words[i]? = some w) (plain : isKeyword w = false)
      (start : i = 0 ∨ ∃ op, words[i - 1]? = some (Operator.name op)) :
      Reports words (.notName w i)
        ("'" ++ w ++ "' at position " ++ intText i ++ " is not a constraint or operator")
  | noOperands {op : Operator} {i : Nat} (word : words[i]? = some op.name)
      (last : i + 1 = words.length) :
      Reports words (.noOperands op i)
        ("'" ++ op.name ++ "' at position " ++ intText i ++ " has no operands")
  | noSecondOperand {op : Operator} {i : Nat} {t : Predicate} (word : words[i]? = some op.name)
      (spelled : Spells (words.drop (i + 1)) t) :
      Reports words (.noSecondOperand op i)
        ("'" ++ op.name ++ "' at position " ++ intText i ++ " is missing its second operand")
  | tooDeep {around : List Nat} {i : Nat} (nested : around.length = 65)
      (inside : Inside words around i) (reached : i < words.length) :
      Reports words .tooDeep "Nesting deeper than 64 levels"

/-- What the reader passes on the way to the second part of an operator. -/
theorem Inside.of_readTree {around : List Nat} {op : Operator} {left : Predicate}
    {second third : Placed} {others others' : List Placed}
    (hsuffix : first :: second :: others <:+ words.zipIdx) (hop : first.1 = op.name)
    (h : readTree levels second others = .ok (left, third :: others'))
    (hinside : Inside words around first.2) : Inside words (first.2 :: around) third.2 := by
  have hword := getElem?_of_suffix hsuffix
  rw [hop] at hword
  have hsecond := (List.suffix_cons first _).trans hsuffix
  have hthird := suffix_of_readTree h hsecond
  obtain ⟨taken, heq, hspells, hend, -⟩ := spells_of_readTree h
  have hposition : third.2 = first.2 + 1 + taken.length := by
    have hfirst := length_of_suffix hsuffix
    have hunread := length_of_suffix hthird
    have htaken := congrArg List.length heq
    rw [List.length_append, List.length_cons, List.length_cons] at htaken
    rw [List.length_cons] at hfirst
    omega
  rw [hposition]
  apply Inside.secondPart hinside hword
  · rw [drop_succ_of_suffix hsuffix, heq, List.map_append, List.take_left' (by simp)]
    exact hspells
  · rw [← hposition, drop_of_suffix hthird]
    exact hend

theorem reports_of_readTree {around : List Nat} (h : readTree levels first rest = .error d)
    (hsuffix : first :: rest <:+ words.zipIdx) (hinside : Inside words around first.2)
    (hlevels : around.length + levels = maxNesting + 1) : Reports words d d.message := by
  induction levels generalizing first rest around with
  | zero =>
    obtain rfl : .tooDeep = d := Except.error.inj h
    exact .tooDeep hlevels hinside (by have := length_of_suffix hsuffix; omega)
  | succ levels ih =>
    have hword := getElem?_of_suffix hsuffix
    rcases readTree_eq_error_iff.mp h with ⟨hplain, rfl⟩ | ⟨op, hop, rfl, rfl⟩ |
      ⟨op, second, others, hop, rfl, hparts⟩
    · apply Reports.notName hword hplain
      rcases hinside.start with hroot | hfirst | hend
      · exact .inl hroot
      · exact .inr hfirst
      · -- The second part of an operator starts where the first one ends, with a name.
        have hname : isKeyword first.1 = true := hend first.1 (by rw [drop_of_suffix hsuffix]; rfl)
        rw [hname] at hplain
        cases hplain
    · rw [hop] at hword
      exact .noOperands hword (length_of_suffix hsuffix).symm
    · rw [hop] at hword
      have hsecond := (List.suffix_cons first _).trans hsuffix
      rcases hparts with hleft | ⟨left, hleft, rfl⟩ | ⟨left, third, others', hleft, hright⟩
      · have hinner : Inside words (first.2 :: around) second.2 := by
          rw [position_second hsuffix]
          exact .firstPart hinside hword
        apply ih hleft hsecond hinner
        rw [List.length_cons]
        omega
      · obtain ⟨taken, heq, hspells, -⟩ := spells_of_readTree hleft
        apply Reports.noSecondOperand hword (t := left)
        rw [drop_succ_of_suffix hsuffix, heq, List.append_nil]
        exact hspells
      · apply ih hright (suffix_of_readTree hleft hsecond) (hinside.of_readTree hsuffix hop hleft)
        rw [List.length_cons]
        omega

/-! ### Words that follow -/

/-- A tree that other words follow is read alike whatever follows those. -/
theorem readTree_append_of_ok {t : Predicate} {next : Placed} {unread : List Placed}
    (h : readTree levels first rest = .ok (t, next :: unread)) (more : List Placed) :
    readTree levels first (rest ++ more) = .ok (t, next :: (unread ++ more)) := by
  obtain ⟨taken, heq, hspells, hend, hdepth⟩ := spells_of_readTree h
  have hend' : NodeEnd ((next :: (unread ++ more)).map Prod.fst) := hend
  apply readTree_of_spells hspells rfl hdepth hend'
  rw [← List.cons_append, heq, List.append_assoc]
  rfl

/-- A defect that is not the end of the words is found alike whatever follows them. -/
theorem readTree_append_of_error (hd : d = .tooDeep ∨ ∃ w i, d = .notName w i)
    (h : readTree levels first rest = .error d) (more : List Placed) :
    readTree levels first (rest ++ more) = .error d := by
  induction levels generalizing first rest with
  | zero => exact h
  | succ levels ih =>
    rcases readTree_eq_error_iff.mp h with hplain | ⟨op, -, -, rfl⟩ |
      ⟨op, second, others, hop, rfl, hparts⟩
    · exact readTree_eq_error_iff.mpr (.inl hplain)
    · simp at hd
    · refine readTree_eq_error_iff.mpr (.inr (.inr ⟨op, second, others ++ more, hop, rfl, ?_⟩))
      rcases hparts with hleft | ⟨left, -, rfl⟩ | ⟨left, third, others', hleft, hright⟩
      · exact .inl (ih hleft)
      · simp at hd
      · have hext := readTree_append_of_ok hleft more
        exact .inr (.inr ⟨left, third, others' ++ more, hext, ih hright⟩)

/-! ### Whole sequences of words -/

theorem build_cons_eq_error_iff {w : String} {ws : List String} :
    build (w :: ws) = .error d ↔ readTree (maxNesting + 1) (w, 0) (ws.zipIdx 1) = .error d := by
  rw [build_cons, bind_eq_error_iff]
  simp

theorem build_append_of_error (hd : d = .tooDeep ∨ ∃ w i, d = .notName w i)
    (h : build words = .error d) (more : List String) : build (words ++ more) = .error d := by
  cases words with
  | nil => cases h
  | cons w ws =>
    rw [List.cons_append, build_cons_eq_error_iff, List.zipIdx_append]
    exact readTree_append_of_error hd (build_cons_eq_error_iff.mp h) _

/-- A defect that `build` finds is what its text says of the words. If it is not the end of the
words, the same defect is found whatever words follow. Reading by positions finds no other defects
and never misses a word. -/
theorem build_reports (words : List String) :
    (∀ d, build words = .error d → Reports words d d.message) ∧
    (∀ d, build words = .error d → (d = .tooDeep ∨ ∃ w i, d = .notName w i) →
      ∀ more, build (words ++ more) = .error d) ∧
    buildAt words = (build words).mapError .defect ∧
    ∀ i, buildAt words ≠ .error (.endOfWords i) := by
  refine ⟨fun d h => ?_, fun d h hd => build_append_of_error hd h, buildAt_eq words, fun i => ?_⟩
  · cases words with
    | nil => cases h
    | cons w ws =>
      exact reports_of_readTree (build_cons_eq_error_iff.mp h) (List.suffix_refl _) .root rfl
  · rw [buildAt_eq]
    cases build words with
    | error d => simp [Except.mapError]
    | ok result => simp [Except.mapError]

/-- All four defects arise. Further words mend the second and the third of them. -/
example :
    build ["or", "17"] = .error (.notName "17" 1) ∧ build ["or"] = .error (.noOperands .or 0) ∧
      build ["or", "age"] = .error (.noSecondOperand .or 0) ∧
      build (List.replicate 65 "or" ++ ["age"]) = .error .tooDeep ∧
      build ["or", "age", "time"] =
        .ok (some ⟨.composite .or (.leaf .age []) (.leaf .time []), 3, 3⟩) := by
  decide +kernel

end DiscountPolicy.Expression
