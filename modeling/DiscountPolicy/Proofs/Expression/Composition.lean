import DiscountPolicy.Proofs.Expression.RoundTrip

/-! Expressions as parts of expressions. The text of two predicates behind an operator spells the
composite of the two, whatever their texts look like, as long as no words are left over behind the
first one; and it is too deep as soon as one of the two is as deep as a predicate may be. -/

namespace DiscountPolicy.Expression

variable {t l r : Predicate} {as bs : List String} {n : Nat}

theorem Spells.composite_take (op : Operator) (left : Spells as l) (right : Spells (bs.take n) r) :
    Spells ((op.name :: (as ++ bs)).take (as.length + n + 1)) (.composite op l r) := by
  rw [List.take_succ_cons, List.take_length_add_append]
  exact .composite op left right

theorem Accepts.composite (op : Operator) (left : Spells as l) (right : Accepts bs r n)
    (hl : l.depth ≤ maxNesting) (hr : r.depth ≤ maxNesting) :
    Accepts (op.name :: (as ++ bs)) (.composite op l r) (as.length + n + 1) := by
  refine ⟨left.composite_take op right.spells, ?_, ?_⟩
  · rw [List.getElem?_cons_succ, List.getElem?_append_right (by omega), Nat.add_sub_cancel_left]
    rcases right.ends with hn | hkeyword
    · exact .inl (by simp [hn])
    · exact .inr hkeyword
  · rw [Predicate.depth]
    omega

/-! ### Depth -/

/-- Words that spell a tree with more levels than there may be are too deep, and nothing else is
wrong with them. -/
theorem readTree_of_spells_deep {levels : Nat} {first : Placed} {rest taken unread : List Placed}
    {ws : List String} (h : Spells ws t) (hws : taken.map Prod.fst = ws) (hd : levels < t.depth)
    (hend : NodeEnd (unread.map Prod.fst)) (heq : first :: rest = taken ++ unread) :
    readTree levels first rest = .error .tooDeep := by
  induction h generalizing levels first rest taken unread with
  | leaf tag operands plain =>
    obtain rfl : levels = 0 := by
      rw [Predicate.depth] at hd
      omega
    rfl
  | @composite op ls rs l r left right ihl ihr =>
    cases levels with
    | zero => rfl
    | succ levels =>
      obtain ⟨second, others, third, others', hop, rfl, hleft, hright⟩ :=
        placed_composite left right hws heq
      have hends := right.nodeEnd_placed hright unread
      rw [Predicate.depth] at hd
      rw [readTree_operator hop]
      by_cases hdeep : levels < l.depth
      · have hfails : readTree levels second (others ++ (third :: others' ++ unread)) =
            .error .tooDeep := ihl hleft hdeep hends rfl
        rw [hfails, error_bind]
      · -- The left part is read as it stands, so the right one is the part that is too deep.
        have hreads : readTree levels second (others ++ (third :: others' ++ unread)) =
            .ok (l, third :: others' ++ unread) :=
          readTree_of_spells left hleft (by omega) hends rfl
        have hfails : readTree levels third (others' ++ unread) = .error .tooDeep :=
          ihr hright (by omega) hend rfl
        rw [hreads, ok_bind]
        show (readTree levels third (others' ++ unread) >>= _) = _
        rw [hfails, error_bind]

theorem build_of_spells_deep {words : List String} (h : Spells (words.take n) t)
    (hend : NodeEnd (words.drop n)) (hd : maxNesting + 1 < t.depth) :
    build words = .error .tooDeep := by
  cases words with
  | nil =>
    obtain ⟨_, _, hcons, -⟩ := h.head
    simp at hcons
  | cons w ws =>
    have hread : readTree (maxNesting + 1) (w, 0) (ws.zipIdx 1) = .error .tooDeep := by
      apply readTree_of_spells_deep h _ hd _ (List.take_append_drop n (w :: ws).zipIdx).symm
      · rw [List.map_take, List.zipIdx_map_fst]
      · rwa [List.map_drop, List.zipIdx_map_fst]
    rw [build_cons, hread, error_bind]

theorem build_composite_deep (op : Operator) (left : Spells as l) (right : Accepts bs r n)
    (hd : maxNesting < l.depth ∨ maxNesting < r.depth) :
    build (op.name :: (as ++ bs)) = .error .tooDeep := by
  apply build_of_spells_deep (left.composite_take op right.spells)
  · rw [List.drop_succ_cons, List.drop_length_add_append]
    exact (nodeEnd_drop_iff right.le_length).mpr right.ends
  · rw [Predicate.depth]
    omega

/-! ### Texts -/

/-- An operator in front of two texts reads as the composite of what the two texts read as, and
leaves the words unread that the second text leaves unread. If one of the two has all the levels
that there may be, the composite is too deep. -/
theorem read_composite (op : Operator) {A B : String} {a b : Reading}
    (ha : read A = .ok (some a)) (hall : a.ignored? = none) (hb : read B = .ok (some b)) :
    let s := "(" ++ op.name ++ " " ++ A ++ " " ++ B ++ ")"
    let shift := 1 + (words A).length
    let c : Reading :=
      ⟨.composite op a.predicate b.predicate, shift + b.consumed, shift + b.total⟩
    (a.predicate.depth ≤ maxNesting → b.predicate.depth ≤ maxNesting →
      parse s = .ok (some (.composite op a.predicate b.predicate)) ∧ read s = .ok (some c) ∧
      c.ignored? = b.ignored?.map (fun p => (shift + p.1, shift + p.2)) ∧
      (words s).drop c.consumed = (words B).drop b.consumed) ∧
    (a.predicate.depth = maxNesting + 1 ∨ b.predicate.depth = maxNesting + 1 →
      parse s = .error .tooDeep ∧ (Failure.expression .tooDeep).kind = .invalidPredicate) := by
  intro s shift c
  have hwords : words s = op.name :: (words A ++ words B) := words_composite op A B
  obtain ⟨hspells, -, -⟩ := accepts_of_build ha
  have hB : Accepts (words B) b.predicate b.consumed := accepts_of_build hb
  -- No words are left over behind the first text, so all of them spell its tree.
  have hconsumed : (words A).length ≤ a.consumed := by
    rw [← total_of_build ha]
    simpa [Reading.ignored?] using hall
  rw [List.take_of_length_le hconsumed] at hspells
  constructor
  · intro hl hr
    have hsum : (words A).length + b.consumed + 1 = c.consumed := by
      show _ = shift + b.consumed
      omega
    have htotal : (op.name :: (words A ++ words B)).length = c.total := by
      show _ = shift + b.total
      rw [total_of_build hb, List.length_cons, List.length_append]
      omega
    have hread : read s = .ok (some c) := by
      rw [read, hwords, build_of_accepts (Accepts.composite op hspells hB hl hr), hsum, htotal]
    refine ⟨parse_eq_some_iff.mpr ⟨c, hread, rfl⟩, hread, ?_, ?_⟩
    · simp only [Reading.ignored?, c, Nat.add_lt_add_iff_left]
      split
      · rfl
      · rfl
    · rw [hwords, ← hsum, List.drop_succ_cons, List.drop_length_add_append]
  · intro hdeep
    have hread : read s = .error .tooDeep := by
      rw [read, hwords]
      exact build_composite_deep op hspells hB (by omega)
    exact ⟨by rw [parse, hread, error_bind], rfl⟩

/-- A first text with parentheses inside of its words, a second one with two leaves left over, and a
chain of leaves that has all the levels that there may be. -/
theorem read_composite_leftover :
    let A := "or (age 1), (seas(on) summer"
    let B := "(xor day_of_week 1 5 (time)) price_basket 10 x, season"
    let one : Predicate := .leaf .age [.scalar (.integer 1)]
    let a : Predicate := .composite .or one (.leaf .season [.scalar (.text "summer")])
    let b : Predicate := .composite .xor
      (.leaf .dayOfWeek [.scalar (.integer 1), .scalar (.integer 5)]) (.leaf .time [])
    let d : Predicate := (List.replicate 64 one).foldr (.composite .and) one
    read A = .ok (some ⟨a, 5, 5⟩) ∧ read B = .ok (some ⟨b, 5, 9⟩) ∧
      read ("(" ++ Operator.implies.name ++ " " ++ A ++ " " ++ B ++ ")") =
        .ok (some ⟨.composite .implies a b, 11, 15⟩) ∧
      parse d.render = .ok (some d) ∧ d.depth = maxNesting + 1 ∧
      parse ("(" ++ Operator.implies.name ++ " " ++ A ++ " " ++ d.render ++ ")") =
        .error .tooDeep := by
  intro A B one a b d
  have ha : read A = .ok (some ⟨a, 5, 5⟩) := by decide +kernel
  have hb : read B = .ok (some ⟨b, 5, 9⟩) := by decide +kernel
  have hdepth : d.depth = maxNesting + 1 := by decide +kernel
  have hones : ∀ e ∈ d.operands, e.2 = .scalar (.integer 1) := by decide +kernel
  have hd : d.Expressible := ⟨hdepth.le, fun e he => by rw [hones e he]; trivial⟩
  have hlength : (words A).length = 5 := (total_of_build ha).symm
  have hleft := (read_composite .implies ha rfl hb).1 (by decide) (by decide)
  rw [hlength] at hleft
  have hdeep := (read_composite .implies ha rfl (read_render hd)).2 (.inr hdepth)
  exact ⟨ha, hb, hleft.2.1, parse_render hd, hdepth, hdeep.1⟩

end DiscountPolicy.Expression
