import DiscountPolicy.Failure
import DiscountPolicy.Predicate.Expression
import DiscountPolicy.Proofs.Name
import DiscountPolicy.Proofs.Outcome
import DiscountPolicy.Proofs.Prefix

/-! The grammar of expressions: which words spell which tree. A tree is read off the words that
spell it, up to the end of the words or to the next name, and off no other words; so words spell at
most one tree, and the reader refuses all that spell none. -/

namespace DiscountPolicy

namespace Expression

/-- The words spell the tree. A leaf is spelled by the name of its tag and by words that are no
names, one for each operand; a composite by the name of its operator, then its left part, then its
right part. -/
inductive Spells : List String → Predicate → Prop
  | leaf (tag : Tag) (operands : List String) (plain : ∀ w ∈ operands, isKeyword w = false) :
      Spells (tag.name :: operands) (.leaf tag (operands.map fun w => .scalar (.ofWord w)))
  | composite (op : Operator) {ls rs : List String} {l r : Predicate} (left : Spells ls l)
      (right : Spells rs r) : Spells (op.name :: (ls ++ rs)) (.composite op l r)

/-- A node may end in front of these words: there are none, or the first one is a name. -/
def NodeEnd (words : List String) : Prop := ∀ w ∈ words.head?, isKeyword w = true

theorem Spells.head {ws : List String} {t : Predicate} (h : Spells ws t) :
    ∃ w rest, ws = w :: rest ∧ isKeyword w = true := by
  cases h with
  | leaf tag operands _ => exact ⟨tag.name, operands, rfl, isKeyword_tagName tag⟩
  | composite op _ _ => exact ⟨op.name, _, rfl, isKeyword_operatorName op⟩

/-- Words that begin with a spelled tree begin with a name. -/
theorem Spells.nodeEnd_append {ws : List String} {t : Predicate} (h : Spells ws t)
    (rest : List String) : NodeEnd (ws ++ rest) := by
  obtain ⟨w, tail, rfl, hw⟩ := h.head
  intro v hv
  obtain rfl : w = v := by simpa using hv
  exact hw

/-! ### The reader -/

section Reader

variable {levels : Nat} {first : Placed} {rest unread : List Placed} {t : Predicate}

/-- The operands of a leaf, as the words up to the next name. -/
theorem readTree_tag {tag : Tag} (h : first.1 = tag.name) :
    readTree (levels + 1) first rest =
      .ok (.leaf tag ((rest.takeWhile (!isKeyword ·.1)).map fun w => .scalar (.ofWord w.1)),
        rest.dropWhile (!isKeyword ·.1)) := by
  rw [readTree, h, Operator.ofName?_tagName, Tag.ofName?_name]

theorem readTree_operator {op : Operator} {second : Placed} (h : first.1 = op.name) :
    readTree (levels + 1) first (second :: rest) =
      (readTree levels second rest >>= fun (left, unread) =>
        match unread with
        | [] => .error (.noSecondOperand op first.2)
        | third :: rest => readTree levels third rest >>= fun (right, unread) =>
          .ok (.composite op left right, unread)) := by
  rw [readTree, h, Operator.ofName?_name]
  rfl

theorem readTree_lastOperator {op : Operator} (h : first.1 = op.name) :
    readTree (levels + 1) first [] = .error (.noOperands op first.2) := by
  rw [readTree, h, Operator.ofName?_name]

theorem readTree_notName (h : isKeyword first.1 = false) :
    readTree (levels + 1) first rest = .error (.notName first.1 first.2) := by
  obtain ⟨hoperator, htag⟩ := isKeyword_eq_false_iff.mp h
  rw [readTree, hoperator, htag]

/-- What one step of the reader does where it succeeds. -/
theorem readTree_eq_ok_iff :
    readTree (levels + 1) first rest = .ok (t, unread) ↔
      (∃ op second others left third others' right, first.1 = Operator.name op ∧
        rest = second :: others ∧ readTree levels second others = .ok (left, third :: others') ∧
        readTree levels third others' = .ok (right, unread) ∧ t = .composite op left right) ∨
      (∃ tag, first.1 = Tag.name tag ∧ unread = rest.dropWhile (!isKeyword ·.1) ∧
        t = .leaf tag ((rest.takeWhile (!isKeyword ·.1)).map fun w => .scalar (.ofWord w.1))) := by
  constructor
  · intro h
    cases hkey : isKeyword first.1 with
    | false => simp [readTree_notName hkey] at h
    | true =>
      rcases isKeyword_iff.mp hkey with ⟨op, hop⟩ | ⟨tag, htag⟩
      · left
        cases rest with
        | nil => simp [readTree_lastOperator hop] at h
        | cons second others =>
          rw [readTree_operator hop] at h
          obtain ⟨⟨left, unread'⟩, hleft, h⟩ := bind_eq_ok_iff.mp h
          cases unread' with
          | nil => simp at h
          | cons third others' =>
            obtain ⟨⟨right, unread''⟩, hright, h⟩ := bind_eq_ok_iff.mp h
            obtain ⟨rfl, rfl⟩ : .composite op left right = t ∧ unread'' = unread := by
              simpa using h
            exact ⟨op, second, others, left, third, others', right, hop, rfl, hleft, hright, rfl⟩
      · right
        rw [readTree_tag htag] at h
        simp only [Except.ok.injEq, Prod.mk.injEq] at h
        exact ⟨tag, htag, h.2.symm, h.1.symm⟩
  · rintro (⟨op, second, others, left, third, others', right, hop, rfl, hleft, hright, rfl⟩ |
      ⟨tag, htag, rfl, rfl⟩)
    · rw [readTree_operator hop, hleft]
      simp [hright]
    · rw [readTree_tag htag]

/-- A node may end where a run of words that are no names stops. -/
theorem nodeEnd_map_iff :
    NodeEnd (unread.map Prod.fst) ↔ Stops (fun p : Placed => !isKeyword p.1) unread := by
  cases unread with
  | nil => simp [NodeEnd, Stops]
  | cons p ps => simp [NodeEnd, Stops]

/-- Words that are no names, in front of a place where a node may end, are the operands there. -/
theorem splitOperands {operands : List Placed}
    (plain : ∀ w ∈ operands.map Prod.fst, isKeyword w = false)
    (hend : NodeEnd (unread.map Prod.fst)) :
    (operands ++ unread).takeWhile (!isKeyword ·.1) = operands ∧
      (operands ++ unread).dropWhile (!isKeyword ·.1) = unread := by
  have hall : ∀ p ∈ operands, (!isKeyword p.1) = true := by
    intro p hp
    simp [plain p.1 (List.mem_map_of_mem hp)]
  have hstops := nodeEnd_map_iff.mp hend
  exact ⟨takeWhile_append_stops hall hstops, dropWhile_append_stops hall hstops⟩

/-- What a successful reading takes: the words of the tree, up to a place where a node may end. -/
theorem spells_of_readTree (h : readTree levels first rest = .ok (t, unread)) :
    ∃ taken, first :: rest = taken ++ unread ∧ Spells (taken.map Prod.fst) t ∧
      NodeEnd (unread.map Prod.fst) ∧ t.depth ≤ levels := by
  induction levels generalizing first rest t unread with
  | zero => simp [readTree] at h
  | succ levels ih =>
    rcases readTree_eq_ok_iff.mp h with
      ⟨op, second, others, left, third, others', right, hop, rfl, hleft, hright, rfl⟩ |
      ⟨tag, htag, rfl, rfl⟩
    · -- What the left part leaves unread starts with the right part's first word.
      obtain ⟨taken, heq, hl, -, hdl⟩ := ih hleft
      obtain ⟨taken', heq', hr, hend, hdr⟩ := ih hright
      refine ⟨first :: (taken ++ taken'), ?_, ?_, hend, ?_⟩
      · rw [heq, heq', List.cons_append, List.append_assoc]
      · rw [List.map_cons, List.map_append, hop]
        exact .composite op hl hr
      · simp only [Predicate.depth]
        omega
    · refine ⟨first :: rest.takeWhile (!isKeyword ·.1), by simp, ?_, ?_, by simp [Predicate.depth]⟩
      · rw [List.map_cons, htag]
        have plain : ∀ w ∈ (rest.takeWhile (!isKeyword ·.1)).map Prod.fst, isKeyword w = false := by
          intro w hw
          obtain ⟨placed, hplaced, rfl⟩ := List.mem_map.mp hw
          simpa using List.mem_takeWhile_imp hplaced
        simpa [List.map_map, Function.comp_def] using Spells.leaf tag _ plain
      · exact nodeEnd_map_iff.mpr (stops_dropWhile _ rest)

/-- A node may end in front of words that begin with a spelled tree. -/
theorem Spells.nodeEnd_placed {ws : List String} (h : Spells ws t) {taken : List Placed}
    (hws : taken.map Prod.fst = ws) (unread : List Placed) :
    NodeEnd ((taken ++ unread).map Prod.fst) := by
  rw [List.map_append, hws]
  exact h.nodeEnd_append _

/-- The words of a composite, in front of others: its operator, its left part and its right part,
each part with a first word. -/
theorem placed_composite {op : Operator} {ls rs : List String} {l r : Predicate}
    (left : Spells ls l) (right : Spells rs r) {taken : List Placed}
    (hws : taken.map Prod.fst = op.name :: (ls ++ rs)) (heq : first :: rest = taken ++ unread) :
    ∃ second others third others', first.1 = op.name ∧
      rest = second :: (others ++ (third :: others' ++ unread)) ∧
      (second :: others).map Prod.fst = ls ∧ (third :: others').map Prod.fst = rs := by
  obtain ⟨p, ps, rfl, hp, hps⟩ := List.map_eq_cons_iff.mp hws
  obtain ⟨takenLeft, takenRight, rfl, rfl, rfl⟩ := List.map_eq_append_iff.mp hps
  obtain ⟨_, _, hl, -⟩ := left.head
  obtain ⟨second, others, rfl, -, -⟩ := List.map_eq_cons_iff.mp hl
  obtain ⟨_, _, hr, -⟩ := right.head
  obtain ⟨third, others', rfl, -, -⟩ := List.map_eq_cons_iff.mp hr
  obtain ⟨rfl, rfl⟩ : first = p ∧ rest = second :: others ++ third :: others' ++ unread := by
    simpa using heq
  exact ⟨second, others, third, others', hp, by simp, rfl, rfl⟩

/-- Words that spell a tree are read as that tree wherever a node may end behind them. -/
theorem readTree_of_spells {ws : List String} (h : Spells ws t) {taken : List Placed}
    (hws : taken.map Prod.fst = ws) (hd : t.depth ≤ levels) (hend : NodeEnd (unread.map Prod.fst))
    (heq : first :: rest = taken ++ unread) : readTree levels first rest = .ok (t, unread) := by
  induction h generalizing levels first rest taken unread with
  | leaf tag operands plain =>
    obtain ⟨p, ps, rfl, hp, rfl⟩ := List.map_eq_cons_iff.mp hws
    obtain ⟨rfl, rfl⟩ : first = p ∧ rest = ps ++ unread := by simpa using heq
    obtain ⟨levels, rfl⟩ : ∃ n, levels = n + 1 := by
      rw [Predicate.depth] at hd
      exact ⟨levels - 1, by omega⟩
    obtain ⟨htake, hdrop⟩ := splitOperands plain hend
    rw [readTree_tag hp, htake, hdrop]
    simp [List.map_map, Function.comp_def]
  | @composite op ls rs l r left right ihl ihr =>
    obtain ⟨second, others, third, others', hop, rfl, hleft, hright⟩ :=
      placed_composite left right hws heq
    simp only [Predicate.depth] at hd
    obtain ⟨levels, rfl⟩ : ∃ n, levels = n + 1 := ⟨levels - 1, by omega⟩
    refine readTree_eq_ok_iff.mpr (Or.inl ⟨op, second, others ++ (third :: others' ++ unread), l,
      third, others' ++ unread, r, hop, rfl, ?_, ?_, rfl⟩)
    · exact ihl hleft (by omega) (right.nodeEnd_placed hright unread) rfl
    · exact ihr hright (by omega) hend rfl

end Reader

/-! ### Whole sequences of words -/

/-- The first `n` of the words spell the tree, which is not too deep, and a node may end behind
them. -/
structure Accepts (words : List String) (t : Predicate) (n : Nat) : Prop where
  spells : Spells (words.take n) t
  ends : n = words.length ∨ ∃ w, words[n]? = some w ∧ isKeyword w = true
  depth : t.depth ≤ maxNesting + 1

theorem nodeEnd_drop_iff {words : List String} {n : Nat} (h : n ≤ words.length) :
    NodeEnd (words.drop n) ↔ n = words.length ∨ ∃ w, words[n]? = some w ∧ isKeyword w = true := by
  rw [NodeEnd, List.head?_drop]
  rcases Nat.lt_or_ge n words.length with hlt | hge
  · simp [List.getElem?_eq_getElem hlt, Nat.ne_of_lt hlt]
  · simp [Nat.le_antisymm h hge]

theorem Accepts.le_length {words : List String} {t : Predicate} {n : Nat}
    (h : Accepts words t n) : n ≤ words.length := by
  rcases h.ends with rfl | ⟨w, hw, -⟩
  · exact Nat.le_refl _
  · exact Nat.le_of_lt (List.getElem?_eq_some_iff.mp hw).1

@[simp] theorem build_nil : build [] = .ok none := rfl

theorem build_cons (w : String) (ws : List String) :
    build (w :: ws) = (readTree (maxNesting + 1) (w, 0) (ws.zipIdx 1) >>= fun (t, unread) =>
      .ok (some ⟨t, (w :: ws).length - unread.length, (w :: ws).length⟩)) := rfl

theorem total_of_build {words : List String} {r : Reading} (h : build words = .ok (some r)) :
    r.total = words.length := by
  cases words with
  | nil => simp at h
  | cons w ws =>
    rw [build_cons] at h
    obtain ⟨_, -, h⟩ := bind_eq_ok_iff.mp h
    simp only [Except.ok.injEq, Option.some.injEq] at h
    rw [← h]

theorem accepts_of_build {words : List String} {r : Reading} (h : build words = .ok (some r)) :
    Accepts words r.predicate r.consumed := by
  cases words with
  | nil => simp at h
  | cons w ws =>
    rw [build_cons] at h
    obtain ⟨⟨t, unread⟩, hread, h⟩ := bind_eq_ok_iff.mp h
    simp only [Except.ok.injEq, Option.some.injEq] at h
    subst h
    obtain ⟨taken, heq, hspells, hend, hdepth⟩ := spells_of_readTree hread
    have hwords : w :: ws = taken.map Prod.fst ++ unread.map Prod.fst := by
      rw [← List.map_append, ← heq, List.map_cons, List.zipIdx_map_fst]
    have hcount : (w :: ws).length - unread.length = (taken.map Prod.fst).length := by
      rw [hwords]
      simp
    simp only [hcount]
    refine ⟨?_, ?_, hdepth⟩
    · rwa [hwords, List.take_left]
    · refine (nodeEnd_drop_iff ?_).mp ?_
      · simp [hwords]
      · rwa [hwords, List.drop_left]

theorem build_of_accepts {words : List String} {t : Predicate} {n : Nat}
    (h : Accepts words t n) : build words = .ok (some ⟨t, n, words.length⟩) := by
  cases words with
  | nil =>
    obtain ⟨_, _, hcons, -⟩ := h.spells.head
    simp at hcons
  | cons w ws =>
    have hfst : ∀ k, ((w :: ws).zipIdx.take k).map Prod.fst = (w :: ws).take k := by
      intro k
      rw [List.map_take, List.zipIdx_map_fst]
    have hrest : ∀ k, ((w :: ws).zipIdx.drop k).map Prod.fst = (w :: ws).drop k := by
      intro k
      rw [List.map_drop, List.zipIdx_map_fst]
    have hread : readTree (maxNesting + 1) (w, 0) (ws.zipIdx 1) =
        .ok (t, (w :: ws).zipIdx.drop n) := by
      refine readTree_of_spells h.spells (hfst n) h.depth ?_ (List.take_append_drop n _).symm
      rw [hrest]
      exact (nodeEnd_drop_iff h.le_length).mpr h.ends
    rw [build_cons, hread, ok_bind]
    simp only [List.length_drop, List.length_zipIdx]
    rw [Nat.sub_sub_self h.le_length]

/-- A tree is built off exactly the words that are accepted for it. -/
theorem build_eq_some_iff {words : List String} {t : Predicate} {n : Nat} :
    build words = .ok (some ⟨t, n, words.length⟩) ↔ Accepts words t n :=
  ⟨fun h => accepts_of_build h, build_of_accepts⟩

theorem build_eq_none_iff {words : List String} : build words = .ok none ↔ words = [] := by
  cases words with
  | nil => simp
  | cons w ws =>
    rw [build_cons]
    constructor
    · intro h
      obtain ⟨_, -, h⟩ := bind_eq_ok_iff.mp h
      simp at h
    · simp

/-- Words are accepted for one tree and one end at most. -/
theorem Accepts.unique {words : List String} {t t' : Predicate} {n n' : Nat}
    (h : Accepts words t n) (h' : Accepts words t' n') : t = t' ∧ n = n' := by
  have heq := (build_of_accepts h).symm.trans (build_of_accepts h')
  simpa using heq

/-- Building reads exactly the words that are accepted for a tree, as that tree: it gives nothing
for no words, and otherwise the one tree and the one end that the words are accepted for, or a
defect if there are none. -/
theorem build_iff_accepts (words : List String) :
    (build words = .ok none ↔ words = []) ∧
    (∀ t n, build words = .ok (some ⟨t, n, words.length⟩) ↔ Accepts words t n) ∧
    (∀ r, build words = .ok (some r) → r.total = words.length) ∧
    (∀ t n t' n', Accepts words t n → Accepts words t' n' → t = t' ∧ n = n') ∧
    (words ≠ [] → (¬∃ t n, Accepts words t n) →
      ∃ d, build words = .error d ∧ (Failure.expression d).kind = .invalidPredicate) := by
  refine ⟨build_eq_none_iff, fun _ _ => build_eq_some_iff, fun _ => total_of_build,
    fun _ _ _ _ => Accepts.unique, fun hne hnone => ?_⟩
  rcases ok_or_error (build words) with ⟨result, hok⟩ | ⟨d, herror⟩
  · cases result with
    | none => exact absurd (build_eq_none_iff.mp hok) hne
    | some r => exact absurd ⟨r.predicate, r.consumed, accepts_of_build hok⟩ hnone
  · exact ⟨d, herror, rfl⟩

end Expression

end DiscountPolicy
