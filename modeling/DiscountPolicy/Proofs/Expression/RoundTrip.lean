import DiscountPolicy.Proofs.Expression.Operand
import DiscountPolicy.Proofs.Predicate

/-! Writing predicates as expressions and reading them back. The trees that are read off some text
are those that are read off their own text: they are not too deep, and every operand is one that
words stand for. -/

namespace DiscountPolicy

namespace Predicate

/-- The words of the tree as an expression: the name of each node, and the operands. -/
def tokens : Predicate → List String
  | .leaf tag xs => tag.name :: xs.map Operand.render
  | .composite op left right => op.name :: (left.tokens ++ right.tokens)

/-- The trees that expressions can hold. -/
structure Expressible (t : Predicate) : Prop where
  depth : t.depth ≤ Expression.maxNesting + 1
  operands : ∀ e ∈ t.operands, e.2.Expressible

end Predicate

namespace Expression

variable {t : Predicate}

theorem isWord_operatorName (op : Operator) : IsWord op.name.toList := by
  cases op <;> decide

theorem isWord_tagName (tag : Tag) : IsWord tag.name.toList := by
  cases tag with
  | bounds measure scope => cases measure <;> cases scope <;> decide
  | _ => decide

/-! ### Writing -/

theorem words_composite (op : Operator) (a b : String) :
    words ("(" ++ op.name ++ " " ++ a ++ " " ++ b ++ ")") = op.name :: (words a ++ words b) := by
  have hparts : "(" ++ op.name ++ " " ++ a ++ " " ++ b ++ ")" =
      "(" ++ (op.name ++ " " ++ (a ++ " " ++ b)) ++ ")" := by
    simp only [String.append_assoc]
  rw [hparts, words_parentheses, words_space, words_space, words_isWord (isWord_operatorName op)]
  rfl

theorem words_render (h : ∀ e ∈ t.operands, e.2.Expressible) : words t.render = t.tokens := by
  induction t with
  | leaf tag xs =>
    rw [Predicate.forall_operands_leaf] at h
    have hwords : ∀ w ∈ xs.map Operand.render, IsWord w.toList := by
      intro w hw
      obtain ⟨x, hx, rfl⟩ := List.mem_map.mp hw
      exact (h x hx).render.1
    have hrender : (Predicate.leaf tag xs).render =
        "(" ++ (tag.name ++ String.join ((xs.map Operand.render).map (" " ++ ·))) ++ ")" := by
      simp only [Predicate.render, String.append_assoc, List.map_map, Function.comp_def]
    rw [hrender, words_parentheses, words_join tag.name hwords, words_isWord (isWord_tagName tag)]
    rfl
  | composite op l r ihl ihr =>
    obtain ⟨hl, hr⟩ := Predicate.forall_operands_composite.mp h
    rw [Predicate.render, words_composite, ihl hl, ihr hr]
    rfl

/-- The words of a tree spell it, if its operands are what words stand for. -/
theorem spells_tokens (h : ∀ e ∈ t.operands, e.2.Expressible) : Spells t.tokens t := by
  induction t with
  | leaf tag xs =>
    rw [Predicate.forall_operands_leaf] at h
    have hplain : ∀ w ∈ xs.map Operand.render, isKeyword w = false := by
      intro w hw
      obtain ⟨x, hx, rfl⟩ := List.mem_map.mp hw
      exact (h x hx).render.2.1
    have hback : (xs.map Operand.render).map (fun w => Operand.scalar (.ofWord w)) = xs := by
      rw [List.map_map]
      refine (List.map_congr_left fun x hx => ?_).trans (List.map_id xs)
      exact (h x hx).render.2.2
    have hspells := Spells.leaf tag _ hplain
    rwa [hback] at hspells
  | composite op l r ihl ihr =>
    obtain ⟨hl, hr⟩ := Predicate.forall_operands_composite.mp h
    exact .composite op (ihl hl) (ihr hr)

theorem read_render (h : t.Expressible) :
    read t.render = .ok (some ⟨t, (words t.render).length, (words t.render).length⟩) := by
  refine build_of_accepts ⟨?_, .inl rfl, h.depth⟩
  rw [List.take_length, words_render h.operands]
  exact spells_tokens h.operands

/-! ### Reading -/

/-- The operands of a tree that clean words spell are what words stand for. -/
theorem Spells.expressible {ws : List String} (h : Spells ws t)
    (hws : ∀ w ∈ ws, IsWord w.toList) : ∀ e ∈ t.operands, e.2.Expressible := by
  induction h with
  | leaf tag operands plain =>
    rw [Predicate.forall_operands_leaf]
    intro x hx
    obtain ⟨w, hw, rfl⟩ := List.mem_map.mp hx
    exact Operand.expressible_ofWord (hws w (List.mem_cons_of_mem _ hw)) (plain w hw)
  | @composite op ls rs l r _ _ ihl ihr =>
    rw [Predicate.forall_operands_composite]
    refine ⟨ihl fun w hw => hws w ?_, ihr fun w hw => hws w ?_⟩
    · exact List.mem_cons_of_mem _ (List.mem_append_left rs hw)
    · exact List.mem_cons_of_mem _ (List.mem_append_right ls hw)

theorem parse_eq_some_iff {s : String} :
    parse s = .ok (some t) ↔ ∃ r, read s = .ok (some r) ∧ r.predicate = t := by
  rw [parse, bind_eq_ok_iff]
  constructor
  · rintro ⟨reading, hread, hmap⟩
    rw [pure_eq_ok, Except.ok.injEq, Option.map_eq_some_iff] at hmap
    obtain ⟨r, rfl, hr⟩ := hmap
    exact ⟨r, hread, hr⟩
  · rintro ⟨r, hread, rfl⟩
    exact ⟨some r, hread, rfl⟩

theorem parse_eq_none_iff {s : String} : parse s = .ok none ↔ words s = [] := by
  rw [← build_eq_none_iff, parse, read]
  rcases build (words s) with d | _ | r
  · exact iff_of_false (by rintro ⟨⟩) (by rintro ⟨⟩)
  · exact iff_of_true rfl rfl
  · exact iff_of_false (by rintro ⟨⟩) (by rintro ⟨⟩)

theorem expressible_of_parse {s : String} (h : parse s = .ok (some t)) : t.Expressible := by
  obtain ⟨r, hread, rfl⟩ := parse_eq_some_iff.mp h
  obtain ⟨hspells, -, hdepth⟩ := accepts_of_build hread
  refine ⟨hdepth, hspells.expressible fun w hw => ?_⟩
  exact isWord_of_mem_words (List.mem_of_mem_take hw)

theorem parse_render (h : t.Expressible) : parse t.render = .ok (some t) :=
  parse_eq_some_iff.mpr ⟨_, read_render h, rfl⟩

/-- A tree is read off its own text exactly if it is read off some text, and these trees are the
expressible ones. No words are left over, and what is read off the text has the same text again. -/
theorem parse_render_iff_expressible (t : Predicate) :
    (parse t.render = .ok (some t) ↔ t.Expressible) ∧
    ((∃ s, parse s = .ok (some t)) ↔ t.Expressible) ∧
    (t.Expressible → ∃ n, read t.render = .ok (some ⟨t, n, n⟩)) ∧
    (∀ s, parse s = .ok (some t) → parse t.render = .ok (some t) ∧
      (parse t.render).map (·.map Predicate.render) = .ok (some t.render)) := by
  refine ⟨⟨expressible_of_parse, parse_render⟩, ⟨?_, fun h => ⟨_, parse_render h⟩⟩,
    fun h => ⟨_, read_render h⟩, ?_⟩
  · rintro ⟨s, h⟩
    exact expressible_of_parse h
  · intro s h
    have hback := parse_render (expressible_of_parse h)
    refine ⟨hback, ?_⟩
    rw [hback]
    rfl

end Expression

end DiscountPolicy
