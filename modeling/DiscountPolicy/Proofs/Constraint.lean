import DiscountPolicy.Constraint
import DiscountPolicy.Proofs.Expression.RoundTrip
import DiscountPolicy.Proofs.Wire.RoundTrip

/-! Trees of typed constraints. What a constraint checks of its fields is what its operands need to
come back from data and from an expression, so trees of such constraints come back as they are. -/

namespace DiscountPolicy

/-- A finite number becomes an integer or stays what it is. -/
theorem Scalar.number_cases (x : FiniteDouble) :
    (∃ n, number (.finite x) = .integer n) ∨ number (.finite x) = .real (.finite x) := by
  have hnumber : number (.finite x) = x.toInt64?.elim (.real (.finite x)) .integer := rfl
  rw [hnumber]
  cases x.toInt64? with
  | none => exact .inr rfl
  | some n => exact .inl ⟨n, rfl⟩

theorem Operand.expressible_number (x : FiniteDouble) :
    (Operand.scalar (.number (.finite x))).Expressible := by
  rcases Scalar.number_cases x with ⟨n, h⟩ | h
  · rw [h]
    trivial
  · rw [h]
    exact ⟨x, rfl⟩

namespace Constraint

/-! ### The checks of fields -/

theorem isOneWord_iff {s : String} : isOneWord s = true ↔ Expression.IsWord s.toList := by
  have hclean : ∀ c : Char, (!(Text.isBlank c || c == ',' || c == '(' || c == ')')) = true ↔
      Expression.isSeparator c = false ∧ Expression.isParenthesis c = false := by
    intro c
    simp only [Expression.isSeparator, Expression.isParenthesis, Bool.not_eq_true',
      Bool.or_eq_false_iff, and_assoc]
  simp only [isOneWord, Expression.IsWord, Bool.and_eq_true, decide_eq_true_eq, List.all_eq_true,
    hclean]
  exact and_congr_left fun _ => not_congr String.toList_eq_nil_iff.symm

/-- A text is accepted as a word exactly if an expression can hold it as an operand. -/
theorem checkWord_eq_ok_iff {field : Field} {s : String} :
    checkWord field s = .ok () ↔ (Operand.scalar (.text s)).Expressible := by
  rw [Operand.Expressible, ← isOneWord_iff, checkWord]
  cases isOneWord s with
  | false => simp
  | true =>
    cases isKeyword s with
    | true => simp
    | false =>
      rcases Scalar.ofWord_cases s with ⟨n, h⟩ | ⟨x, h⟩ | h
      · simp [h]
      · simp [h]
      · simp [h]

theorem isOneWord_iff_words {s : String} : isOneWord s = true ↔ Expression.words s = [s] := by
  rw [isOneWord_iff]
  constructor
  · exact Expression.words_isWord
  · intro h
    apply Expression.isWord_of_mem_words (s := s)
    rw [h]
    exact List.mem_singleton_self s

/-- A text is accepted as a word exactly if it comes back from an expression as the one operand of a
leaf, under any tag. The test for one word passes exactly the texts that are read as the one word
that they are, and a character passes it exactly if some word of some expression holds it. -/
theorem checkWord_eq_ok_iff_parse (field : Field) (tag : Tag) (s : String) :
    (checkWord field s = .ok () ↔ Expression.parse ("(" ++ tag.name ++ " " ++ s ++ ")") =
      .ok (some (.leaf tag [.scalar (.text s)]))) ∧
    (isOneWord s = true ↔ Expression.words s = [s]) ∧
    (∀ c : Char, isOneWord (String.singleton c) = true ↔
      ∃ e, ∃ w ∈ Expression.words e, c ∈ w.toList) := by
  have hrender : (Predicate.leaf tag [.scalar (.text s)]).render =
      "(" ++ tag.name ++ " " ++ s ++ ")" := by
    simp [Predicate.render, Operand.render, Scalar.render, String.append_assoc]
  refine ⟨?_, isOneWord_iff_words, fun c => ?_⟩
  · rw [checkWord_eq_ok_iff, ← hrender]
    constructor
    · intro h
      have hdepth : (Predicate.leaf tag [.scalar (.text s)]).depth ≤ Expression.maxNesting + 1 := by
        simp [Predicate.depth]
      refine Expression.parse_render ⟨hdepth, Predicate.forall_operands_leaf.mpr ?_⟩
      simpa using h
    · intro h
      have hoperands := (Expression.expressible_of_parse h).operands
      exact Predicate.forall_operands_leaf.mp hoperands _ List.mem_cons_self
  · constructor
    · intro h
      refine ⟨String.singleton c, String.singleton c, ?_, by simp⟩
      rw [isOneWord_iff_words.mp h]
      exact List.mem_cons_self
    · rintro ⟨e, w, hw, hc⟩
      rw [isOneWord_iff, String.toList_singleton]
      refine ⟨by simp, ?_⟩
      rw [List.forall_mem_singleton]
      exact (Expression.isWord_of_mem_words hw).2 c hc

theorem checkId_eq_ok_iff {field : Field} {s : Scalar} :
    checkId field s = .ok () ↔
      (∃ n, s = .integer n) ∨ ∃ w, s = .text w ∧ (Operand.scalar (.text w)).Expressible := by
  cases s with
  | integer n => simp [checkId]
  | real x => simp [checkId]
  | text w => simp [checkId, checkWord_eq_ok_iff]

theorem expressible_of_checkId {field : Field} {s : Scalar} (h : checkId field s = .ok ()) :
    (Operand.scalar s).Expressible := by
  rcases checkId_eq_ok_iff.mp h with ⟨n, rfl⟩ | ⟨w, rfl, hw⟩
  · trivial
  · exact hw

theorem finite_of_checkBounds {min max : Double} (h : checkBounds min max = .ok ()) :
    ∃ x y, min = .finite x ∧ max = .finite y := by
  unfold checkBounds at h
  split at h
  · exact ⟨_, _, rfl, rfl⟩
  · cases h

theorem expressible_season {name : String} (h : name ∈ seasons) :
    (Operand.scalar (.text name)).Expressible := by
  refine (@checkWord_eq_ok_iff .age name).mp ?_
  revert name
  decide

/-! ### The operands of a constraint -/

theorem expressible_count (n : UInt32) : (count n).Expressible := trivial

/-- Apart from locations, the operands of a constraint whose fields pass can stand in an
expression. -/
theorem expressible_of_mem_operands {c : Constraint} (h : c.validate = .ok ())
    (htag : c.tag ≠ .location) : ∀ x ∈ c.operands, x.Expressible := by
  cases c with
  | age least => simp [operands, expressible_count]
  | time startHour startMinute endHour endMinute => simp [operands, expressible_count]
  | location l => exact absurd rfl htag
  | dayOfMonth first last => simp [operands, expressible_count]
  | dayOfWeek first last => simp [operands, expressible_count]
  | season name =>
    have hname : name ∈ seasons := by
      by_contra hnot
      simp [validate, hnot] at h
    simpa [operands] using expressible_season hname
  | holidaysOfCountry code =>
    rw [validate] at h
    split at h
    · cases h
    · simpa [operands] using checkWord_eq_ok_iff.mp h
  | basket measure min max storeId =>
    obtain ⟨⟨⟩, hbounds, hstore⟩ := bind_eq_ok_iff.mp h
    obtain ⟨x, y, rfl, rfl⟩ := finite_of_checkBounds hbounds
    simp [operands, Operand.expressible_number, expressible_of_checkId hstore]
  | product measure min max productId storeId =>
    obtain ⟨⟨⟩, hbounds, hids⟩ := bind_eq_ok_iff.mp h
    obtain ⟨⟨⟩, hproduct, hstore⟩ := bind_eq_ok_iff.mp hids
    obtain ⟨x, y, rfl, rfl⟩ := finite_of_checkBounds hbounds
    simp [operands, Operand.expressible_number, expressible_of_checkId hproduct,
      expressible_of_checkId hstore]
  | category measure min max categoryId =>
    obtain ⟨⟨⟩, hbounds, hcategory⟩ := bind_eq_ok_iff.mp h
    obtain ⟨x, y, rfl, rfl⟩ := finite_of_checkBounds hbounds
    simp [operands, Operand.expressible_number, expressible_of_checkId hcategory]

/-- Data holds the operands of a constraint whose fields pass. -/
theorem keptUnder_of_mem_operands {c : Constraint} (h : c.validate = .ok ()) :
    ∀ x ∈ c.operands, x.KeptUnder c.tag := by
  by_cases htag : c.tag = .location
  · cases c with
    | location l => simp [operands, tag, Operand.KeptUnder]
    | _ => cases htag
  · exact fun x hx => (expressible_of_mem_operands h htag x hx).keptUnder c.tag

theorem toPredicate_eq_ok_iff {c : Constraint} {t : Predicate} :
    c.toPredicate = .ok t ↔ c.validate = .ok () ∧ .leaf c.tag c.operands = t := by
  rw [toPredicate, bind_eq_ok_iff]
  constructor
  · rintro ⟨⟨⟩, hvalid, hleaf⟩
    exact ⟨hvalid, Except.ok.inj hleaf⟩
  · rintro ⟨hvalid, rfl⟩
    exact ⟨(), hvalid, rfl⟩

end Constraint

/-! ### Trees of constraints -/

namespace Predicate

/-- The trees that operators make of constraints whose fields pass. -/
inductive OfConstraints : Predicate → Prop
  | leaf {c : Constraint} {t : Predicate} (h : c.toPredicate = .ok t) : OfConstraints t
  | composite (op : Operator) {l r : Predicate} (left : OfConstraints l) (right : OfConstraints r) :
      OfConstraints (.composite op l r)

namespace OfConstraints

variable {t : Predicate}

theorem keptUnder (h : OfConstraints t) : ∀ e ∈ t.operands, e.2.KeptUnder e.1 := by
  induction h with
  | leaf h =>
    obtain ⟨hvalid, rfl⟩ := Constraint.toPredicate_eq_ok_iff.mp h
    exact forall_operands_leaf.mpr (Constraint.keptUnder_of_mem_operands hvalid)
  | composite op _ _ ihl ihr => exact forall_operands_composite.mpr ⟨ihl, ihr⟩

theorem expressible (h : OfConstraints t) :
    ∀ e ∈ t.operands, e.1 ≠ .location → e.2.Expressible := by
  induction h with
  | leaf h =>
    obtain ⟨hvalid, rfl⟩ := Constraint.toPredicate_eq_ok_iff.mp h
    refine forall_operands_leaf.mpr fun x hx htag => ?_
    exact Constraint.expressible_of_mem_operands hvalid htag x hx
  | composite op _ _ ihl ihr => exact forall_operands_composite.mpr ⟨ihl, ihr⟩

/-- Trees of constraints come back from data, and from their text as an expression if they hold no
location and are not too deep. No words of that text are left over. -/
theorem ofJson_toJson_and_parse_render (h : OfConstraints t) :
    ofJson t.toJson = .ok t ∧
    ((∀ e ∈ t.operands, e.1 ≠ .location) → t.depth ≤ Expression.maxNesting + 1 →
      Expression.parse t.render = .ok (some t) ∧
      ∃ n, Expression.read t.render = .ok (some ⟨t, n, n⟩)) := by
  refine ⟨ofJson_toJson_iff.mpr ⟨rfl, h.keptUnder⟩, fun hlocation hdepth => ?_⟩
  have hexpressible : t.Expressible :=
    ⟨hdepth, fun e he => h.expressible e he (hlocation e he)⟩
  exact ⟨Expression.parse_render hexpressible, _, Expression.read_render hexpressible⟩

/-- A bound of `2 ^ 63` stays a floating-point number, next to `0.5`, an identifier with a mark in
it and an integer. -/
theorem ofJson_toJson_and_parse_render_product :
    let half : FiniteDouble := { negative := false, rank := 0x3FE0000000000000 }
    let large : FiniteDouble := { negative := false, rank := 0x43E0000000000000 }
    let product : Predicate := .leaf (.bounds .weight .product) [.scalar (.real (.finite half)),
      .scalar (.real (.finite large)), .scalar (.text "sku-42"), .scalar (.integer 9)]
    let t : Predicate := .composite .and product (.leaf .season [.scalar (.text "fall")])
    OfConstraints t ∧ (∀ e ∈ t.operands, e.1 ≠ .location) ∧ t.depth ≤ Expression.maxNesting + 1 ∧
      ofJson t.toJson = .ok t ∧ Expression.parse t.render = .ok (some t) ∧
      ∃ n, Expression.read t.render = .ok (some ⟨t, n, n⟩) := by
  intro half large product t
  have hproduct : Constraint.toPredicate (.product .weight (.finite half) (.finite large)
      (.text "sku-42") (.integer 9)) = .ok product := by decide +kernel
  have hseason : Constraint.toPredicate (.season "fall") =
      .ok (.leaf .season [.scalar (.text "fall")]) := by decide
  have ht : OfConstraints t := .composite .and (.leaf hproduct) (.leaf hseason)
  have hlocation : ∀ e ∈ t.operands, e.1 ≠ .location := by decide
  have hdepth : t.depth ≤ Expression.maxNesting + 1 := by decide
  obtain ⟨hdata, htext⟩ := ht.ofJson_toJson_and_parse_render
  exact ⟨ht, hlocation, hdepth, hdata, htext hlocation hdepth⟩

end OfConstraints

end Predicate

end DiscountPolicy
