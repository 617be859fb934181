import DiscountPolicy.Proofs.Expression.RoundTrip
import DiscountPolicy.Proofs.Session.Access
import Mathlib.Data.List.Forall2

/-! The value of a script that data is: arrays are lists and objects are dictionaries. A predicate is
shown to scripts as the image of the data that it is sent as, and so are the predicates of
expressions, whatever was called before. -/

namespace DiscountPolicy

/-! ### Images of data -/

namespace Json

mutual

/-- The value of a script that data is. -/
def image : Json → Value
  | .null => .nothing
  | .bool b => .bool b
  | .number (.whole n _) => .integer n
  | .number (.real x) => .real (.finite x)
  | .text s => .text s
  | .array items => .list (imageItems items)
  | .object members => .dict (imageMembers members)

def imageItems : List Json → List Value
  | [] => []
  | v :: vs => v.image :: imageItems vs

def imageMembers : List (String × Json) → List (String × Value)
  | [] => []
  | (key, v) :: members => (key, v.image) :: imageMembers members

end

theorem imageItems_eq_map (vs : List Json) : imageItems vs = vs.map image := by
  induction vs with
  | nil => rfl
  | cons v vs ih => rw [imageItems, ih, List.map_cons]

end Json

/-! ### Values that scripts cannot tell apart -/

namespace Value

/-- The values are equal, apart from the order of the entries of dictionaries. -/
inductive Same : Value → Value → Prop
  | refl (v : Value) : Same v v
  | list {vs ws : List Value} : List.Forall₂ Same vs ws → Same (.list vs) (.list ws)
  | dict {es fs : List (String × Value)} : es.Perm fs → Same (.dict es) (.dict fs)

theorem same_list_iff {vs ws : List Value} :
    Same (.list vs) (.list ws) ↔ List.Forall₂ Same vs ws := by
  constructor
  · intro h
    cases h with
    | refl => exact List.forall₂_same.mpr fun v _ => .refl v
    | list h => exact h
  · exact .list

theorem eq_list_iff {vs ws : List Value} : Value.list vs = .list ws ↔ List.Forall₂ Eq vs ws := by
  rw [List.forall₂_eq_eq_eq, Value.list.injEq]

end Value

/-! ### Predicates -/

/-- The operand is no floating-point number without a finite value. -/
def Operand.Finite : Operand → Prop
  | .scalar (.real x) => ∃ y, x = .finite y
  | _ => True

theorem Operand.toValue_eq_image_payload_iff {x : Operand} :
    x.toValue = (x.encode Location.payload).image ↔ x.Finite := by
  match x with
  | .scalar (.integer n) => exact iff_of_true rfl trivial
  | .scalar (.real (.finite y)) => exact iff_of_true rfl ⟨y, rfl⟩
  | .scalar (.real (.infinite negative)) =>
    exact iff_of_false (by rintro ⟨⟩) (by rintro ⟨y, ⟨⟩⟩)
  | .scalar (.real .nan) => exact iff_of_false (by rintro ⟨⟩) (by rintro ⟨y, ⟨⟩⟩)
  | .scalar (.text s) => exact iff_of_true rfl trivial
  | .location l => exact iff_of_true rfl trivial

theorem Location.toValue_same_image_toJson (l : Location) : l.toValue.Same l.toJson.image :=
  .dict (.cons _ (.cons _ (.swap _ _ _)))

theorem Operand.toValue_same_image_toJson_iff {x : Operand} :
    x.toValue.Same (x.encode Location.toJson).image ↔ x.Finite := by
  match x with
  | .scalar (.integer n) => exact iff_of_true (.refl _) trivial
  | .scalar (.real (.finite y)) => exact iff_of_true (.refl _) ⟨y, rfl⟩
  | .scalar (.real (.infinite negative)) =>
    exact iff_of_false (by rintro ⟨⟩) (by rintro ⟨y, ⟨⟩⟩)
  | .scalar (.real .nan) => exact iff_of_false (by rintro ⟨⟩) (by rintro ⟨y, ⟨⟩⟩)
  | .scalar (.text s) => exact iff_of_true (.refl _) trivial
  | .location l => exact iff_of_true l.toValue_same_image_toJson trivial

namespace Predicate

/-- A predicate is shown as the image of its data if each of its operands is, for every equality of
values that looks at the items of lists one by one. -/
theorem toValue_image_encode_iff {R : Value → Value → Prop} (htext : ∀ s, R (.text s) (.text s))
    (hlist : ∀ {vs ws}, R (.list vs) (.list ws) ↔ List.Forall₂ R vs ws)
    {location : Location → Json} {t : Predicate} :
    R t.toValue (t.encode location).image ↔
      ∀ e ∈ t.operands, R e.2.toValue (e.2.encode location).image := by
  induction t with
  | leaf tag xs =>
    rw [forall_operands_leaf, toValue, encode, Json.image, Json.imageItems, Json.image,
      Json.imageItems_eq_map, List.map_map, hlist, List.forall₂_cons, List.forall₂_map_left_iff,
      List.forall₂_map_right_iff, List.forall₂_same]
    exact and_iff_right (htext _)
  | composite op l r ihl ihr =>
    rw [forall_operands_composite, toValue, encode, Json.image, Json.imageItems_eq_map, hlist]
    simp only [List.map_cons, List.map_nil, List.forall₂_cons, List.forall₂_nil_right_iff, ihl, ihr,
      Json.image, htext, true_and, and_true]

/-- The numbers among the operands are finite. -/
def Finite (t : Predicate) : Prop := ∀ e ∈ t.operands, e.2.Finite

theorem toValue_eq_image_payload_iff {t : Predicate} : t.toValue = t.payload.image ↔ t.Finite := by
  rw [payload, toValue_image_encode_iff (fun _ => rfl) Value.eq_list_iff]
  exact forall₂_congr fun _ _ => Operand.toValue_eq_image_payload_iff

theorem toValue_same_image_toJson_iff {t : Predicate} :
    t.toValue.Same t.toJson.image ↔ t.Finite := by
  rw [toJson, toValue_image_encode_iff (fun _ => .refl _) Value.same_list_iff]
  exact forall₂_congr fun _ _ => Operand.toValue_same_image_toJson_iff

/-- The predicate of an expression has no locations, whose entries would be in another order. -/
theorem Expressible.toValue_eq_image_toJson {t : Predicate} (h : t.Expressible) :
    t.toValue = t.toJson.image := by
  rw [toJson, toValue_image_encode_iff (fun _ => rfl) Value.eq_list_iff]
  intro e he
  match e.2, h.operands e he with
  | .scalar (.integer n), _ => rfl
  | .scalar (.real x), hx =>
    obtain ⟨y, rfl⟩ := hx
    rfl
  | .scalar (.text s), _ => rfl

end Predicate

/-! ### Calls -/

namespace Session

variable {e : String}

theorem shown_eq_ok_iff {value : Predicate → Value} {v : Value} :
    shown value e = .ok v ↔ (Expression.words e = [] ∧ v = .nothing) ∨
      ∃ t, Expression.parse e = .ok (some t) ∧ v = value t := by
  rw [shown, ← Expression.parse_eq_none_iff]
  rcases Expression.parse e with d | _ | t
  · simp
  · simp [optional, eq_comm]
  · simp [optional, eq_comm]

theorem shown_eq_error_iff {value : Predicate → Value} {f : Fault} :
    shown value e = .error f ↔
      ∃ d, Expression.parse e = .error d ∧ f = .failed (.expression d) := by
  rw [shown]
  cases Expression.parse e with
  | error d => simp [eq_comm]
  | ok t => simp

/-- The result of a call of a function with one text, after other calls. -/
def resultAfter (calls : List Call) (command : Command) (e : String) (backend : Backend) :
    Except Fault Value :=
  ((run calls).perform ⟨command, [.text e], backend⟩).result

theorem resultAfter_parse (calls : List Call) (e : String) (backend : Backend) :
    resultAfter calls .parse e backend = shown Predicate.toValue e :=
  result_showParsed (holds_run calls).sound Predicate.toValue e

theorem resultAfter_render (calls : List Call) (e : String) (backend : Backend) :
    resultAfter calls .render e backend = shown (fun t => .text t.render) e :=
  result_showParsed (holds_run calls).sound (fun t => .text t.render) e

/-- A predicate is shown as the image of the data that it is sent as, and up to the order of entries
as the image of its data in normal form, exactly if its numbers are finite. So after any calls an
expression is shown as the image of its predicate's data, as nothing if it has no words, and as the
failure of its parsing otherwise. The text that an expression is written as is shown as the
expression is, and is written as itself. -/
theorem parse_shows_image_of_data :
    (∀ t : Predicate, (t.toValue = t.payload.image ↔ t.Finite) ∧
      (t.toValue.Same t.toJson.image ↔ t.Finite)) ∧
    ∀ calls e backend,
      (∀ v, resultAfter calls .parse e backend = .ok v ↔
        (Expression.words e = [] ∧ v = .nothing) ∨
        ∃ t, Expression.parse e = .ok (some t) ∧ v = t.toJson.image) ∧
      (resultAfter calls .parse e backend = .ok .nothing ↔ Expression.words e = []) ∧
      (∀ f, resultAfter calls .parse e backend = .error f ↔
        ∃ d, Expression.parse e = .error d ∧ f = .failed (.expression d)) ∧
      (∀ r, resultAfter calls .render e backend = .ok (.text r) ↔
        ∃ t, Expression.parse e = .ok (some t) ∧ r = t.render) ∧
      ∀ r, resultAfter calls .render e backend = .ok (.text r) → ∀ laterCalls laterBackend,
        resultAfter laterCalls .parse r laterBackend = resultAfter calls .parse e backend ∧
        resultAfter laterCalls .render r laterBackend = .ok (.text r) := by
  refine ⟨fun t => ⟨t.toValue_eq_image_payload_iff, t.toValue_same_image_toJson_iff⟩, ?_⟩
  intro calls e backend
  simp only [resultAfter_parse, resultAfter_render]
  refine ⟨fun v => ?_, ?_, fun f => shown_eq_error_iff, fun r => ?_, fun r hr _ _ => ?_⟩
  · rw [shown_eq_ok_iff]
    refine or_congr_right (exists_congr fun t => and_congr_right fun hparse => ?_)
    rw [(Expression.expressible_of_parse hparse).toValue_eq_image_toJson]
  · rw [shown_eq_ok_iff]
    constructor
    · rintro (⟨hwords, -⟩ | ⟨t, -, ht⟩)
      · exact hwords
      · cases t <;> cases ht
    · exact fun hwords => .inl ⟨hwords, rfl⟩
  · simp [shown_eq_ok_iff]
  · rcases shown_eq_ok_iff.mp hr with ⟨-, hnothing⟩ | ⟨t, hparse, htext⟩
    · cases hnothing
    · obtain rfl := Value.text.inj htext
      have hagain := Expression.parse_render (Expression.expressible_of_parse hparse)
      simp only [shown, hparse, hagain, optional, and_self]

end Session

end DiscountPolicy
