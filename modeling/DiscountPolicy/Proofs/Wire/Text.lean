import DiscountPolicy.Predicate.Wire
import DiscountPolicy.Proofs.Json.Text
import DiscountPolicy.Proofs.Predicate

/-! Predicates as text. Both forms of a predicate, the one that is sent and the one in normal form,
are read back from their texts as the form in normal form. -/

namespace DiscountPolicy

variable {location : Location → Json}

/-! ### Normal form -/

namespace Location

theorem normal_payload (l : Location) : l.payload.normal = l.toJson := rfl

theorem normal_toJson (l : Location) : l.toJson.normal = l.toJson := rfl

end Location

namespace Operand

theorem normal_encode (hlocation : ∀ l, (location l).normal = l.toJson) (x : Operand) :
    (x.encode location).normal = x.encode Location.toJson := by
  match x with
  | .scalar (.integer n) => rfl
  | .scalar (.real x) => cases x <;> rfl
  | .scalar (.text s) => rfl
  | .location l => exact hlocation l

theorem normalItems_map_encode (hlocation : ∀ l, (location l).normal = l.toJson)
    (xs : List Operand) :
    Json.normalItems (xs.map (encode location)) = xs.map (encode Location.toJson) := by
  induction xs with
  | nil => rfl
  | cons x xs ih => rw [List.map_cons, List.map_cons, Json.normalItems, normal_encode hlocation, ih]

end Operand

namespace Predicate

theorem normal_encode (hlocation : ∀ l, (location l).normal = l.toJson) (t : Predicate) :
    (t.encode location).normal = t.toJson := by
  rw [toJson]
  induction t with
  | leaf tag xs =>
    rw [encode, encode, Json.normal, Json.normalItems, Operand.normalItems_map_encode hlocation]
    rfl
  | composite op l r ihl ihr =>
    rw [encode, encode, Json.normal, Json.normalItems, Json.normalItems, Json.normalItems, ihl, ihr]
    rfl

end Predicate

/-! ### Numbers -/

/-- The finite floating-point number that the operand is, if it is one. -/
def Operand.real? : Operand → Option FiniteDouble
  | .scalar (.real (.finite x)) => some x
  | _ => none

/-- The floating-point numbers among the operands are read back from their texts. -/
def Predicate.RealsKept (t : Predicate) : Prop :=
  ∀ e ∈ t.operands, ∀ x ∈ e.2.real?, Number.Kept (.real x)

instance (t : Predicate) : Decidable t.RealsKept :=
  inferInstanceAs (Decidable (∀ e ∈ t.operands, ∀ x ∈ e.2.real?, Number.Kept (.real x)))

theorem Location.kept_payload (l : Location) : l.payload.Kept :=
  Json.kept_object (by simp [members, Json.kept_text])

theorem Location.kept_toJson (l : Location) : l.toJson.Kept :=
  Json.kept_object (by simp [Json.kept_text])

theorem Operand.kept_encode (hlocation : ∀ l, (location l).Kept) {x : Operand}
    (h : ∀ y ∈ x.real?, Number.Kept (.real y)) : (x.encode location).Kept := by
  match x with
  | .scalar (.integer n) => exact Json.kept_ofInt64 n
  | .scalar (.real x) => exact Json.kept_ofDouble fun y hy => h y (by rw [hy]; rfl)
  | .scalar (.text s) => exact Json.kept_text s
  | .location l => exact hlocation l

theorem Predicate.kept_encode (hlocation : ∀ l, (location l).Kept) {t : Predicate}
    (h : t.RealsKept) : (t.encode location).Kept := by
  induction t with
  | leaf tag xs =>
    rw [RealsKept, forall_operands_leaf] at h
    refine Json.kept_array (List.forall_mem_cons.mpr ⟨Json.kept_text _, fun v hv => ?_⟩)
    obtain ⟨x, hx, rfl⟩ := List.mem_map.mp hv
    exact Operand.kept_encode hlocation (h x hx)
  | composite op l r ihl ihr =>
    obtain ⟨hl, hr⟩ := forall_operands_composite.mp h
    exact Json.kept_array (by simp [Json.kept_text, ihl hl, ihr hr])

/-! ### Nesting -/

namespace Operand

theorem nesting_encode_le (hlocation : ∀ l, (location l).nesting = 1) (x : Operand) :
    (x.encode location).nesting ≤ 1 := by
  match x with
  | .scalar (.integer n) => simp [encode, Scalar.toJson, Json.ofInt64, Json.nesting]
  | .scalar (.real x) => cases x <;> simp [encode, Scalar.toJson, Json.ofDouble, Json.nesting]
  | .scalar (.text s) => simp [encode, Scalar.toJson, Json.nesting]
  | .location l => exact (hlocation l).le

end Operand

namespace Predicate

theorem nesting_encode_le (hlocation : ∀ l, (location l).nesting = 1) (t : Predicate) :
    (t.encode location).nesting ≤ t.depth + 1 := by
  induction t with
  | leaf tag xs =>
    have hitems : Json.nestingOfItems (xs.map (Operand.encode location)) ≤ 1 := by
      induction xs with
      | nil => simp [Json.nestingOfItems]
      | cons x xs ih =>
        have hx := Operand.nesting_encode_le hlocation x
        rw [List.map_cons, Json.nestingOfItems]
        omega
    simp only [encode, Json.nesting, Json.nestingOfItems, depth]
    omega
  | composite op l r ihl ihr =>
    simp only [encode, Json.nesting, Json.nestingOfItems, depth]
    omega

theorem nesting_encode {f g : Location → Json} (hf : ∀ l, (f l).nesting = (g l).nesting)
    (t : Predicate) : (t.encode f).nesting = (t.encode g).nesting := by
  induction t with
  | leaf tag xs =>
    have hitems : Json.nestingOfItems (xs.map (Operand.encode f)) =
        Json.nestingOfItems (xs.map (Operand.encode g)) := by
      induction xs with
      | nil => rfl
      | cons x xs ih =>
        have hx : (x.encode f).nesting = (x.encode g).nesting := by
          cases x with
          | scalar s => rfl
          | location l => exact hf l
        rw [List.map_cons, List.map_cons, Json.nestingOfItems, Json.nestingOfItems, hx, ih]
    simp only [encode, Json.nesting, Json.nestingOfItems, hitems]
  | composite op l r ihl ihr =>
    simp only [encode, Json.nesting, Json.nestingOfItems, ihl, ihr]

/-- The text nests one level deeper than the tree at most: only locations are objects. -/
theorem nesting_payload_le (t : Predicate) : t.payload.nesting ≤ t.depth + 1 :=
  nesting_encode_le (fun _ => rfl) t

/-! ### Reading -/

variable {t : Predicate}

theorem ofText?_render_payload (h : t.RealsKept) (hnest : t.payload.nesting ≤ Json.maxOpen) :
    Json.ofText? t.payload.render = some t.toJson := by
  have hkept : t.payload.Kept := kept_encode Location.kept_payload h
  have hnormal : t.payload.normal = t.toJson := normal_encode Location.normal_payload t
  rw [Json.ofText?_render hkept hnest, hnormal]

theorem ofText?_render_toJson (h : t.RealsKept) (hnest : t.payload.nesting ≤ Json.maxOpen) :
    Json.ofText? t.toJson.render = some t.toJson := by
  have hkept : t.toJson.Kept := kept_encode Location.kept_toJson h
  have hnormal : t.toJson.normal = t.toJson := normal_encode Location.normal_toJson t
  have hlocation (l : Location) : l.payload.nesting = l.toJson.nesting := rfl
  have hsame : t.payload.nesting = t.toJson.nesting := nesting_encode hlocation t
  rw [Json.ofText?_render hkept (hsame ▸ hnest), hnormal]

end Predicate

end DiscountPolicy
