import DiscountPolicy.Failure
import DiscountPolicy.Predicate.Wire
import DiscountPolicy.Proofs.Expression.Operand
import DiscountPolicy.Proofs.Name
import DiscountPolicy.Proofs.Outcome
import DiscountPolicy.Proofs.Predicate

/-! Predicates as data and back. Decoding what a tree was encoded as gives that tree or a failure,
and never another tree: it fails exactly if data cannot hold an operand, which is so for numbers
that are not finite and for locations outside leaves that take locations. -/

namespace DiscountPolicy

namespace Operand

/-- The operands that data holds under a tag. -/
def KeptUnder (tag : Tag) : Operand → Prop
  | .scalar (.integer _) => True
  | .scalar (.real x) => ∃ y, x = .finite y
  | .scalar (.text _) => True
  | .location _ => tag = .location

theorem Expressible.keptUnder {x : Operand} (h : x.Expressible) (tag : Tag) :
    x.KeptUnder tag := by
  match x, h with
  | .scalar (.integer _), _ => trivial
  | .scalar (.real _), h => exact h
  | .scalar (.text _), _ => trivial

end Operand

namespace Predicate

/-! ### One step of the decoder -/

theorem ofJson_tag (tag : Tag) (rest : List Json) :
    ofJson (.array (.text tag.name :: rest)) =
      (decodeOperands tag rest >>= fun xs => .ok (.leaf tag xs)) := by
  rw [ofJson, Operator.ofName?_tagName, Tag.ofName?_name]
  rfl

theorem ofJson_operator (op : Operator) (l r : Json) :
    ofJson (.array [.text op.name, l, r]) =
      (ofJson l >>= fun left => ofJson r >>= fun right => .ok (.composite op left right)) := by
  rw [ofJson, Operator.ofName?_name]
  rfl

theorem decodeOperands_cons (tag : Tag) (v : Json) (vs : List Json) :
    decodeOperands tag (v :: vs) =
      (decodeOperand tag v >>= fun x => decodeOperands tag vs >>= fun xs => .ok (x :: xs)) := rfl

/-! ### Encoding and decoding -/

theorem scalarOfNumber_int64 (n : Int64) (fits : FitsWord n.toInt) :
    scalarOfNumber (.whole n.toInt fits) = .integer n := by
  simp only [scalarOfNumber, int64?_toInt]

theorem ofMembers_toJson (l : Location) :
    Location.ofMembers [("address", .text l.address), ("city", .text l.city),
      ("country", .text l.country), ("state", .text l.state), ("zip_code", .text l.zipCode)] =
        .ok l := by
  rfl

theorem decodeOperand_encode_iff {tag : Tag} {x y : Operand} :
    decodeOperand tag (x.encode Location.toJson) = .ok y ↔ y = x ∧ x.KeptUnder tag := by
  match x with
  | .scalar (.integer n) =>
    rw [Operand.encode, Scalar.toJson, Json.ofInt64, decodeOperand, scalarOfNumber_int64]
    simp [Operand.KeptUnder, eq_comm]
  | .scalar (.text s) => simp [Operand.encode, Scalar.toJson, decodeOperand, Operand.KeptUnder, eq_comm]
  | .scalar (.real (.finite z)) =>
    simp [Operand.encode, Scalar.toJson, Json.ofDouble, decodeOperand, scalarOfNumber,
      Operand.KeptUnder, eq_comm]
  | .scalar (.real (.infinite _)) | .scalar (.real .nan) =>
    simp [Operand.encode, Scalar.toJson, Json.ofDouble, decodeOperand, Operand.KeptUnder]
  | .location l =>
    rw [Operand.encode, Location.toJson, decodeOperand]
    by_cases h : tag = .location
    · rw [if_pos h, ofMembers_toJson]
      simp [Operand.KeptUnder, h, eq_comm]
    · rw [if_neg h]
      simp [Operand.KeptUnder, h]

theorem decodeOperands_encode_iff {tag : Tag} {xs ys : List Operand} :
    decodeOperands tag (xs.map (Operand.encode Location.toJson)) = .ok ys ↔
      ys = xs ∧ ∀ x ∈ xs, x.KeptUnder tag := by
  induction xs generalizing ys with
  | nil => simp [decodeOperands, eq_comm]
  | cons x xs ih =>
    rw [List.map_cons, decodeOperands_cons, List.forall_mem_cons]
    constructor
    · intro h
      obtain ⟨y, hy, hrest⟩ := bind_eq_ok_iff.mp h
      obtain ⟨ys', hys, hresult⟩ := bind_eq_ok_iff.mp hrest
      obtain ⟨rfl, hx⟩ := decodeOperand_encode_iff.mp hy
      obtain ⟨rfl, hxs⟩ := ih.mp hys
      exact ⟨(Except.ok.inj hresult).symm, hx, hxs⟩
    · rintro ⟨rfl, hx, hxs⟩
      rw [decodeOperand_encode_iff.mpr ⟨rfl, hx⟩, ok_bind, ih.mpr ⟨rfl, hxs⟩]
      rfl

/-- What the data of a tree is decoded as is that tree. -/
theorem ofJson_toJson_iff {t u : Predicate} :
    ofJson t.toJson = .ok u ↔ u = t ∧ ∀ e ∈ t.operands, e.2.KeptUnder e.1 := by
  induction t generalizing u with
  | leaf tag xs =>
    rw [toJson, encode, ofJson_tag, forall_operands_leaf]
    constructor
    · intro h
      obtain ⟨ys, hys, hresult⟩ := bind_eq_ok_iff.mp h
      obtain ⟨rfl, hxs⟩ := decodeOperands_encode_iff.mp hys
      exact ⟨(Except.ok.inj hresult).symm, hxs⟩
    · rintro ⟨rfl, hxs⟩
      rw [decodeOperands_encode_iff.mpr ⟨rfl, hxs⟩]
      rfl
  | composite op l r ihl ihr =>
    rw [toJson, encode, ofJson_operator, forall_operands_composite]
    constructor
    · intro h
      obtain ⟨left, hleft, hrest⟩ := bind_eq_ok_iff.mp h
      obtain ⟨right, hright, hresult⟩ := bind_eq_ok_iff.mp hrest
      obtain ⟨rfl, hl⟩ := ihl.mp hleft
      obtain ⟨rfl, hr⟩ := ihr.mp hright
      exact ⟨(Except.ok.inj hresult).symm, hl, hr⟩
    · rintro ⟨rfl, hl, hr⟩
      have hleft := ihl.mpr ⟨rfl, hl⟩
      have hright := ihr.mpr ⟨rfl, hr⟩
      rw [toJson] at hleft hright
      rw [hleft, ok_bind, hright]
      rfl

/-- Decoding undoes encoding exactly on the trees whose operands data holds. On all others it fails,
as an invalid predicate, and on none it gives another tree. A scalar that data holds comes back as
the scalar it was, whatever the tag and whatever number or name its text looks like. -/
theorem ofJson_toJson (t : Predicate) :
    (ofJson t.toJson = .ok t ↔ ∀ e ∈ t.operands, e.2.KeptUnder e.1) ∧
    ((¬∀ e ∈ t.operands, e.2.KeptUnder e.1) →
      ∃ d, ofJson t.toJson = .error d ∧ (Failure.encoding d).kind = .invalidPredicate) ∧
    (∀ u, ofJson t.toJson = .ok u → u = t) ∧
    (∀ tag s, Operand.KeptUnder tag (.scalar s) →
      decodeOperand tag s.toJson = .ok (.scalar s)) := by
  refine ⟨⟨fun h => (ofJson_toJson_iff.mp h).2, fun h => ofJson_toJson_iff.mpr ⟨rfl, h⟩⟩, ?_,
    fun u h => (ofJson_toJson_iff.mp h).1,
    fun tag s h => decodeOperand_encode_iff.mpr ⟨rfl, h⟩⟩
  intro hlost
  rcases ok_or_error (ofJson t.toJson) with ⟨u, hok⟩ | ⟨d, herror⟩
  · exact absurd (ofJson_toJson_iff.mp hok).2 hlost
  · exact ⟨d, herror, rfl⟩

end Predicate

end DiscountPolicy
