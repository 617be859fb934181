import DiscountPolicy.Proofs.Double.Nearest
import DiscountPolicy.Proofs.Wire.Defects
import DiscountPolicy.Proofs.Wire.RoundTrip

/-! The grammar of predicates as data. The decoder takes exactly the well-formed nodes, and encoding
what it made of a node gives the node in normal form. -/

namespace DiscountPolicy.Predicate

/-- The value is an operand under the tag: a number, a text or, where the tag takes locations, an
object that has a text or nothing under each key of a location. -/
inductive IsOperand (tag : Tag) : Json → Prop
  | number (n : Number) : IsOperand tag (.number n)
  | text (s : String) : IsOperand tag (.text s)
  | location (members : List (String × Json)) (takes : tag = .location)
      (texts : ∀ key ∈ Location.keys, ∀ v, Json.member? key members = some v → ∃ s, v = .text s) :
      IsOperand tag (.object members)

/-- The value is a node: an operator's name with two nodes, or a tag's name with operands. -/
inductive WellFormed : Json → Prop
  | composite (op : Operator) {l r : Json} (left : WellFormed l) (right : WellFormed r) :
      WellFormed (.array [.text op.name, l, r])
  | leaf (tag : Tag) {vs : List Json} (operands : ∀ v ∈ vs, IsOperand tag v) :
      WellFormed (.array (.text tag.name :: vs))

mutual

/-- The normal form of data: an object has exactly the keys of a location, with the empty text under
those that it lacks, and whole numbers that do not fit into 64 bits with a sign are rounded to the
nearest floating-point number. -/
def canonical : Json → Json
  | .array items => .array (canonicalItems items)
  | .object members =>
    .object (Location.keys.map fun key => (key, (Json.member? key members).getD (.text "")))
  | .number (.whole n fits) =>
    if n < 0x8000000000000000 then .number (.whole n fits)
    else .ofDouble (.ofRatio false n.toNat 1)
  | v => v

/-- The normal forms of values. -/
def canonicalItems : List Json → List Json
  | [] => []
  | v :: vs => canonical v :: canonicalItems vs

end

/-! ### Well-formed data has no defects -/

theorem misfit_eq_nil {members : List (String × Json)} {key : String}
    (h : ∀ v, Json.member? key members = some v → ∃ s, v = .text s) :
    Location.misfit members key = [] := by
  unfold Location.misfit
  cases hmember : Json.member? key members with
  | none => rfl
  | some v =>
    obtain ⟨s, rfl⟩ := h v hmember
    rfl

theorem IsOperand.defects_eq_nil {tag : Tag} {v : Json} (h : IsOperand tag v) :
    operandDefects tag v = [] := by
  cases h with
  | number n => rfl
  | text s => rfl
  | location members takes texts =>
    have hmisfits : Location.keys.flatMap (Location.misfit members) = [] :=
      List.flatMap_eq_nil_iff.mpr fun key hkey => misfit_eq_nil (texts key hkey)
    rw [operandDefects, if_pos takes, hmisfits]
    rfl

theorem WellFormed.defects_eq_nil {v : Json} (h : WellFormed v) : defects v = [] := by
  induction h with
  | composite op _ _ ihl ihr =>
    rw [defects, Operator.ofName?_name]
    simp [defectsOfParts, ihl, ihr]
  | leaf tag operands =>
    rw [defects, Operator.ofName?_tagName, Tag.ofName?_name]
    exact List.flatMap_eq_nil_iff.mpr fun v hv => (operands v hv).defects_eq_nil

/-! ### What is decoded -/

theorem field_eq_ok {members : List (String × Json)} {key s : String}
    (h : Location.field members key = .ok s) :
    (∀ v, Json.member? key members = some v → v = .text s) ∧
      (Json.member? key members).getD (.text "") = .text s := by
  unfold Location.field at h
  cases hmember : Json.member? key members with
  | none =>
    rw [hmember] at h
    rw [← Except.ok.inj h]
    exact ⟨fun _ hv => (nomatch hv), rfl⟩
  | some v =>
    rw [hmember] at h
    cases v with
    | text s' =>
      rw [← Except.ok.inj h]
      exact ⟨fun _ hv => (Option.some.inj hv).symm, rfl⟩
    | _ => cases h

theorem ofMembers_eq_ok {members : List (String × Json)} {l : Location}
    (h : Location.ofMembers members = .ok l) :
    IsOperand .location (.object members) ∧ l.toJson = canonical (.object members) := by
  obtain ⟨address, haddress, h1⟩ := bind_eq_ok_iff.mp h
  obtain ⟨city, hcity, h2⟩ := bind_eq_ok_iff.mp h1
  obtain ⟨country, hcountry, h3⟩ := bind_eq_ok_iff.mp h2
  obtain ⟨state, hstate, h4⟩ := bind_eq_ok_iff.mp h3
  obtain ⟨zipCode, hzipCode, h5⟩ := bind_eq_ok_iff.mp h4
  obtain rfl := Except.ok.inj h5
  obtain ⟨haddress, hvalue1⟩ := field_eq_ok haddress
  obtain ⟨hcity, hvalue2⟩ := field_eq_ok hcity
  obtain ⟨hcountry, hvalue3⟩ := field_eq_ok hcountry
  obtain ⟨hstate, hvalue4⟩ := field_eq_ok hstate
  obtain ⟨hzipCode, hvalue5⟩ := field_eq_ok hzipCode
  constructor
  · refine .location members rfl fun key hkey v hv => ?_
    simp only [Location.keys, List.mem_cons, List.not_mem_nil, or_false] at hkey
    rcases hkey with rfl | rfl | rfl | rfl | rfl
    · exact ⟨_, haddress v hv⟩
    · exact ⟨_, hcity v hv⟩
    · exact ⟨_, hcountry v hv⟩
    · exact ⟨_, hstate v hv⟩
    · exact ⟨_, hzipCode v hv⟩
  · simp only [Location.toJson, canonical, Location.keys, List.map_cons, List.map_nil, hvalue1,
      hvalue2, hvalue3, hvalue4, hvalue5]

/-- A whole number from `2 ^ 63` on becomes a floating-point number that is nearest to it. -/
theorem canonical_large {n : Int} (fits : FitsWord n) (h : ¬n < 0x8000000000000000) :
    ∃ x, Double.ofRatio false n.toNat 1 = .finite x ∧ x.IsNearest n.toNat ∧
      canonical (.number (.whole n fits)) = .number (.real x) := by
  obtain ⟨x, hx, hnearest⟩ := Double.exists_nearest (n := n.toNat) (k := 64) (by decide)
    (by have := fits.2; omega)
  refine ⟨x, hx, hnearest, ?_⟩
  rw [canonical, if_neg h, hx]
  rfl

theorem scalarOfNumber_spec (n : Number) :
    (scalarOfNumber n).toJson = canonical (.number n) ∧
      ∀ tag, (Operand.scalar (scalarOfNumber n)).KeptUnder tag := by
  cases n with
  | real x => exact ⟨rfl, fun _ => ⟨x, rfl⟩⟩
  | whole n fits =>
    by_cases h : n < 0x8000000000000000
    · have hword : int64? n = some (Int64.ofInt n) := by
        rw [int64?, if_pos ⟨fits.1, h⟩]
      have hback := toInt_of_int64? hword
      constructor
      · rw [canonical, if_pos h]
        simp only [scalarOfNumber, hword, Scalar.toJson, Json.ofInt64, hback]
      · intro tag
        simp only [scalarOfNumber, hword]
        trivial
    · obtain ⟨x, hx, -, hcanonical⟩ := canonical_large fits h
      have hword : int64? n = none := by
        rw [int64?, if_neg fun hn => h hn.2]
      rw [hcanonical]
      simp only [scalarOfNumber, hword, hx]
      exact ⟨rfl, fun _ => ⟨x, rfl⟩⟩

theorem decodeOperand_eq_ok {tag : Tag} {v : Json} {x : Operand}
    (h : decodeOperand tag v = .ok x) :
    IsOperand tag v ∧ x.encode Location.toJson = canonical v ∧ x.KeptUnder tag := by
  cases v with
  | number n =>
    obtain rfl := Except.ok.inj h
    obtain ⟨hcanonical, hkept⟩ := scalarOfNumber_spec n
    exact ⟨.number n, hcanonical, hkept tag⟩
  | text s =>
    obtain rfl := Except.ok.inj h
    exact ⟨.text s, rfl, trivial⟩
  | object members =>
    rw [decodeOperand] at h
    by_cases htag : tag = .location
    · subst htag
      rw [if_pos rfl] at h
      cases hl : Location.ofMembers members with
      | ok l =>
        rw [hl] at h
        obtain rfl := Except.ok.inj h
        obtain ⟨hoperand, hcanonical⟩ := ofMembers_eq_ok hl
        exact ⟨hoperand, hcanonical, rfl⟩
      | error v =>
        rw [hl] at h
        cases h
    · rw [if_neg htag] at h
      cases h
  | _ => cases h

theorem decodeOperands_eq_ok {tag : Tag} {vs : List Json} {xs : List Operand}
    (h : decodeOperands tag vs = .ok xs) :
    (∀ v ∈ vs, IsOperand tag v) ∧
      xs.map (Operand.encode Location.toJson) = canonicalItems vs ∧
      ∀ x ∈ xs, x.KeptUnder tag := by
  induction vs generalizing xs with
  | nil =>
    obtain rfl := Except.ok.inj h
    exact ⟨by simp, rfl, by simp⟩
  | cons v vs ih =>
    rw [decodeOperands_cons] at h
    obtain ⟨x, hx, hrest⟩ := bind_eq_ok_iff.mp h
    obtain ⟨xs', hxs, hresult⟩ := bind_eq_ok_iff.mp hrest
    obtain rfl := Except.ok.inj hresult
    obtain ⟨hoperand, hcanonical, hkept⟩ := decodeOperand_eq_ok hx
    obtain ⟨hoperands, hcanonicals, hkepts⟩ := ih hxs
    refine ⟨List.forall_mem_cons.mpr ⟨hoperand, hoperands⟩, ?_,
      List.forall_mem_cons.mpr ⟨hkept, hkepts⟩⟩
    rw [List.map_cons, canonicalItems, hcanonical, hcanonicals]

/-- What one step of the decoder does where it succeeds. -/
theorem ofJson_eq_ok {v : Json} {t : Predicate} (h : ofJson v = .ok t) :
    (∃ op l r left right, v = .array [.text (Operator.name op), l, r] ∧ ofJson l = .ok left ∧
      ofJson r = .ok right ∧ t = .composite op left right) ∨
    (∃ tag vs xs, v = .array (.text (Tag.name tag) :: vs) ∧ decodeOperands tag vs = .ok xs ∧
      t = .leaf tag xs) := by
  unfold ofJson at h
  split at h
  · cases h
  · next name rest =>
    split at h
    · next op hop =>
      obtain rfl := Operator.name_of_ofName? hop
      split at h
      · next l r =>
        obtain ⟨left, hleft, hrest⟩ := bind_eq_ok_iff.mp h
        obtain ⟨right, hright, hresult⟩ := bind_eq_ok_iff.mp hrest
        exact .inl ⟨op, l, r, left, right, rfl, hleft, hright, (Except.ok.inj hresult).symm⟩
      · cases h
    · split at h
      · next tag htag =>
        obtain rfl := Tag.name_of_ofName? htag
        obtain ⟨xs, hxs, hresult⟩ := bind_eq_ok_iff.mp h
        exact .inr ⟨tag, rest, xs, rfl, hxs, (Except.ok.inj hresult).symm⟩
      · cases h
  · cases h
  · cases h

/-- Data that is decoded is well-formed, the tree has its normal form as data, and data holds the
operands of the tree. -/
theorem wellFormed_of_ofJson {v : Json} {t : Predicate} (h : ofJson v = .ok t) :
    WellFormed v ∧ t.toJson = canonical v ∧ ∀ e ∈ t.operands, e.2.KeptUnder e.1 := by
  induction t generalizing v with
  | leaf tag xs =>
    rcases ofJson_eq_ok h with ⟨_, _, _, _, _, _, _, _, heq⟩ | ⟨_, vs, _, rfl, hxs, heq⟩
    · cases heq
    · cases heq
      obtain ⟨hoperands, hcanonical, hkept⟩ := decodeOperands_eq_ok hxs
      refine ⟨.leaf tag hoperands, ?_, forall_operands_leaf.mpr hkept⟩
      rw [toJson, encode, hcanonical]
      rfl
  | composite op left right ihl ihr =>
    rcases ofJson_eq_ok h with ⟨_, l, r, _, _, rfl, hl, hr, heq⟩ | ⟨_, _, _, _, _, heq⟩
    · cases heq
      obtain ⟨hleft, hcanonicalLeft, hkeptLeft⟩ := ihl hl
      obtain ⟨hright, hcanonicalRight, hkeptRight⟩ := ihr hr
      refine ⟨.composite op hleft hright, ?_, forall_operands_composite.mpr ⟨hkeptLeft, hkeptRight⟩⟩
      rw [toJson] at hcanonicalLeft hcanonicalRight
      rw [toJson, encode, hcanonicalLeft, hcanonicalRight]
      rfl
    · cases heq

/-- Exactly the well-formed data is decoded. The data of the decoded tree is the normal form of what
was decoded, and is decoded as the same tree again; whole numbers that the normal form rounds become
a nearest number. Of data that is not well-formed the first defect is reported. -/
theorem ofJson_iff_wellFormed (v : Json) :
    ((∃ t, ofJson v = .ok t) ↔ WellFormed v) ∧
    (∀ t, ofJson v = .ok t → t.toJson = canonical v ∧ ofJson t.toJson = .ok t) ∧
    (∀ n fits, 0x8000000000000000 ≤ n →
      ∃ x, canonical (.number (.whole n fits)) = .number (.real x) ∧ x.IsNearest n.toNat) ∧
    (∀ d, ofJson v = .error d ↔ (defects v).head? = some d) ∧
    (¬WellFormed v → ∃ d, ofJson v = .error d ∧
      (Failure.encoding d).kind = .invalidPredicate) := by
  have hiff : (∃ t, ofJson v = .ok t) ↔ WellFormed v := by
    constructor
    · rintro ⟨t, h⟩
      exact (wellFormed_of_ofJson h).1
    · intro h
      exact (firstOf_defects v).exists_ok_iff.mpr h.defects_eq_nil
  refine ⟨hiff, ?_, ?_, fun d => (firstOf_defects v).eq_error_iff, ?_⟩
  · intro t h
    obtain ⟨-, hcanonical, hkept⟩ := wellFormed_of_ofJson h
    exact ⟨hcanonical, ofJson_toJson_iff.mpr ⟨rfl, hkept⟩⟩
  · intro n fits hn
    obtain ⟨x, -, hnearest, hcanonical⟩ := canonical_large fits (Int.not_lt.mpr hn)
    exact ⟨x, hcanonical, hnearest⟩
  · intro hill
    rcases ok_or_error (ofJson v) with hok | ⟨d, herror⟩
    · exact absurd (hiff.mp hok) hill
    · exact ⟨d, herror, rfl⟩

end DiscountPolicy.Predicate
