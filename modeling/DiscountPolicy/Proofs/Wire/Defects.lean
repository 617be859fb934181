import DiscountPolicy.Predicate.Wire
import DiscountPolicy.Proofs.Outcome

/-! The defects of data that is to be a predicate, in the order in which a reader meets them: a
node's own before those of its parts, the left part's before the right one's, and those of operands
from left to right. Decoding reports the first of them, and it succeeds where there are none. -/

namespace DiscountPolicy

namespace Location

/-- The keys of a location in increasing order. -/
def keys : List String := ["address", "city", "country", "state", "zip_code"]

/-- The value under the key, if it is no text. -/
def misfit (members : List (String × Json)) (key : String) : List Json :=
  match Json.member? key members with
  | none => []
  | some (.text _) => []
  | some v => [v]

theorem firstOf_misfit (members : List (String × Json)) (key : String) :
    FirstOf (misfit members key) (field members key) := by
  unfold misfit field
  cases Json.member? key members with
  | none => rfl
  | some v =>
    cases v with
    | _ => rfl

/-- A location reports its misfits in the order of the keys. -/
theorem firstOf_misfits (members : List (String × Json)) :
    FirstOf (keys.flatMap (misfit members)) (ofMembers members) := by
  refine (firstOf_misfit members "address").bind fun _ _ => ?_
  refine (firstOf_misfit members "city").bind fun _ _ => ?_
  refine (firstOf_misfit members "country").bind fun _ _ => ?_
  refine (firstOf_misfit members "state").bind fun _ _ => ?_
  exact (firstOf_misfit members "zip_code").bind fun _ _ => rfl

end Location

namespace Predicate

/-- The defects of an operand under a tag. -/
def operandDefects (tag : Tag) : Json → List Defect
  | .number _ => []
  | .text _ => []
  | .object members =>
    if tag = .location then
      (Location.keys.flatMap (Location.misfit members)).map (.malformedLocation members)
    else [.unsupportedOperand tag (.object members)]
  | v => [.unsupportedOperand tag v]

mutual

/-- The defects of a node. The parts of an operator are looked at in any case. -/
def defects : Json → List Defect
  | .array [] => [.emptyNode]
  | .array (.text name :: rest) =>
    match Operator.ofName? name with
    | some op =>
      (if rest.length = 2 then [] else [.wrongArity op rest.length]) ++ defectsOfParts rest
    | none =>
      match Tag.ofName? name with
      | some tag => rest.flatMap (operandDefects tag)
      | none => [.unknownTag name]
  | .array (v :: _) => [.tagNotText v]
  | v => [.notArray v]

/-- The defects of nodes, one node after another. -/
def defectsOfParts : List Json → List Defect
  | [] => []
  | v :: vs => defects v ++ defectsOfParts vs

end

theorem firstOf_operandDefects (tag : Tag) (v : Json) :
    FirstOf (operandDefects tag v) (decodeOperand tag v) := by
  cases v with
  | object members =>
    rw [operandDefects, decodeOperand]
    by_cases h : tag = .location
    · rw [if_pos h, if_pos h]
      have hfirst := Location.firstOf_misfits members
      generalize Location.keys.flatMap (Location.misfit members) = misfits at hfirst ⊢
      split
      · next l hl =>
        rw [hl] at hfirst
        rw [show misfits = [] from hfirst]
        rfl
      · next value hvalue =>
        rw [hvalue] at hfirst
        rw [FirstOf, List.head?_map, show misfits.head? = some value from hfirst]
        rfl
    · rw [if_neg h, if_neg h]
      rfl
  | _ => rfl

theorem firstOf_operandsDefects (tag : Tag) (vs : List Json) :
    FirstOf (vs.flatMap (operandDefects tag)) (decodeOperands tag vs) := by
  induction vs with
  | nil => rfl
  | cons v vs ih =>
    rw [List.flatMap_cons]
    exact (firstOf_operandDefects tag v).bind fun x _ => ih.bind_ok (x :: ·)

/-- Decoding reports the first defect, and gives a tree if there is none. -/
theorem firstOf_defects (v : Json) : FirstOf (defects v) (ofJson v) := by
  induction v using ofJson.induct with
  | case1 => rfl
  | case2 name op hop l r ihl ihr =>
    rw [defects, ofJson, hop]
    exact ihl.bind fun _ _ => ihr.bind fun _ _ => rfl
  | case3 name rest op hop hrest =>
    have hlength : rest.length ≠ 2 := by
      intro h
      match rest, h with
      | [l, r], _ => exact hrest l r rfl
    -- The node's own defect comes first, whatever defects its parts have.
    rw [defects, ofJson, hop]
    simp only [if_neg hlength]
    rfl
  | case4 name rest hop tag htag =>
    rw [defects, ofJson, hop, htag]
    exact (firstOf_operandsDefects tag rest).bind_ok (leaf tag)
  | case5 name rest hop htag =>
    rw [defects, ofJson, hop, htag]
    rfl
  | case6 v rest hnotText =>
    cases v with
    | text name => exact absurd rfl (hnotText name)
    | _ => rfl
  | case7 v hnotEmpty hnotText hnotArray =>
    cases v with
    | array items =>
      cases items with
      | nil => exact absurd rfl hnotEmpty
      | cons v rest => exact absurd rfl (hnotArray v rest)
    | _ => rfl

end Predicate

end DiscountPolicy
