import Mathlib.Data.List.Forall2
import DiscountPolicy.Logging
import DiscountPolicy.Proofs.Decimal.Grammar
import DiscountPolicy.Proofs.Text.Blank

/-! The texts of log levels. A level is spelled by its name, with each letter in either case, or by
its number, and no text spells two levels. -/

namespace DiscountPolicy.Level

open Decimal

variable {cs : List Char} {level : Level}

/-- The number that counts a level. -/
def number : Level → Nat
  | .error => 1
  | .warn => 2
  | .info => 3
  | .debug => 4
  | .trace => 5

/-- The word is another one, which is in capital letters, with each letter as it is or small. -/
def InAnyCase (cs capitals : List Char) : Prop :=
  List.Forall₂ (fun c capital => c = capital ∨ c = capital.toLower) cs capitals

/-- The word is a level's name, or digits of its number after a plus sign that may be missing. -/
inductive Spells : List Char → Level → Prop
  | name {cs : List Char} {level : Level} (h : InAnyCase cs level.name.toList) : Spells cs level
  | number {sign digits : List Char} {level : Level} (hsign : sign = [] ∨ sign = ['+'])
      (hne : digits ≠ []) (hdigits : IsDigits digits) (h : natOfDigits digits = level.number) :
      Spells (sign ++ digits) level

theorem mem_all (level : Level) : level ∈ all := by cases level <;> decide

/-! ### Numbers -/

theorem ofNat?_eq_some_iff {n : Nat} : ofNat? n = some level ↔ n = level.number := by
  match n with
  | 0 => cases level <;> decide
  | 1 | 2 | 3 | 4 | 5 => cases level <;> decide
  | n + 6 =>
    refine iff_of_false ?_ ?_
    · simp [ofNat?, all]
    · cases level <;> simp [number]

theorem number?_eq_some_iff {n : Nat} :
    number? cs = some n ↔ ∃ sign digits, cs = sign ++ digits ∧ (sign = [] ∨ sign = ['+']) ∧
      digits ≠ [] ∧ IsDigits digits ∧ natOfDigits digits = n := by
  constructor
  · intro h
    unfold number? at h
    split at h
    · next digits => exact ⟨['+'], digits, rfl, .inr rfl, nat?_eq_some_iff.mp h⟩
    · exact ⟨[], cs, rfl, .inl rfl, nat?_eq_some_iff.mp h⟩
  · rintro ⟨sign, digits, rfl, rfl | rfl, hdigits⟩
    · unfold number?
      split
      · next rest heq =>
        rw [List.nil_append] at heq
        exact absurd rfl (ne_sign_of_head_isDigits hdigits.2.1 '+' (by rw [heq]; rfl)).1
      · exact nat?_eq_some_iff.mpr hdigits
    · exact nat?_eq_some_iff.mpr hdigits

/-! ### Names -/

theorem isUpper_iff {c : Char} : c.isUpper = true ↔ 65 ≤ c.toNat ∧ c.toNat ≤ 90 := by
  have hrange : c.isUpper = true ↔ 'A'.val ≤ c.val ∧ c.val ≤ 'Z'.val := decide_eq_true_iff
  rw [hrange, UInt32.le_iff_toNat_le, UInt32.le_iff_toNat_le]
  rfl

theorem toNat_toLower (c : Char) :
    c.toLower.toNat = if c.isUpper = true then c.toNat + 32 else c.toNat := by
  delta Char.toLower
  by_cases h : c.isUpper = true
  · have hrange := isUpper_iff.mp h
    have hsum : (c.val + ('a'.val - 'A'.val)).toNat = (c.toNat + 32) % 2 ^ 32 := by
      rw [UInt32.toNat_add]
      rfl
    rw [dif_pos (of_decide_eq_true h), if_pos h]
    exact hsum.trans (Nat.mod_eq_of_lt (by omega))
  · rw [dif_neg fun hrange => h (decide_eq_true hrange), if_neg h]

theorem toList_toLower (s : String) : s.toLower.toList = s.toList.map Char.toLower :=
  String.toList_map

theorem toLower_eq_iff {c capital : Char} (h : capital.isUpper = true) :
    c.toLower = capital.toLower ↔ c = capital ∨ c = capital.toLower := by
  have hcapital := isUpper_iff.mp h
  simp only [← Char.toNat_inj, toNat_toLower, isUpper_iff]
  split <;> omega

theorem map_toLower_eq_iff {capitals : List Char} (h : ∀ c ∈ capitals, c.isUpper = true) :
    cs.map Char.toLower = capitals.map Char.toLower ↔ InAnyCase cs capitals := by
  unfold InAnyCase
  induction capitals generalizing cs with
  | nil => simp
  | cons capital capitals ih =>
    obtain ⟨hcapital, hcapitals⟩ := List.forall_mem_cons.mp h
    cases cs with
    | nil => simp
    | cons c cs =>
      rw [List.map_cons, List.map_cons, List.cons.injEq, toLower_eq_iff hcapital, ih hcapitals,
        List.forall₂_cons]

theorem isUpper_of_mem_name : ∀ c ∈ level.name.toList, c.isUpper = true := by
  cases level <;> simp [name]

theorem toLower_name_eq_iff {s : String} :
    level.name.toLower = s.toLower ↔ InAnyCase s.toList level.name.toList := by
  rw [← map_toLower_eq_iff isUpper_of_mem_name, ← String.toList_inj, toList_toLower,
    toList_toLower, eq_comm]

/-- No two levels have one name. -/
theorem eq_of_toLower_name {a b : Level} (h : a.name.toLower = b.name.toLower) : a = b := by
  have hall : ∀ a ∈ all, ∀ b ∈ all,
      a.name.toList.map Char.toLower = b.name.toList.map Char.toLower → a = b := by decide
  rw [← String.toList_inj, toList_toLower, toList_toLower] at h
  exact hall a (mem_all a) b (mem_all b) h

theorem find?_eq_some_iff {s : String} :
    (all.find? fun level => level.name.toLower = s.toLower) = some level ↔
      InAnyCase s.toList level.name.toList := by
  rw [← toLower_name_eq_iff]
  constructor
  · intro h
    simpa using List.find?_some h
  · intro h
    have hsome : (all.find? fun level => level.name.toLower = s.toLower).isSome := by
      rw [List.find?_isSome]
      exact ⟨level, mem_all level, decide_eq_true h⟩
    obtain ⟨found, hfound⟩ := Option.isSome_iff_exists.mp hsome
    have hname : found.name.toLower = s.toLower := by simpa using List.find?_some hfound
    rw [hfound, eq_of_toLower_name (hname.trans h.symm)]

/-- A name holds no digit. -/
theorem number?_of_inAnyCase (h : InAnyCase cs level.name.toList) : number? cs = none := by
  rw [← map_toLower_eq_iff isUpper_of_mem_name] at h
  by_contra hsome
  obtain ⟨n, hn⟩ := Option.ne_none_iff_exists'.mp hsome
  obtain ⟨sign, digits, rfl, -, hne, hdigits, -⟩ := number?_eq_some_iff.mp hn
  obtain ⟨d, ds, rfl⟩ := List.exists_cons_of_ne_nil hne
  have hmem : d.toLower ∈ level.name.toList.map Char.toLower := by
    rw [← h]
    exact List.mem_map_of_mem (by simp)
  obtain ⟨capital, hcapital, heq⟩ := List.mem_map.mp hmem
  have hupper := isUpper_iff.mp (isUpper_of_mem_name capital hcapital)
  have hdigit : 48 ≤ d.toNat ∧ d.toNat ≤ 57 :=
    Char.isDigit_iff_toNat.mp (hdigits d List.mem_cons_self)
  rw [← Char.toNat_inj, toNat_toLower, toNat_toLower, if_pos (isUpper_iff.mpr hupper)] at heq
  simp only [isUpper_iff] at heq
  split at heq <;> omega

/-! ### Levels -/

theorem spells_iff :
    Spells cs level ↔ InAnyCase cs level.name.toList ∨ number? cs = some level.number := by
  rw [number?_eq_some_iff]
  constructor
  · rintro (h | ⟨hsign, hne, hdigits, h⟩)
    · exact .inl h
    · exact .inr ⟨_, _, rfl, hsign, hne, hdigits, h⟩
  · rintro (h | ⟨sign, digits, rfl, hsign, hne, hdigits, h⟩)
    · exact .name h
    · exact .number hsign hne hdigits h

/-- The level of a text is the one that it spells without the blanks around it. -/
theorem ofText?_eq_some_iff {s : String} :
    ofText? s = some level ↔ Spells (Text.trim s).toList level := by
  rw [spells_iff]
  simp only [ofText?]
  cases hnumber : number? (Text.trim s).toList with
  | some n =>
    have hname : ¬InAnyCase (Text.trim s).toList level.name.toList := by
      intro h
      rw [number?_of_inAnyCase h] at hnumber
      cases hnumber
    simp only [ofNat?_eq_some_iff, hname, false_or, Option.some.injEq]
  | none => simp only [find?_eq_some_iff, reduceCtorEq, or_false]

theorem spells_name (level : Level) : Spells level.name.toList level :=
  .name (List.forall₂_same.mpr fun _ _ => .inl rfl)

end DiscountPolicy.Level
