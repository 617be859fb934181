import DiscountPolicy.Failure
import DiscountPolicy.Proofs.Constraint
import DiscountPolicy.Proofs.Double.Whole

/-! The table of operands: what the leaf of a constraint holds under each tag. Constraints whose
fields pass and leaves that fit the table are the same up to equality: each such leaf is the leaf of
a constraint, and of one only. -/

namespace DiscountPolicy.Constraint

/-! ### The table -/

/-- The integer lies between `low` and `high`. -/
def IsCount (low high : Int) (n : Int64) : Prop := low ≤ n.toInt ∧ n.toInt ≤ high

/-- The scalars are those for two finite bounds, of which the lower one is neither negative nor above
the upper one. -/
def IsBounds (low high : Scalar) : Prop :=
  ∃ min max : FiniteDouble, 0 ≤ min.place ∧ min.place ≤ max.place ∧
    low = .number (.finite min) ∧ high = .number (.finite max)

/-- The scalar identifies something: an integer, or one word that is no name and stands for itself. -/
def IsId : Scalar → Prop
  | .integer _ => True
  | .real _ => False
  | .text w => Expression.IsWord w.toList ∧ isKeyword w = false ∧ Scalar.ofWord w = .text w

/-- The operands that the leaf of a constraint has under a tag. -/
def Fits : Tag → List Operand → Prop
  | .age, [.scalar (.integer least)] => IsCount 0 150 least
  | .time, [.scalar (.integer startHour), .scalar (.integer startMinute),
      .scalar (.integer endHour), .scalar (.integer endMinute)] =>
    IsCount 0 23 startHour ∧ IsCount 0 59 startMinute ∧ IsCount 0 23 endHour ∧
      IsCount 0 59 endMinute
  | .location, [.location l] => Text.isBlankText l.country = false
  | .dayOfMonth, [.scalar (.integer first), .scalar (.integer last)] =>
    IsCount 1 31 first ∧ IsCount first.toInt 31 last
  | .dayOfWeek, [.scalar (.integer first), .scalar (.integer last)] =>
    IsCount 1 7 first ∧ IsCount first.toInt 7 last
  | .season, [.scalar (.text name)] => name ∈ ["spring", "summer", "autumn", "fall", "winter"]
  | .holidaysOfCountry, [.scalar (.text code)] =>
    code ≠ "" ∧ (∀ c ∈ code.toList, isLatinLetter c = true) ∧ isKeyword code = false
  | .bounds _ .basket, [.scalar min, .scalar max, .scalar storeId] =>
    IsBounds min max ∧ IsId storeId
  | .bounds _ .product, [.scalar min, .scalar max, .scalar productId, .scalar storeId] =>
    IsBounds min max ∧ IsId productId ∧ IsId storeId
  | .bounds _ .category, [.scalar min, .scalar max, .scalar categoryId] =>
    IsBounds min max ∧ IsId categoryId
  | _, _ => False

/-! ### Counts -/

theorem toInt_count (n : UInt32) : (Int64.ofNat n.toNat).toInt = n.toNat := by
  have hlt := n.toNat_lt
  exact Int64.toInt_ofNat_of_lt (by omega)

theorem IsCount.exists_count {low high : Int} {n : Int64} (h : IsCount low high n) (hlow : 0 ≤ low)
    (hhigh : high < 2 ^ 32) : ∃ m : UInt32, Int64.ofNat m.toNat = n := by
  obtain ⟨hmin, hmax⟩ := h
  have hlt : n.toInt.toNat < UInt32.size := by
    rw [UInt32.size]
    omega
  refine ⟨UInt32.ofNat n.toInt.toNat, Int64.toInt_inj.mp ?_⟩
  rw [toInt_count, UInt32.toNat_ofNat_of_lt' hlt, Int.toNat_of_nonneg (by omega)]

theorem checkRange_eq_ok_iff {field : Field} {low high value : UInt32} :
    checkRange field low high value = .ok () ↔
      IsCount low.toNat high.toNat (Int64.ofNat value.toNat) := by
  rw [checkRange, IsCount, toInt_count]
  simp only [UInt32.lt_iff_toNat_lt]
  split
  · simp only [reduceCtorEq, false_iff]
    omega
  · simp only [true_iff]
    omega

/-! ### Bounds -/

theorem checkBounds_finite_iff {x y : FiniteDouble} :
    checkBounds (.finite x) (.finite y) = .ok () ↔ 0 ≤ x.place ∧ x.place ≤ y.place := by
  have hzero : (FiniteDouble.zero false).place = 0 := rfl
  simp only [checkBounds, FiniteDouble.less, decide_eq_true_eq, hzero]
  split
  · simp only [reduceCtorEq, false_iff]
    omega
  · split
    · simp only [reduceCtorEq, false_iff]
      omega
    · simp only [true_iff]
      omega

theorem checkBounds_eq_ok_iff {min max : Double} :
    checkBounds min max = .ok () ↔ IsBounds (.number min) (.number max) := by
  constructor
  · intro h
    obtain ⟨x, y, rfl, rfl⟩ := finite_of_checkBounds h
    obtain ⟨hlow, hhigh⟩ := checkBounds_finite_iff.mp h
    exact ⟨x, y, hlow, hhigh, rfl, rfl⟩
  · rintro ⟨x, y, hlow, hhigh, hmin, hmax⟩
    obtain ⟨x', rfl, hx⟩ := Scalar.place_eq_of_number_eq hmin
    obtain ⟨y', rfl, hy⟩ := Scalar.place_eq_of_number_eq hmax
    rw [checkBounds_finite_iff, hx, hy]
    exact ⟨hlow, hhigh⟩

/-! ### Words -/

theorem checkId_eq_ok_iff_isId {field : Field} {s : Scalar} :
    checkId field s = .ok () ↔ IsId s := by
  rw [checkId_eq_ok_iff]
  cases s with
  | integer n => simp [IsId]
  | real x => simp [IsId]
  | text w => simp [IsId, Operand.Expressible]

theorem isLatinLetter_iff {c : Char} : isLatinLetter c = true ↔
    (97 ≤ c.toNat ∧ c.toNat ≤ 122) ∨ (65 ≤ c.toNat ∧ c.toNat ≤ 90) := by
  simp [isLatinLetter, Char.le_def, UInt32.le_iff_toNat_le]

theorem ne_of_isLatinLetter {c d : Char} (hc : isLatinLetter c = true)
    (hd : isLatinLetter d = false) : c ≠ d := by
  rintro rfl
  rw [hc] at hd
  cases hd

theorem isWord_of_letters {code : String} (hne : code ≠ "")
    (h : ∀ c ∈ code.toList, isLatinLetter c = true) : Expression.IsWord code.toList := by
  refine ⟨mt String.toList_eq_nil_iff.mp hne, fun c hc => ?_⟩
  have hc := h c hc
  have hletter := isLatinLetter_iff.mp hc
  simp only [Expression.isSeparator, Expression.isParenthesis, Text.isBlank, Bool.or_eq_false_iff,
    Bool.and_eq_false_iff, decide_eq_false_iff_not, beq_eq_false_iff_ne]
  refine ⟨⟨?_, ne_of_isLatinLetter hc (by decide)⟩, ne_of_isLatinLetter hc (by decide),
    ne_of_isLatinLetter hc (by decide)⟩
  omega

/-- Letters never spell a finite number, though they can spell infinity. -/
theorem ofWord_of_letters {code : String} (hne : code ≠ "")
    (h : ∀ c ∈ code.toList, isLatinLetter c = true) : Scalar.ofWord code = .text code := by
  obtain ⟨c, cs, hcode⟩ := List.exists_cons_of_ne_nil (mt String.toList_eq_nil_iff.mp hne)
  have hc : isLatinLetter c = true := h c (by rw [hcode]; exact List.mem_cons_self)
  have hdigit : c.isDigit = false := by
    have hletter := isLatinLetter_iff.mp hc
    have hrange := Char.isDigit_iff_toNat (c := c)
    rw [Bool.eq_false_iff, Ne, hrange]
    simp only [show '0'.toNat = 48 from rfl, show '9'.toNat = 57 from rfl]
    omega
  have hplus : c ≠ '+' := ne_of_isLatinLetter hc (by decide)
  have hminus : c ≠ '-' := ne_of_isLatinLetter hc (by decide)
  have hpoint : c ≠ '.' := ne_of_isLatinLetter hc (by decide)
  have hinteger : int64OfText? code = none := by
    rw [int64OfText?, hcode, Decimal.int?_eq_none List.mem_cons_self ⟨hdigit, hplus, hminus⟩]
    rfl
  have hdecimal : Decimal.ofChars? code.toList = none := by
    rw [hcode, Decimal.ofChars?_eq_none cs hdigit ⟨hplus, hminus, hpoint⟩]
  rw [Scalar.ofWord, hinteger, Double.ofText?, Double.ofChars?, hdecimal]
  simp only [Double.ofWord?]
  split
  · next hreal =>
    split at hreal
    · cases hreal
    · split at hreal <;> cases hreal
  · rfl

/-! ### Valid constraints and the table -/

theorem validate_holidaysOfCountry_eq_ok_iff {code : String} :
    (holidaysOfCountry code).validate = .ok () ↔
      code ≠ "" ∧ (∀ c ∈ code.toList, isLatinLetter c = true) ∧ isKeyword code = false := by
  rw [validate]
  split
  · next hnot =>
    simp only [reduceCtorEq, false_iff]
    rintro ⟨hne, hletters, -⟩
    rcases hnot with hempty | hother
    · exact hne hempty
    · rw [List.all_eq_true.mpr hletters] at hother
      cases hother
  · next hletters =>
    obtain ⟨hne, hletters⟩ := not_or.mp hletters
    have hletters : ∀ c ∈ code.toList, isLatinLetter c = true := by simpa using hletters
    rw [checkWord_eq_ok_iff, Operand.Expressible]
    exact ⟨fun h => ⟨hne, hletters, h.2.1⟩,
      fun h => ⟨isWord_of_letters hne hletters, h.2.2, ofWord_of_letters hne hletters⟩⟩

/-- The fields of a constraint pass exactly if its operands fit the table. -/
theorem validate_eq_ok_iff_fits (c : Constraint) :
    c.validate = .ok () ↔ Fits c.tag c.operands := by
  cases c with
  | age least => exact checkRange_eq_ok_iff
  | time startHour startMinute endHour endMinute =>
    simp only [validate, check_bind_eq_ok_iff, checkRange_eq_ok_iff]
    rfl
  | location l => simp [validate, tag, operands, Fits]
  | dayOfMonth first last =>
    simp only [validate, check_bind_eq_ok_iff, checkRange_eq_ok_iff, ← toInt_count first]
    rfl
  | dayOfWeek first last =>
    simp only [validate, check_bind_eq_ok_iff, checkRange_eq_ok_iff, ← toInt_count first]
    rfl
  | season name =>
    rw [validate]
    split
    · next h => exact iff_of_true rfl h
    · next h =>
      refine iff_of_false ?_ h
      intro hok
      cases hok
  | holidaysOfCountry code => exact validate_holidaysOfCountry_eq_ok_iff
  | basket measure min max storeId =>
    simp only [validate, check_bind_eq_ok_iff, checkBounds_eq_ok_iff, checkId_eq_ok_iff_isId]
    rfl
  | product measure min max productId storeId =>
    simp only [validate, check_bind_eq_ok_iff, checkBounds_eq_ok_iff, checkId_eq_ok_iff_isId]
    rfl
  | category measure min max categoryId =>
    simp only [validate, check_bind_eq_ok_iff, checkBounds_eq_ok_iff, checkId_eq_ok_iff_isId]
    rfl

theorem Fits.exists_constraint {tag : Tag} {xs : List Operand} (h : Fits tag xs) :
    ∃ c : Constraint, c.tag = tag ∧ c.operands = xs := by
  unfold Fits at h
  split at h
  · next least =>
    obtain ⟨n, rfl⟩ := h.exists_count (by decide) (by decide)
    exact ⟨.age n, rfl, rfl⟩
  · next startHour startMinute endHour endMinute =>
    obtain ⟨hstartHour, hstartMinute, hendHour, hendMinute⟩ := h
    obtain ⟨n₁, rfl⟩ := hstartHour.exists_count (by decide) (by decide)
    obtain ⟨n₂, rfl⟩ := hstartMinute.exists_count (by decide) (by decide)
    obtain ⟨n₃, rfl⟩ := hendHour.exists_count (by decide) (by decide)
    obtain ⟨n₄, rfl⟩ := hendMinute.exists_count (by decide) (by decide)
    exact ⟨.time n₁ n₂ n₃ n₄, rfl, rfl⟩
  · next l => exact ⟨.location l, rfl, rfl⟩
  · next first last =>
    obtain ⟨n, hn⟩ := h.1.exists_count (by decide) (by decide)
    obtain ⟨m, hm⟩ := h.2.exists_count (Int.le_trans (by decide) h.1.1) (by decide)
    exact ⟨.dayOfMonth n m, rfl, by rw [operands, count, count, hn, hm]⟩
  · next first last =>
    obtain ⟨n, hn⟩ := h.1.exists_count (by decide) (by decide)
    obtain ⟨m, hm⟩ := h.2.exists_count (Int.le_trans (by decide) h.1.1) (by decide)
    exact ⟨.dayOfWeek n m, rfl, by rw [operands, count, count, hn, hm]⟩
  · next name => exact ⟨.season name, rfl, rfl⟩
  · next code => exact ⟨.holidaysOfCountry code, rfl, rfl⟩
  · next measure low high storeId =>
    obtain ⟨⟨x, y, -, -, rfl, rfl⟩, -⟩ := h
    exact ⟨.basket measure (.finite x) (.finite y) storeId, rfl, rfl⟩
  · next measure low high productId storeId =>
    obtain ⟨⟨x, y, -, -, rfl, rfl⟩, -⟩ := h
    exact ⟨.product measure (.finite x) (.finite y) productId storeId, rfl, rfl⟩
  · next measure low high categoryId =>
    obtain ⟨⟨x, y, -, -, rfl, rfl⟩, -⟩ := h
    exact ⟨.category measure (.finite x) (.finite y) categoryId, rfl, rfl⟩
  · exact h.elim

/-! ### Equal leaves -/

@[simp] theorem equal_count (m n : UInt32) : (count m).equal (count n) = (m == n) := by
  have hinj : Int64.ofNat m.toNat = Int64.ofNat n.toNat ↔ m = n := by
    rw [← Int64.toInt_inj, toInt_count, toInt_count, Int.natCast_inj, UInt32.toNat_inj]
  by_cases heq : m = n
  · subst heq
    simp [count, Operand.equal, Scalar.equal]
  · simp [count, Operand.equal, Scalar.equal, hinj, heq]

theorem tag_eq_of_equal {c d : Constraint} (h : c.equal d = true) : c.tag = d.tag := by
  unfold equal at h
  split at h
  · simp only [Bool.and_eq_true, beq_iff_eq] at h
    rw [tag, tag, h.1.1.1]
  · simp only [Bool.and_eq_true, beq_iff_eq] at h
    rw [tag, tag, h.1.1.1.1]
  · simp only [Bool.and_eq_true, beq_iff_eq] at h
    rw [tag, tag, h.1.1.1]
  · rw [beq_iff_eq.mp h]

theorem equalAll_operands {c d : Constraint} (h : c.tag = d.tag) :
    Operand.equalAll c.operands d.operands = c.equal d := by
  cases c with
  | age least =>
    cases d with
    | age least' => simp [operands, Operand.equalAll, equal, beq_eq_decide]
    | _ => cases h
  | time startHour startMinute endHour endMinute =>
    cases d with
    | time startHour' startMinute' endHour' endMinute' =>
      simp [operands, Operand.equalAll, equal, beq_eq_decide]
    | _ => cases h
  | location l =>
    cases d with
    | location l' => simp [operands, Operand.equalAll, Operand.equal, equal, beq_eq_decide]
    | _ => cases h
  | dayOfMonth first last =>
    cases d with
    | dayOfMonth first' last' => simp [operands, Operand.equalAll, equal, beq_eq_decide]
    | _ => cases h
  | dayOfWeek first last =>
    cases d with
    | dayOfWeek first' last' => simp [operands, Operand.equalAll, equal, beq_eq_decide]
    | _ => cases h
  | season name =>
    cases d with
    | season name' =>
      simp [operands, Operand.equalAll, Operand.equal, Scalar.equal, equal, beq_eq_decide]
    | _ => cases h
  | holidaysOfCountry code =>
    cases d with
    | holidaysOfCountry code' =>
      simp [operands, Operand.equalAll, Operand.equal, Scalar.equal, equal, beq_eq_decide]
    | _ => cases h
  | basket measure min max storeId =>
    cases d with
    | basket measure' min' max' storeId' =>
      obtain ⟨rfl, -⟩ := Tag.bounds.inj h
      simp [operands, Operand.equalAll, Operand.equal, Scalar.equal_number, equal, Bool.and_assoc]
    | _ => cases h
  | product measure min max productId storeId =>
    cases d with
    | product measure' min' max' productId' storeId' =>
      obtain ⟨rfl, -⟩ := Tag.bounds.inj h
      simp [operands, Operand.equalAll, Operand.equal, Scalar.equal_number, equal, Bool.and_assoc]
    | _ => cases h
  | category measure min max categoryId =>
    cases d with
    | category measure' min' max' categoryId' =>
      obtain ⟨rfl, -⟩ := Tag.bounds.inj h
      simp [operands, Operand.equalAll, Operand.equal, Scalar.equal_number, equal, Bool.and_assoc]
    | _ => cases h

theorem equal_leaf (c d : Constraint) :
    (Predicate.leaf c.tag c.operands).equal (.leaf d.tag d.operands) = c.equal d := by
  rw [Predicate.equal]
  by_cases h : c.tag = d.tag
  · rw [equalAll_operands h, beq_iff_eq.mpr h, Bool.true_and]
  · have hnot : c.equal d = false := Bool.eq_false_iff.mpr fun heq => h (tag_eq_of_equal heq)
    rw [hnot, beq_eq_false_iff_ne.mpr h, Bool.false_and]

/-! ### Leaves and constraints -/

/-- A leaf comes from a constraint exactly if its operands fit the table, equal leaves come from
equal constraints, and a constraint whose operands do not fit is refused as an invalid one. -/
theorem exists_toPredicate_iff_fits :
    (∀ (tag : Tag) (xs : List Operand),
      (∃ c : Constraint, c.toPredicate = .ok (.leaf tag xs)) ↔ Fits tag xs) ∧
    (∀ (c d : Constraint) (t u : Predicate), c.toPredicate = .ok t → d.toPredicate = .ok u →
      t.equal u = c.equal d) ∧
    ∀ c : Constraint,
      (Fits c.tag c.operands → c.toPredicate = .ok (.leaf c.tag c.operands)) ∧
      (¬Fits c.tag c.operands → ∃ v, c.toPredicate = .error v ∧
        (Failure.constraint v).kind = .invalidConstraint) := by
  refine ⟨fun tag xs => ⟨?_, fun h => ?_⟩, fun c d t u ht hu => ?_, fun c => ⟨fun h => ?_, fun h => ?_⟩⟩
  · rintro ⟨c, hc⟩
    obtain ⟨hvalid, hleaf⟩ := toPredicate_eq_ok_iff.mp hc
    obtain ⟨rfl, rfl⟩ := Predicate.leaf.inj hleaf
    exact c.validate_eq_ok_iff_fits.mp hvalid
  · obtain ⟨c, rfl, rfl⟩ := h.exists_constraint
    exact ⟨c, toPredicate_eq_ok_iff.mpr ⟨c.validate_eq_ok_iff_fits.mpr h, rfl⟩⟩
  · obtain ⟨-, rfl⟩ := toPredicate_eq_ok_iff.mp ht
    obtain ⟨-, rfl⟩ := toPredicate_eq_ok_iff.mp hu
    exact equal_leaf c d
  · exact toPredicate_eq_ok_iff.mpr ⟨c.validate_eq_ok_iff_fits.mpr h, rfl⟩
  · rcases ok_or_error c.toPredicate with ⟨t, ht⟩ | ⟨v, hv⟩
    · exact absurd (c.validate_eq_ok_iff_fits.mp (toPredicate_eq_ok_iff.mp ht).1) h
    · exact ⟨v, hv, rfl⟩

end DiscountPolicy.Constraint
