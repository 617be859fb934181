import DiscountPolicy.Double.Layout
import DiscountPolicy.Proofs.Decimal
import DiscountPolicy.Proofs.Double.Reading

/-! Written numbers: in every layout, the text of a finite number is a numeral that is read as that
number. A layout chooses where the point stands and how large the exponent is; it leaves the value
of the digits as it is. -/

namespace DiscountPolicy.Layout

open Decimal

/-- The digits are the significant ones and zeros behind them. -/
theorem exists_zeros (digits : List Char) :
    ∃ z, digits = significant digits ++ List.replicate z '0' := by
  refine ⟨(digits.reverse.takeWhile (· == '0')).length, ?_⟩
  have hzeros : digits.reverse.takeWhile (· == '0') =
      List.replicate (digits.reverse.takeWhile (· == '0')).length '0' := by
    refine List.eq_replicate_of_mem fun c hc => ?_
    simpa using List.mem_takeWhile_imp hc
  have hsplit := congrArg List.reverse
    (List.takeWhile_append_dropWhile (p := (· == '0')) (l := digits.reverse))
  rw [List.reverse_append, List.reverse_reverse, hzeros, List.reverse_replicate] at hsplit
  exact hsplit.symm

/-- Digits whose first one has the exponent `first`, as a numeral. -/
def numeral (negative : Bool) (digits : List Char) (first : Int) : Decimal :=
  ⟨negative, natOfDigits digits, first + 1 - digits.length⟩

/-- Digits behind the point, after zeros that fill the places in front of them. -/
theorem ofChars?_belowOne (negative : Bool) {digits : List Char} {first : Int} (h : IsDigits digits)
    (hfirst : first < 0) :
    ofChars? (signChars negative ++
        '0' :: '.' :: (List.replicate (-first - 1).toNat '0' ++ digits)) =
      some (numeral negative digits first) := by
  have hread : ofChars? (signChars negative ++
        (['0'] ++ '.' :: (List.replicate (-first - 1).toNat '0' ++ digits ++ []))) = _ :=
    ofChars?_point negative (by simp) (isDigits_zeros 1)
      ((isDigits_zeros (-first - 1).toNat).append h) Stops.nil
  have hvalue : natOfDigits (['0'] ++ (List.replicate (-first - 1).toNat '0' ++ digits)) =
      natOfDigits digits := by
    rw [show ['0'] = List.replicate 1 '0' from rfl, natOfDigits_zeros_append,
      natOfDigits_zeros_append]
  rw [List.append_nil, hvalue] at hread
  simp only [List.singleton_append] at hread
  rw [hread]
  simp only [exponent?, Option.map_some, numeral, List.length_append, List.length_replicate,
    Option.some.injEq, Decimal.mk.injEq, true_and]
  omega

/-- Digits with zeros behind them up to the point. -/
theorem ofChars?_filled (negative pointZero : Bool) {digits : List Char} (hne : digits ≠ [])
    (h : IsDigits digits) (k : Nat) :
    ∃ d, ofChars? (signChars negative ++
        (digits ++ List.replicate k '0' ++ if pointZero then ['.', '0'] else [])) = some d ∧
      Double.ofDecimal d = Double.ofDecimal ⟨negative, natOfDigits digits, k⟩ := by
  have hwhole := h.append (isDigits_zeros k)
  have hne' : digits ++ List.replicate k '0' ≠ [] := by simp [hne]
  cases pointZero with
  | false =>
    have hread := ofChars?_whole negative hne' hwhole Stops.nil Stops.nil
    refine ⟨_, hread, ?_⟩
    rw [natOfDigits_append_zeros, Double.ofDecimal_shift, Int.zero_add]
  | true =>
    have hread : ofChars? (signChars negative ++
        (digits ++ List.replicate k '0' ++ '.' :: (['0'] ++ []))) = _ :=
      ofChars?_point negative hne' hwhole (isDigits_zeros 1) Stops.nil
    refine ⟨_, hread, ?_⟩
    rw [show ['0'] = List.replicate 1 '0' from rfl, natOfDigits_append_zeros,
      natOfDigits_append_zeros, Double.ofDecimal_shift, Double.ofDecimal_shift]
    congr 2
    simp only [List.length_replicate]
    omega

/-- Digits with the point among them. -/
theorem ofChars?_inside (negative : Bool) {digits : List Char} (h : IsDigits digits) {k : Nat}
    (hk : 0 < k) (hlt : k < digits.length) :
    ofChars? (signChars negative ++ (digits.take k ++ '.' :: digits.drop k)) =
      some ⟨negative, natOfDigits digits, (k : Int) - digits.length⟩ := by
  have hne : digits.take k ≠ [] := by
    refine List.ne_nil_of_length_pos ?_
    rw [List.length_take]
    omega
  have hread : ofChars? (signChars negative ++
        (digits.take k ++ '.' :: (digits.drop k ++ []))) = _ :=
    ofChars?_point negative hne (fun c hc => h c (List.mem_of_mem_take hc))
      (fun c hc => h c (List.mem_of_mem_drop hc)) Stops.nil
  rw [List.append_nil, List.take_append_drop] at hread
  rw [hread]
  simp only [exponent?, Option.map_some, List.length_drop, Option.some.injEq, Decimal.mk.injEq,
    true_and]
  omega

theorem ofChars?_place (layout : Layout) (negative : Bool) {digits : List Char} (first : Int)
    (hne : digits ≠ []) (h : IsDigits digits) :
    ∃ d, ofChars? (signChars negative ++ layout.place digits first) = some d ∧
      Double.ofDecimal d = Double.ofDecimal (numeral negative digits first) := by
  rw [place]
  simp only
  split
  · next hneg => exact ⟨_, ofChars?_belowOne negative h hneg, rfl⟩
  · next hpos =>
    split
    · next hle =>
      obtain ⟨d, hread, hvalue⟩ := ofChars?_filled negative layout.pointZero hne h
        (first.toNat + 1 - digits.length)
      refine ⟨d, hread, hvalue.trans ?_⟩
      rw [numeral]
      congr 2
      omega
    · next hlt =>
      refine ⟨_, ofChars?_inside negative h (Nat.succ_pos _) (Nat.lt_of_not_le hlt), ?_⟩
      rw [numeral]
      congr 2
      omega

/-- Digits with the point behind the first one, and an exponent. -/
theorem ofChars?_scale (layout : Layout) (negative : Bool) {digits : List Char} (first : Int)
    (hne : digits ≠ []) (h : IsDigits digits) :
    ofChars? (signChars negative ++ layout.scale digits first) =
      some (numeral negative digits first) := by
  have hplus : (layout.plusSign && decide (0 ≤ first)) = true → 0 ≤ first := by
    simp
  have hexponent := exponent?_mark hplus
  simp only [scale]
  generalize (if (layout.plusSign && decide (0 ≤ first)) = true then ['+'] else []) ++
    intChars first = marked at hexponent ⊢
  have hmark : Stops Char.isDigit ('e' :: marked) := Stops.cons marked (by decide)
  obtain ⟨d, ds, rfl⟩ := List.exists_cons_of_ne_nil hne
  cases ds with
  | nil =>
    have hread := ofChars?_whole negative hne h hmark (Stops.cons marked (by decide))
    rw [hexponent] at hread
    simpa [numeral] using hread
  | cons e es =>
    have hwhole : IsDigits [d] := by
      intro c hc
      rw [List.mem_singleton.mp hc]
      exact h d (by simp)
    have hfraction : IsDigits (e :: es) := fun c hc => h c (List.mem_cons_of_mem d hc)
    have hread := ofChars?_point negative (by simp) hwhole hfraction hmark
    rw [hexponent] at hread
    simpa [numeral] using hread

theorem rank_eq_zero_of_ofDecimal {negative : Bool} {e : Int} {x : FiniteDouble}
    (h : Double.ofDecimal ⟨negative, 0, e⟩ = .finite x) : x.rank = 0 := by
  have hzero : Double.ofDecimal ⟨negative, 0, e⟩ = .finite (.zero negative) := by
    simp [Double.ofDecimal]
  obtain rfl := Double.finite.inj (hzero.symm.trans h)
  rfl

theorem ofDecimal_zero {x : FiniteDouble} (h : x.isZero = true) (e : Int) :
    Double.ofDecimal ⟨x.negative, 0, e⟩ = .finite x := by
  obtain ⟨negative, rank, hlt⟩ := x
  obtain rfl : rank = 0 := by simpa [FiniteDouble.isZero] using h
  simp [Double.ofDecimal, FiniteDouble.zero]

/-- The digits of a numeral that is read back, laid out for its power of ten, are read back too. -/
theorem ofChars?_arrange (layout : Layout) {x : FiniteDouble} {c : Nat} {e : Int}
    (hzero : x.isZero = false) (h : x.readsBack c e = true) :
    ∃ d, ofChars? (signChars x.negative ++ layout.arrange c e) = some d ∧
      Double.ofDecimal d = .finite x := by
  have hread := FiniteDouble.ofDecimal_of_readsBack h
  obtain ⟨z, hz⟩ := exists_zeros (Nat.toDigits 10 c)
  have hdigits := isDigits_toDigits c
  have hc : natOfDigits (significant (Nat.toDigits 10 c)) * 10 ^ z = c := by
    rw [← natOfDigits_append_zeros, ← hz, natOfDigits_toDigits]
  -- The zeros that were cut off the digits come back as a power of ten.
  have hlength : (significant (Nat.toDigits 10 c)).length + z = (Nat.toDigits 10 c).length := by
    rw [← List.length_replicate (n := z) (a := '0'), ← List.length_append, ← hz]
  simp only [arrange]
  generalize significant (Nat.toDigits 10 c) = digits at *
  have hne : digits ≠ [] := by
    rintro rfl
    have hrank : x.rank = 0 := by
      refine @rank_eq_zero_of_ofDecimal x.negative e x ?_
      rwa [← hc, show natOfDigits [] = 0 from rfl, Nat.zero_mul] at hread
    simp [FiniteDouble.isZero, hrank] at hzero
  have hsignificant : IsDigits digits := fun d hd => hdigits d (by rw [hz]; simp [hd])
  have hvalue : Double.ofDecimal (numeral x.negative digits
      (e + (Nat.toDigits 10 c).length - 1)) = .finite x := by
    rw [← hread, ← hc, Double.ofDecimal_shift, numeral, hc, ← hlength]
    congr 2
    omega
  split
  · obtain ⟨d, hplace, heq⟩ := ofChars?_place layout x.negative _ hne hsignificant
    exact ⟨d, hplace, heq.trans hvalue⟩
  · exact ⟨_, ofChars?_scale layout x.negative _ hne hsignificant, hvalue⟩

/-- The text of a finite number is a numeral that is read as the number. -/
theorem exists_numeral_chars (layout : Layout) (x : FiniteDouble) :
    ∃ d, Decimal.ofChars? (layout.chars x) = some d ∧ Double.ofDecimal d = .finite x := by
  by_cases hzero : x.isZero = true
  · rw [chars, if_pos hzero]
    obtain ⟨d, hread, hvalue⟩ := ofChars?_filled x.negative layout.pointZero
      (List.cons_ne_nil '0' []) (isDigits_zeros 1) 0
    exact ⟨d, hread, hvalue.trans (ofDecimal_zero hzero 0)⟩
  · rw [chars, if_neg hzero]
    exact layout.ofChars?_arrange (Bool.eq_false_iff.mpr hzero) (x.readsBack_shortest layout.tie)

/-- The text of a finite number is read as the number. -/
theorem ofChars?_chars (layout : Layout) (x : FiniteDouble) :
    Double.ofChars? (layout.chars x) = some (.finite x) := by
  obtain ⟨d, hread, hvalue⟩ := layout.exists_numeral_chars x
  rw [Double.ofChars?, hread]
  simp only [hvalue]

/-- A number has a text, since the empty text is read as no number. -/
theorem chars_ne_nil (layout : Layout) (x : FiniteDouble) : layout.chars x ≠ [] := by
  intro h
  have hread := layout.ofChars?_chars x
  rw [h, show Double.ofChars? [] = none from rfl] at hread
  cases hread

/-! ### The characters of a written number -/

theorem mem_significant {digits : List Char} {c : Char} (h : c ∈ significant digits) :
    c ∈ digits := by
  rw [significant, List.mem_reverse] at h
  exact List.mem_reverse.mp ((List.dropWhile_sublist _).subset h)

theorem isNumeric_place (layout : Layout) {digits : List Char} (first : Int) (h : IsDigits digits) :
    IsNumeric (layout.place digits first) := by
  have hending : IsNumeric (if layout.pointZero then ['.', '0'] else []) := by
    cases layout.pointZero <;> decide
  have hdigits := h.isNumeric
  rw [place]
  simp only
  split
  · exact IsNumeric.append (a := ['0', '.']) (by decide) ((isDigits_zeros _).isNumeric.append hdigits)
  · split
    · exact (hdigits.append (isDigits_zeros _).isNumeric).append hending
    · refine IsNumeric.append (fun c hc => hdigits c (List.mem_of_mem_take hc))
        (IsNumeric.append (a := ['.']) (by decide) fun c hc => hdigits c (List.mem_of_mem_drop hc))

theorem isNumeric_scale (layout : Layout) {digits : List Char} (first : Int) (h : IsDigits digits) :
    IsNumeric (layout.scale digits first) := by
  have hsign : IsNumeric (if (layout.plusSign && decide (0 ≤ first)) = true then ['+'] else []) := by
    split <;> decide
  have hexponent := IsNumeric.append (a := ['e']) (by decide)
    (hsign.append (isNumeric_intChars first))
  have hdigits := h.isNumeric
  simp only [scale]
  refine IsNumeric.append ?_ hexponent
  split
  · exact hdigits
  · exact hdigits
  · next d ds _ =>
    have hd : IsNumeric [d] := fun c hc => hdigits c (by rw [List.mem_singleton.mp hc]; simp)
    have hpoint : IsNumeric ['.'] := by decide
    exact hd.append (hpoint.append fun c hc => hdigits c (List.mem_cons_of_mem d hc))

theorem isNumeric_chars (layout : Layout) (x : FiniteDouble) : IsNumeric (layout.chars x) := by
  have hsign : IsNumeric (if x.negative then ['-'] else []) := by
    cases x.negative <;> decide
  rw [chars]
  refine hsign.append ?_
  split
  · cases layout.pointZero <;> decide
  · simp only [arrange]
    have hdigits : IsDigits (significant (Nat.toDigits 10 (x.shortest layout.tie).1)) :=
      fun c hc => isDigits_toDigits _ c (mem_significant hc)
    split
    · exact layout.isNumeric_place _ hdigits
    · exact layout.isNumeric_scale _ hdigits

/-- A layout that ends whole numbers in `.0` writes no number as an integer. -/
theorem int?_chars {layout : Layout} (h : layout.pointZero = true) (x : FiniteDouble) :
    int? (layout.chars x) = none := by
  have hplace : ∀ digits first, '.' ∈ layout.place digits first := by
    intro digits first
    simp only [place, h, if_true]
    split
    · simp
    · split <;> simp
  have hscale : ∀ digits first, 'e' ∈ layout.scale digits first := by
    simp [scale]
  have harrange : ∀ c e, '.' ∈ layout.arrange c e ∨ 'e' ∈ layout.arrange c e := by
    intro c e
    simp only [arrange]
    split
    · exact .inl (hplace _ _)
    · exact .inr (hscale _ _)
  have hmark : '.' ∈ layout.chars x ∨ 'e' ∈ layout.chars x := by
    by_cases hzero : x.isZero = true
    · rw [chars, if_pos hzero, h]
      exact .inl (List.mem_append_right _ (by decide))
    · rw [chars, if_neg hzero]
      exact (harrange _ _).imp (List.mem_append_right _) (List.mem_append_right _)
  rcases hmark with hmark | hmark
  · exact int?_eq_none hmark (by decide)
  · exact int?_eq_none hmark (by decide)

end DiscountPolicy.Layout
