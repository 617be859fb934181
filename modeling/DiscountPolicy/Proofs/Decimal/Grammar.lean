import DiscountPolicy.Proofs.Decimal

/-! The grammar of numerals. Reading takes exactly the texts of the grammar, for whole numbers and
for numerals with a point and an exponent, and gives what the text spells. -/

namespace DiscountPolicy.Decimal

/-! ### The grammar -/

/-- A sign that may be missing, and whether it is minus. -/
inductive SpellsSign : List Char → Bool → Prop
  | missing : SpellsSign [] false
  | plus : SpellsSign ['+'] false
  | minus : SpellsSign ['-'] true

/-- Digits, at least one, after a sign that may be missing. Zeros may stand in front. -/
inductive SpellsInt : List Char → Int → Prop
  | intro {sign digits : List Char} {negative : Bool} (hsign : SpellsSign sign negative)
      (hne : digits ≠ []) (hdigits : IsDigits digits) :
      SpellsInt (sign ++ digits)
        (if negative then -(natOfDigits digits : Int) else natOfDigits digits)

/-- A point that may be missing, and the digits after it. -/
inductive SpellsFraction : List Char → List Char → Prop
  | missing : SpellsFraction [] []
  | point {digits : List Char} (hdigits : IsDigits digits) : SpellsFraction ('.' :: digits) digits

/-- A mark with the exponent after it, or neither. -/
inductive SpellsExponent : List Char → Int → Prop
  | missing : SpellsExponent [] 0
  | mark {c : Char} {cs : List Char} {e : Int} (hmark : c = 'e' ∨ c = 'E') (h : SpellsInt cs e) :
      SpellsExponent (c :: cs) e

/-- A sign, digits with a point among them, and an exponent. Only the digits may not be missing on
both sides of the point. -/
inductive SpellsDecimal : List Char → Decimal → Prop
  | intro {sign whole point fraction tail : List Char} {negative : Bool} {e : Int}
      (hsign : SpellsSign sign negative) (hwhole : IsDigits whole)
      (hfraction : SpellsFraction point fraction) (hne : whole ++ fraction ≠ [])
      (hexponent : SpellsExponent tail e) :
      SpellsDecimal (sign ++ (whole ++ (point ++ tail)))
        ⟨negative, natOfDigits (whole ++ fraction), e - fraction.length⟩

/-! ### Signs -/

theorem exists_spellsSign (cs : List Char) :
    ∃ sign, SpellsSign sign (splitSign cs).1 ∧ sign ++ (splitSign cs).2 = cs := by
  unfold splitSign
  split
  · exact ⟨['+'], .plus, rfl⟩
  · exact ⟨['-'], .minus, rfl⟩
  · exact ⟨[], .missing, rfl⟩

/-- A sign is split off if no second one follows. -/
theorem SpellsSign.splitSign_append {sign body : List Char} {negative : Bool}
    (h : SpellsSign sign negative) (hbody : ∀ c ∈ body.head?, c ≠ '+' ∧ c ≠ '-') :
    splitSign (sign ++ body) = (negative, body) := by
  cases h with
  | missing =>
    rw [List.nil_append]
    unfold splitSign
    split
    · exact absurd rfl (hbody '+' rfl).1
    · exact absurd rfl (hbody '-' rfl).2
    · rfl
  | plus => rfl
  | minus => rfl

/-! ### Whole numbers -/

theorem nat?_eq_some_iff {cs : List Char} {n : Nat} :
    nat? cs = some n ↔ cs ≠ [] ∧ IsDigits cs ∧ natOfDigits cs = n := by
  rw [nat?]
  split
  · next h =>
    have hdigits : IsDigits cs := List.all_eq_true.mp h.2
    simp [h.1, hdigits]
  · next h =>
    simp only [reduceCtorEq, false_iff]
    rintro ⟨hne, hdigits, -⟩
    exact h ⟨hne, List.all_eq_true.mpr hdigits⟩

theorem ne_sign_of_head_isDigits {digits : List Char} (h : IsDigits digits) :
    ∀ c ∈ digits.head?, c ≠ '+' ∧ c ≠ '-' :=
  fun c hc => ne_sign_of_isDigit (h c (List.mem_of_mem_head? hc))

theorem int?_eq (cs : List Char) :
    int? cs =
      (nat? (splitSign cs).2).map fun n : Nat => if (splitSign cs).1 then -(n : Int) else n := by
  unfold int?
  generalize splitSign cs = split
  cases h : nat? split.2 <;> simp [h]

/-- A text is read as a whole number exactly if it spells that number. -/
theorem int?_eq_some_iff {cs : List Char} {n : Int} : int? cs = some n ↔ SpellsInt cs n := by
  constructor
  · intro h
    rw [int?_eq] at h
    obtain ⟨k, hk, hn⟩ := Option.map_eq_some_iff.mp h
    obtain ⟨hne, hdigits, rfl⟩ := nat?_eq_some_iff.mp hk
    obtain ⟨sign, hsign, hcs⟩ := exists_spellsSign cs
    have hspells := SpellsInt.intro hsign hne hdigits
    rwa [hcs, hn] at hspells
  · rintro ⟨hsign, hne, hdigits⟩
    rw [int?_eq, hsign.splitSign_append (ne_sign_of_head_isDigits hdigits),
      nat?_of_isDigits hne hdigits, Option.map_some]

/-! ### Fractions and exponents -/

theorem exists_spellsFraction (cs : List Char) :
    ∃ point, SpellsFraction point (splitFraction cs).1 ∧ point ++ (splitFraction cs).2 = cs := by
  unfold splitFraction
  split
  · next cs =>
    refine ⟨'.' :: cs.takeWhile Char.isDigit, .point fun c hc => ?_, ?_⟩
    · exact List.mem_takeWhile_imp hc
    · rw [List.cons_append, List.takeWhile_append_dropWhile]
  · exact ⟨[], .missing, rfl⟩

theorem exponent?_eq_some_iff {cs : List Char} {e : Int} :
    exponent? cs = some e ↔ SpellsExponent cs e := by
  constructor
  · intro h
    cases cs with
    | nil =>
      cases h
      exact .missing
    | cons c cs =>
      rw [exponent?] at h
      split at h
      · next hmark => exact .mark hmark (int?_eq_some_iff.mp h)
      · cases h
  · intro h
    cases h with
    | missing => rfl
    | mark hmark h => rw [exponent?, if_pos hmark, int?_eq_some_iff.mpr h]

/-- An exponent begins with its mark, which is no digit and no point. -/
theorem SpellsExponent.stops {tail : List Char} {e : Int} (h : SpellsExponent tail e) :
    Stops Char.isDigit tail ∧ Stops (· == '.') tail := by
  cases h with
  | missing => exact ⟨Stops.nil, Stops.nil⟩
  | mark hmark _ =>
    rcases hmark with rfl | rfl
    · exact ⟨Stops.cons _ (by decide), Stops.cons _ (by decide)⟩
    · exact ⟨Stops.cons _ (by decide), Stops.cons _ (by decide)⟩

theorem SpellsFraction.splitFraction_append {point fraction tail : List Char}
    (h : SpellsFraction point fraction) (hdigit : Stops Char.isDigit tail)
    (hpoint : Stops (· == '.') tail) : splitFraction (point ++ tail) = (fraction, tail) := by
  cases h with
  | missing =>
    rw [List.nil_append]
    unfold splitFraction
    split
    · exact absurd (hpoint '.' rfl) (by decide)
    · rfl
  | point hdigits =>
    rw [List.cons_append, splitFraction, takeWhile_append_stops hdigits hdigit,
      dropWhile_append_stops hdigits hdigit]

theorem SpellsFraction.stops {point fraction tail : List Char} (h : SpellsFraction point fraction)
    (htail : Stops Char.isDigit tail) : Stops Char.isDigit (point ++ tail) := by
  cases h with
  | missing => exact htail
  | point _ => exact Stops.cons _ (by decide)

/-! ### Numerals -/

/-- What follows the sign of a numeral begins with a digit or a point. -/
theorem ne_sign_of_head_numeral {whole point fraction tail : List Char} (hwhole : IsDigits whole)
    (hfraction : SpellsFraction point fraction) (hne : whole ++ fraction ≠ []) :
    ∀ c ∈ (whole ++ (point ++ tail)).head?, c ≠ '+' ∧ c ≠ '-' := by
  cases whole with
  | nil =>
    cases hfraction with
    | missing => exact absurd rfl hne
    | point _ =>
      rintro c ⟨⟩
      decide
  | cons d ds => exact @ne_sign_of_head_isDigits (d :: ds) hwhole

/-- A text is read as a numeral exactly if it spells that numeral. -/
theorem ofChars?_eq_some_iff {cs : List Char} {d : Decimal} :
    ofChars? cs = some d ↔ SpellsDecimal cs d := by
  constructor
  · intro h
    simp only [ofChars?] at h
    split at h
    · cases h
    · next hne =>
      obtain ⟨e, he, rfl⟩ := Option.map_eq_some_iff.mp h
      obtain ⟨sign, hsign, hcs⟩ := exists_spellsSign cs
      obtain ⟨point, hfraction, hrest⟩ :=
        exists_spellsFraction ((splitSign cs).2.dropWhile Char.isDigit)
      have hspells := SpellsDecimal.intro hsign (fun c hc => List.mem_takeWhile_imp hc) hfraction
        hne (exponent?_eq_some_iff.mp he)
      rwa [hrest, List.takeWhile_append_dropWhile, hcs] at hspells
  · rintro ⟨hsign, hwhole, hfraction, hne, hexponent⟩
    obtain ⟨hdigit, hpoint⟩ := hexponent.stops
    have hstop := hfraction.stops hdigit
    rw [ofChars?, hsign.splitSign_append (ne_sign_of_head_numeral hwhole hfraction hne)]
    simp only [takeWhile_append_stops hwhole hstop, dropWhile_append_stops hwhole hstop,
      hfraction.splitFraction_append hdigit hpoint]
    rw [if_neg hne, exponent?_eq_some_iff.mpr hexponent, Option.map_some]

/-- A text spells one numeral at most. -/
theorem SpellsDecimal.unique {cs : List Char} {d e : Decimal} (hd : SpellsDecimal cs d)
    (he : SpellsDecimal cs e) : d = e :=
  Option.some.inj ((ofChars?_eq_some_iff.mpr hd).symm.trans (ofChars?_eq_some_iff.mpr he))

/-- A whole number is a numeral without a point and an exponent. -/
theorem SpellsInt.exists_spellsDecimal {cs : List Char} {n : Int} (h : SpellsInt cs n) :
    ∃ (negative : Bool) (k : Nat), SpellsDecimal cs ⟨negative, k, 0⟩ ∧
      n = if negative then -(k : Int) else k := by
  obtain @⟨sign, digits, negative, hsign, hne, hdigits⟩ := h
  have hspells := SpellsDecimal.intro hsign hdigits .missing (by simpa using hne) .missing
  simp only [List.append_nil] at hspells
  exact ⟨negative, _, hspells, rfl⟩

/-- No numeral has a letter in front of its digits. -/
theorem not_spellsDecimal_of_isAlpha {sign cs : List Char} {negative : Bool} {c : Char}
    {d : Decimal} (hsign : SpellsSign sign negative) (hc : c.isAlpha = true) :
    ¬SpellsDecimal (sign ++ c :: cs) d := by
  have hdigit : c.isDigit = false := by
    have hletter : 65 ≤ c.toNat := by
      rcases Bool.or_eq_true_iff.mp (show (c.isUpper || c.isLower) = true from hc) with h | h
      · exact UInt32.le_iff_toNat_le.mp (of_decide_eq_true h).1
      · obtain ⟨hlow, -⟩ := Bool.and_eq_true_iff.mp h
        exact Nat.le_trans (by decide) (UInt32.le_iff_toNat_le.mp (of_decide_eq_true hlow))
    rw [Bool.eq_false_iff, Ne, Char.isDigit_iff_toNat]
    rintro ⟨-, hhigh⟩
    exact absurd (Nat.le_trans hletter hhigh) (by decide)
  have hmark : ∀ m ∈ ['+', '-', '.'], c ≠ m := by
    intro m hm heq
    have hnot : ∀ m ∈ ['+', '-', '.'], m.isAlpha = false := by simp
    rw [heq, hnot m hm] at hc
    cases hc
  have hhead : ∀ x ∈ (c :: cs).head?, x ≠ '+' ∧ x ≠ '-' := by
    rintro x ⟨⟩
    exact ⟨hmark '+' (by decide), hmark '-' (by decide)⟩
  have hpoint : splitFraction (c :: cs) = ([], c :: cs) := by
    unfold splitFraction
    split
    · next heq => exact absurd (List.cons.inj heq).1 (hmark '.' (by decide))
    · rfl
  rw [← ofChars?_eq_some_iff, ofChars?, hsign.splitSign_append hhead]
  simp [hdigit, hpoint]

end DiscountPolicy.Decimal
