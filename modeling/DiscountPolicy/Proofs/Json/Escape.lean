import DiscountPolicy.Json.Quoted

/-! The grammar of quoted texts. What is read is exactly what spells a text: characters as they are,
escapes with a letter, and escapes with a code unit, of which the two of a surrogate pair spell one
character. -/

namespace DiscountPolicy.Quoted

variable {cs raw rest : List Char}

/-! ### The grammar -/

/-- The letters of escapes, and the characters that they stand for. -/
def letters : List (Char × Char) :=
  [('"', '"'), ('\\', '\\'), ('/', '/'), ('b', '\x08'), ('t', '\t'), ('n', '\n'), ('f', '\x0c'),
    ('r', '\r')]

/-- A hexadecimal digit, in either case. -/
def IsHexDigit (c : Char) (n : Nat) : Prop :=
  n < 16 ∧ (c = Nat.digitChar n ∨ c = (Nat.digitChar n).toUpper)

/-- Four hexadecimal digits and their number. -/
inductive SpellsUnit : List Char → Nat → Prop
  | intro {a b c d : Char} {h i j k : Nat} (ha : IsHexDigit a h) (hb : IsHexDigit b i)
      (hc : IsHexDigit c j) (hd : IsHexDigit d k) :
      SpellsUnit [a, b, c, d] (h * 0x1000 + i * 0x100 + j * 0x10 + k)

/-- What stands between quotes, and the characters that it spells. A character that has two code
units is spelled by both. -/
inductive Spells : List Char → List Char → Prop
  | nil : Spells [] []
  | plain {raw cs : List Char} {c : Char} (printable : 0x20 ≤ c.toNat) (notQuote : c ≠ '"')
      (notSlash : c ≠ '\\') (tail : Spells raw cs) : Spells (c :: raw) (c :: cs)
  | letter {raw cs : List Char} {l c : Char} (escape : (l, c) ∈ letters)
      (tail : Spells raw cs) : Spells ('\\' :: l :: raw) (c :: cs)
  | unit {digits raw cs : List Char} {c : Char} (code : SpellsUnit digits c.toNat)
      (tail : Spells raw cs) : Spells ('\\' :: 'u' :: (digits ++ raw)) (c :: cs)
  | pair {high low raw cs : List Char} {c : Char} (beyond : 0x10000 ≤ c.toNat)
      (first : SpellsUnit high (0xD800 + (c.toNat - 0x10000) / 0x400))
      (second : SpellsUnit low (0xDC00 + (c.toNat - 0x10000) % 0x400)) (tail : Spells raw cs) :
      Spells ('\\' :: 'u' :: (high ++ '\\' :: 'u' :: (low ++ raw))) (c :: cs)

/-- No quote stands here but behind a backslash, and a backslash is not the last character. -/
inductive Enclosed : List Char → Prop
  | nil : Enclosed []
  | plain {raw : List Char} {c : Char} (notQuote : c ≠ '"') (notSlash : c ≠ '\\')
      (tail : Enclosed raw) : Enclosed (c :: raw)
  | escape {raw : List Char} (c : Char) (tail : Enclosed raw) : Enclosed ('\\' :: c :: raw)

/-! ### The end of a text -/

theorem splitQuote_plain {c : Char} (hquote : c ≠ '"') (hslash : c ≠ '\\') (rest : List Char) :
    splitQuote (c :: rest) = (splitQuote rest).map fun (raw, rest) => (c :: raw, rest) := by
  rw [splitQuote]
  · exact hquote
  · intro _ _ hc _
    exact hslash hc

theorem splitQuote_eq_some_iff :
    splitQuote cs = some (raw, rest) ↔ Enclosed raw ∧ cs = raw ++ '"' :: rest := by
  constructor
  · intro h
    fun_induction splitQuote cs generalizing raw with
    | case1 => cases h
    | case2 rest =>
      cases h
      exact ⟨.nil, rfl⟩
    | case3 c cs ih =>
      obtain ⟨⟨tail, _⟩, htail, heq⟩ := Option.map_eq_some_iff.mp h
      cases heq
      obtain ⟨henclosed, rfl⟩ := ih htail
      exact ⟨.escape c henclosed, rfl⟩
    | case4 c cs hquote hslash ih =>
      obtain ⟨⟨tail, _⟩, htail, heq⟩ := Option.map_eq_some_iff.mp h
      cases heq
      obtain ⟨henclosed, rfl⟩ := ih htail
      refine ⟨.plain hquote ?_ henclosed, rfl⟩
      -- A backslash is followed by the character that it escapes.
      rintro rfl
      cases tail with
      | nil => exact hslash '"' rest rfl rfl
      | cons d tail => exact hslash d (tail ++ '"' :: rest) rfl rfl
  · rintro ⟨henclosed, rfl⟩
    induction henclosed with
    | nil => rfl
    | plain notQuote notSlash _ ih =>
      rw [List.cons_append, splitQuote_plain notQuote notSlash, ih, Option.map_some]
    | escape c _ ih => rw [List.cons_append, List.cons_append, splitQuote, ih, Option.map_some]

theorem enclosed_cons_iff {c : Char} (hquote : c ≠ '"') (hslash : c ≠ '\\') :
    Enclosed (c :: raw) ↔ Enclosed raw := by
  constructor
  · intro h
    cases h with
    | plain _ _ tail => exact tail
    | escape => exact absurd rfl hslash
  · exact .plain hquote hslash

theorem Enclosed.of_escape {c : Char} (h : Enclosed ('\\' :: c :: raw)) : Enclosed raw := by
  cases h with
  | plain _ notSlash _ => exact absurd rfl notSlash
  | escape _ tail => exact tail

/-! ### Escapes -/

theorem ofLetter?_eq_some_iff {l c : Char} : ofLetter? l = some c ↔ (l, c) ∈ letters := by
  constructor
  · intro h
    unfold ofLetter? at h
    split at h <;> cases h <;> decide
  · intro h
    have all : ∀ p ∈ letters, ofLetter? p.1 = some p.2 := by decide
    exact all (l, c) h

/-- The codes of digits follow each other, within the decimal ones and within the letters. -/
theorem isHexDigit_of_digit? {c : Char} {n : Nat} (h : Text.Hex.digit? c = some n) :
    IsHexDigit c n := by
  have hdecimal : ∀ m ∈ List.range 10, (Nat.digitChar m).toNat = m + 48 := by decide
  have hlower : ∀ m ∈ List.range 6, (Nat.digitChar (m + 10)).toNat = m + 97 := by decide
  have hupper : ∀ m ∈ List.range 6, (Nat.digitChar (m + 10)).toUpper.toNat = m + 65 := by decide
  rw [Text.Hex.digit?] at h
  split at h
  · next hdigit =>
    obtain ⟨hlow, hhigh⟩ : 48 ≤ c.toNat ∧ c.toNat ≤ 57 := Char.isDigit_iff_toNat.mp hdigit
    have hn : c.toNat - 48 = n := Option.some.inj h
    refine ⟨by omega, .inl (Char.toNat_inj.mp ?_)⟩
    rw [hdecimal n (List.mem_range.mpr (by omega))]
    omega
  split at h
  · next hletter =>
    have hlow : 97 ≤ c.toNat := UInt32.le_iff_toNat_le.mp hletter.1
    have hhigh : c.toNat ≤ 102 := UInt32.le_iff_toNat_le.mp hletter.2
    have hn : c.toNat - 97 + 10 = n := Option.some.inj h
    refine ⟨by omega, .inl (Char.toNat_inj.mp ?_)⟩
    rw [← hn, hlower _ (List.mem_range.mpr (by omega))]
    omega
  split at h
  · next hletter =>
    have hlow : 65 ≤ c.toNat := UInt32.le_iff_toNat_le.mp hletter.1
    have hhigh : c.toNat ≤ 70 := UInt32.le_iff_toNat_le.mp hletter.2
    have hn : c.toNat - 65 + 10 = n := Option.some.inj h
    refine ⟨by omega, .inr (Char.toNat_inj.mp ?_)⟩
    rw [← hn, hupper _ (List.mem_range.mpr (by omega))]
    omega
  · cases h

theorem digit?_eq_some_iff {c : Char} {n : Nat} :
    Text.Hex.digit? c = some n ↔ IsHexDigit c n := by
  constructor
  · exact isHexDigit_of_digit?
  · rintro ⟨hlt, rfl | rfl⟩
    · exact Text.Hex.digit?_digitChar hlt
    · exact Text.Hex.digit?_toUpper_digitChar hlt

theorem codeUnit?_eq_some_iff {a b c d : Char} {u : Nat} :
    codeUnit? a b c d = some u ↔ SpellsUnit [a, b, c, d] u := by
  simp only [codeUnit?, Option.bind_eq_bind, Option.bind_eq_some_iff, digit?_eq_some_iff]
  constructor
  · rintro ⟨h, ha, i, hb, j, hc, k, hd, hu⟩
    have hspells := SpellsUnit.intro ha hb hc hd
    have hsum : h * 0x1000 + i * 0x100 + j * 0x10 + k = u := by
      rw [← Option.some.inj hu]
      omega
    rwa [hsum] at hspells
  · rintro ⟨ha, hb, hc, hd⟩
    refine ⟨_, ha, _, hb, _, hc, _, hd, congrArg some ?_⟩
    omega

/-! ### Code units -/

theorem SpellsUnit.lt {digits : List Char} {u : Nat} (h : SpellsUnit digits u) : u < 0x10000 := by
  obtain ⟨⟨ha, -⟩, ⟨hb, -⟩, ⟨hc, -⟩, ⟨hd, -⟩⟩ := h
  omega

theorem toNat_ofNat {n : Nat} (h : n.isValidChar) : (Char.ofNat n).toNat = n := by
  rw [Char.ofNat, dif_pos h]
  rfl

/-- No character has a code that is a code unit of a pair. -/
theorem isSurrogate_toNat (c : Char) :
    isHighSurrogate c.toNat = false ∧ isLowSurrogate c.toNat = false := by
  have hvalid : c.toNat < 0xD800 ∨ 0xDFFF < c.toNat ∧ c.toNat < 0x110000 := c.valid
  simp only [isHighSurrogate, isLowSurrogate, Bool.and_eq_false_iff, decide_eq_false_iff_not]
  omega

/-- The code units of a character that has two. -/
theorem surrogates_spec {c : Char} (h : 0x10000 ≤ c.toNat) :
    let high := 0xD800 + (c.toNat - 0x10000) / 0x400
    let low := 0xDC00 + (c.toNat - 0x10000) % 0x400
    isHighSurrogate high = true ∧ isLowSurrogate low = true ∧ ofPair high low = c := by
  intro high low
  have hvalid : c.toNat < 0xD800 ∨ 0xDFFF < c.toNat ∧ c.toNat < 0x110000 := c.valid
  have hcode : 0x10000 + (high - 0xD800) * 0x400 + (low - 0xDC00) = c.toNat := by omega
  refine ⟨?_, ?_, ?_⟩
  · simp only [isHighSurrogate, Bool.and_eq_true, decide_eq_true_eq]
    omega
  · simp only [isLowSurrogate, Bool.and_eq_true, decide_eq_true_eq]
    omega
  · rw [ofPair, hcode, Char.ofNat_toNat]

theorem Spells.of_unit {a b c d : Char} {u : Nat} (code : codeUnit? a b c d = some u)
    (notHigh : isHighSurrogate u = false) (notLow : isLowSurrogate u = false)
    (tail : Spells raw cs) :
    Spells ('\\' :: 'u' :: a :: b :: c :: d :: raw) (Char.ofNat u :: cs) := by
  have hspells := codeUnit?_eq_some_iff.mp code
  have hlt := hspells.lt
  have hvalid : u.isValidChar := by
    simp only [isHighSurrogate, isLowSurrogate, Bool.and_eq_false_iff,
      decide_eq_false_iff_not] at notHigh notLow
    unfold Nat.isValidChar
    omega
  rw [← toNat_ofNat hvalid] at hspells
  exact .unit hspells tail

theorem Spells.of_pair {a b c d e f g h : Char} {high low : Nat}
    (first : codeUnit? a b c d = some high) (isHigh : isHighSurrogate high = true)
    (second : codeUnit? e f g h = some low) (isLow : isLowSurrogate low = true)
    (tail : Spells raw cs) :
    Spells ('\\' :: 'u' :: a :: b :: c :: d :: '\\' :: 'u' :: e :: f :: g :: h :: raw)
      (ofPair high low :: cs) := by
  have hfirst := codeUnit?_eq_some_iff.mp first
  have hsecond := codeUnit?_eq_some_iff.mp second
  simp only [isHighSurrogate, isLowSurrogate, Bool.and_eq_true, decide_eq_true_eq] at isHigh isLow
  have hcode : (ofPair high low).toNat = 0x10000 + (high - 0xD800) * 0x400 + (low - 0xDC00) := by
    refine toNat_ofNat ?_
    unfold Nat.isValidChar
    omega
  have hhigh : high = 0xD800 + ((ofPair high low).toNat - 0x10000) / 0x400 := by omega
  have hlow : low = 0xDC00 + ((ofPair high low).toNat - 0x10000) % 0x400 := by omega
  rw [hhigh] at hfirst
  rw [hlow] at hsecond
  exact Spells.pair (by omega) hfirst hsecond tail

/-! ### The text -/

/-- None of the four digits of a code unit ends or escapes anything. -/
theorem enclosed_digits_iff {digits : List Char} {u : Nat} (h : SpellsUnit digits u) :
    Enclosed (digits ++ raw) ↔ Enclosed raw := by
  have hne {c : Char} {n : Nat} (hc : IsHexDigit c n) : c ≠ '"' ∧ c ≠ '\\' := by
    rw [← digit?_eq_some_iff] at hc
    constructor
    · rintro rfl
      cases hc
    · rintro rfl
      cases hc
  obtain ⟨ha, hb, hc, hd⟩ := h
  simp only [List.cons_append, List.nil_append]
  rw [enclosed_cons_iff (hne ha).1 (hne ha).2, enclosed_cons_iff (hne hb).1 (hne hb).2,
    enclosed_cons_iff (hne hc).1 (hne hc).2, enclosed_cons_iff (hne hd).1 (hne hd).2]

theorem Spells.enclosed (h : Spells raw cs) : Enclosed raw := by
  induction h with
  | nil => exact .nil
  | plain _ notQuote notSlash _ ih => exact .plain notQuote notSlash ih
  | letter _ _ ih => exact .escape _ ih
  | unit code _ ih => exact .escape _ ((enclosed_digits_iff code).mpr ih)
  | pair _ first second _ ih =>
    have hsecond := Enclosed.escape 'u' ((enclosed_digits_iff second).mpr ih)
    exact .escape _ ((enclosed_digits_iff first).mpr hsecond)

theorem unescapeFrom_plain {c : Char} (hslash : c ≠ '\\') (hprintable : 0x20 ≤ c.toNat)
    (raw : List Char) :
    unescapeFrom none (c :: raw) = (unescapeFrom none raw).map (c :: ·) := by
  rw [unescapeFrom]
  · have hplain : (c == '\\') = false := by simpa using hslash
    simp only [Option.isSome_none, hplain, Bool.or_false, Bool.false_or, decide_eq_true_eq]
    rw [if_neg (Nat.not_lt.mpr hprintable)]
  · intro _ _ _ _ _ hc _
    exact hslash hc
  · intro _ _ hc _
    exact hslash hc

theorem unescapeFrom_letter {l c : Char} (h : ofLetter? l = some c) (raw : List Char) :
    unescapeFrom none ('\\' :: l :: raw) = (unescapeFrom none raw).map (c :: ·) := by
  rw [unescapeFrom, h]
  · rfl
  · rintro _ _ _ _ _ rfl _
    cases h

theorem unescapeFrom_unit {digits : List Char} {c : Char} (h : SpellsUnit digits c.toNat)
    (raw : List Char) :
    unescapeFrom none ('\\' :: 'u' :: (digits ++ raw)) = (unescapeFrom none raw).map (c :: ·) := by
  obtain ⟨hhigh, hlow⟩ := isSurrogate_toNat c
  generalize hu : c.toNat = u at h hhigh hlow
  cases h with
  | intro ha hb hc hd =>
    have hcode := codeUnit?_eq_some_iff.mpr (.intro ha hb hc hd)
    simp only [List.cons_append, List.nil_append]
    rw [unescapeFrom.eq_def]
    simp only [hcode, hhigh, hlow, Bool.false_eq_true, if_false]
    rw [← hu, Char.ofNat_toNat]

theorem unescapeFrom_pair {high low : List Char} {c : Char} (h : 0x10000 ≤ c.toNat)
    (hfirst : SpellsUnit high (0xD800 + (c.toNat - 0x10000) / 0x400))
    (hsecond : SpellsUnit low (0xDC00 + (c.toNat - 0x10000) % 0x400)) (raw : List Char) :
    unescapeFrom none ('\\' :: 'u' :: (high ++ '\\' :: 'u' :: (low ++ raw))) =
      (unescapeFrom none raw).map (c :: ·) := by
  obtain ⟨hhigh, hlow, hpair⟩ := surrogates_spec h
  generalize 0xD800 + (c.toNat - 0x10000) / 0x400 = u at hfirst hhigh hpair
  generalize 0xDC00 + (c.toNat - 0x10000) % 0x400 = v at hsecond hlow hpair
  obtain ⟨ha, hb, hc, hd⟩ := hfirst
  obtain ⟨he, hf, hg, hh⟩ := hsecond
  have hfirst := codeUnit?_eq_some_iff.mpr (.intro ha hb hc hd)
  have hsecond := codeUnit?_eq_some_iff.mpr (.intro he hf hg hh)
  simp only [List.cons_append, List.nil_append]
  rw [unescapeFrom.eq_def]
  simp only [hfirst, hhigh, if_true]
  rw [unescapeFrom.eq_def]
  simp only [hsecond, hlow, if_true, hpair]

theorem Spells.unescapeFrom_eq (h : Spells raw cs) : unescapeFrom none raw = some cs := by
  induction h with
  | nil => rfl
  | plain printable _ notSlash _ ih =>
    rw [unescapeFrom_plain notSlash printable, ih, Option.map_some]
  | letter escape _ ih =>
    rw [unescapeFrom_letter (ofLetter?_eq_some_iff.mpr escape), ih, Option.map_some]
  | unit code _ ih => rw [unescapeFrom_unit code, ih, Option.map_some]
  | pair beyond first second _ ih =>
    rw [unescapeFrom_pair beyond first second, ih, Option.map_some]

theorem Enclosed.of_codeUnit {a b c d : Char} {u : Nat}
    (h : Enclosed ('\\' :: 'u' :: a :: b :: c :: d :: raw)) (code : codeUnit? a b c d = some u) :
    Enclosed raw :=
  (enclosed_digits_iff (codeUnit?_eq_some_iff.mp code)).mp h.of_escape

/-- What spells a text after the first code unit of a pair: the second one, and then a text. -/
inductive SpellsAfter (high : Nat) : List Char → List Char → Prop
  | second {raw cs : List Char} {a b c d : Char} {low : Nat} (code : codeUnit? a b c d = some low)
      (isLow : isLowSurrogate low = true) (tail : Spells raw cs) :
      SpellsAfter high ('\\' :: 'u' :: a :: b :: c :: d :: raw) (ofPair high low :: cs)

theorem spells_of_unescapeFrom {high : Option Nat} (henclosed : Enclosed raw)
    (h : unescapeFrom high raw = some cs) : high.elim (Spells raw cs) (SpellsAfter · raw cs) := by
  fun_induction unescapeFrom high raw generalizing cs with
  | case1 | case3 | case5 | case7 | case9 | case11 => cases h
  | case2 high hnone =>
    cases h
    rw [Option.not_isSome_iff_eq_none.mp hnone]
    exact .nil
  | case4 a b c d raw low high hcode hlow ih =>
    obtain ⟨cs, hcs, rfl⟩ := Option.map_eq_some_iff.mp h
    exact .second hcode hlow (ih (henclosed.of_codeUnit hcode) hcs)
  | case6 a b c d raw high hcode hhigh ih =>
    cases ih (henclosed.of_codeUnit hcode) h with
    | second code isLow tail => exact .of_pair hcode hhigh code isLow tail
  | case8 a b c d raw u hcode hhigh hlow ih =>
    obtain ⟨cs, hcs, rfl⟩ := Option.map_eq_some_iff.mp h
    exact .of_unit hcode (eq_false_of_ne_true hhigh) (eq_false_of_ne_true hlow)
      (ih (henclosed.of_codeUnit hcode) hcs)
  | case10 high l raw _ hnone ih =>
    rw [Option.not_isSome_iff_eq_none.mp hnone]
    obtain ⟨c, hc, h⟩ := Option.bind_eq_some_iff.mp h
    obtain ⟨cs, hcs, rfl⟩ := Option.map_eq_some_iff.mp h
    exact .letter (ofLetter?_eq_some_iff.mp hc) (ih henclosed.of_escape hcs)
  | case12 high c raw _ hslash hplain ih =>
    simp only [Bool.or_eq_true, not_or, Option.not_isSome_iff_eq_none, beq_iff_eq,
      decide_eq_true_eq, Nat.not_lt] at hplain
    obtain ⟨⟨rfl, hnotSlash⟩, hprintable⟩ := hplain
    obtain ⟨cs, hcs, rfl⟩ := Option.map_eq_some_iff.mp h
    cases henclosed with
    | plain notQuote _ tail => exact .plain hprintable notQuote hnotSlash (ih tail hcs)
    | escape => exact absurd rfl hnotSlash

/-- A text is read up to the quote that ends it exactly if what stands before the quote spells the
text. -/
theorem exists_splitQuote_iff {s : String} :
    (∃ raw, splitQuote cs = some (raw, rest) ∧ unescape? raw = some s) ↔
      ∃ raw, cs = raw ++ '"' :: rest ∧ Spells raw s.toList := by
  refine exists_congr fun raw => ?_
  rw [splitQuote_eq_some_iff, unescape?, Option.map_eq_some_iff]
  constructor
  · rintro ⟨⟨henclosed, hcs⟩, cs, hread, rfl⟩
    rw [String.toList_ofList]
    exact ⟨hcs, spells_of_unescapeFrom henclosed hread⟩
  · rintro ⟨hcs, hspells⟩
    exact ⟨⟨hspells.enclosed, hcs⟩, s.toList, hspells.unescapeFrom_eq, String.ofList_toList⟩

end DiscountPolicy.Quoted
