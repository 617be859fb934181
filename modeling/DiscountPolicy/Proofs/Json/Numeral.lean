import DiscountPolicy.Proofs.Decimal.Grammar
import DiscountPolicy.Proofs.Json.Scaling

/-! The grammar of numbers in structured data. What is read is exactly what spells a number that is
not past the largest magnitude: a minus sign that may be missing, digits without a needless zero, and
a fraction and an exponent, each of which may be missing. The number that a numeral spells is told
from its digits and from exact values. -/

namespace DiscountPolicy.Number

open Decimal

variable {cs digits : List Char} {negative : Bool} {n : Number}

/-! ### The grammar -/

/-- Digits, at least one, and no zero in front of others. -/
structure IsWholePart (digits : List Char) : Prop where
  isDigits : IsDigits digits
  ne_nil : digits ≠ []
  noNeedlessZero : ∀ rest, digits = '0' :: rest → rest = []

/-- The whole number of digits behind a sign. -/
def signed (negative : Bool) (digits : List Char) : Int :=
  if negative then -(natOfDigits digits : Int) else natOfDigits digits

/-- The whole number fits into 64 bits, and it is not minus zero. -/
structure IsWord (negative : Bool) (digits : List Char) : Prop where
  fits : FitsWord (signed negative digits)
  notMinusZero : negative = true → natOfDigits digits ≠ 0

/-- A point with digits after it, or neither. -/
inductive SpellsFraction : List Char → List Char → Prop
  | missing : SpellsFraction [] []
  | point {digits : List Char} (hne : digits ≠ []) (hdigits : IsDigits digits) :
      SpellsFraction ('.' :: digits) digits

/-- A numeral and its number. Without a fraction and an exponent it is a whole number if 64 bits hold
it; any other numeral is a floating-point number. -/
inductive Spells : List Char → Number → Prop
  | whole {digits : List Char} {negative : Bool} (hwhole : IsWholePart digits)
      (word : IsWord negative digits) :
      Spells (signChars negative ++ digits) (.whole (signed negative digits) word.fits)
  | real {before point fraction tail : List Char} {negative : Bool} {e : Int} {x : FiniteDouble}
      (hwhole : IsWholePart before) (hfraction : SpellsFraction point fraction)
      (hexponent : SpellsExponent tail e) (notWord : point ++ tail = [] → ¬IsWord negative before)
      (value : SpellsReal negative before fraction e x) :
      Spells (signChars negative ++ (before ++ (point ++ tail))) (.real x)

/-! ### Whole numbers -/

theorem isWholePart_iff : IsWholePart digits ↔ IsDigits digits ∧ isWholePart digits = true := by
  have hzero : digits ≠ [] → ((∀ rest, digits = '0' :: rest → rest = []) ↔
      digits.length = 1 ∨ digits.head? ≠ some '0') := by
    intro hne
    obtain ⟨d, ds, rfl⟩ := List.exists_cons_of_ne_nil hne
    by_cases hd : d = '0' <;> simp [hd]
  simp only [isWholePart, Bool.and_eq_true, Bool.or_eq_true, decide_eq_true_iff]
  constructor
  · rintro ⟨hdigits, hne, hlead⟩
    exact ⟨hdigits, hne, (hzero hne).mp hlead⟩
  · rintro ⟨hdigits, hne, hlead⟩
    exact ⟨hdigits, hne, (hzero hne).mpr hlead⟩

theorem whole?_of_isWord (word : IsWord negative digits) :
    whole? negative digits = some (.whole (signed negative digits) word.fits) := by
  cases negative with
  | false =>
    rw [whole?, dif_pos ⟨rfl, word.fits⟩]
    rfl
  | true =>
    have hne : (natOfDigits digits : Int) ≠ 0 := Int.natCast_ne_zero.mpr (word.notMinusZero rfl)
    rw [whole?, dif_neg (fun h => nomatch h.1), dif_pos ⟨rfl, hne, word.fits⟩]
    rfl

theorem whole?_of_not_isWord (h : ¬IsWord negative digits) :
    whole? negative digits = real? negative digits [] 0 := by
  rw [whole?, dif_neg, dif_neg]
  · rintro ⟨rfl, hne, fits⟩
    exact h ⟨fits, fun _ => Int.natCast_ne_zero.mp hne⟩
  · rintro ⟨rfl, fits⟩
    exact h ⟨fits, fun hfalse => nomatch hfalse⟩

/-! ### Numerals -/

/-- The number for the digits before the point and what follows them. -/
def afterWhole? (negative : Bool) (before : List Char) : List Char → Option Number
  | [] => whole? negative before
  | '.' :: rest =>
    let fraction := rest.takeWhile Char.isDigit
    if fraction = [] then none
    else (exponent? (rest.dropWhile Char.isDigit)).bind (real? negative before fraction)
  | rest => (exponent? rest).bind (real? negative before [])

/-- The number of a numeral without its sign. -/
def unsigned? (negative : Bool) (body : List Char) : Option Number :=
  let before := body.takeWhile Char.isDigit
  if !isWholePart before then none
  else afterWhole? negative before (body.dropWhile Char.isDigit)

theorem ofChars?_unsigned {body : List Char} (h : ∀ rest, body ≠ '-' :: rest) :
    ofChars? body = unsigned? false body := by
  rw [ofChars?]
  · rfl
  · exact h

theorem exists_unsigned? (cs : List Char) :
    ∃ negative body, cs = signChars negative ++ body ∧ ofChars? cs = unsigned? negative body := by
  by_cases h : ∃ rest, cs = '-' :: rest
  · obtain ⟨rest, rfl⟩ := h
    exact ⟨true, rest, rfl, rfl⟩
  · exact ⟨false, cs, rfl, ofChars?_unsigned (not_exists.mp h)⟩

/-- A sign is not taken for a part of the digits after it. -/
theorem ofChars?_signChars {before rest : List Char} (negative : Bool)
    (hwhole : IsWholePart before) :
    ofChars? (signChars negative ++ (before ++ rest)) = unsigned? negative (before ++ rest) := by
  cases negative with
  | true => rfl
  | false =>
    refine ofChars?_unsigned fun tail htail => ?_
    obtain ⟨d, ds, rfl⟩ := List.exists_cons_of_ne_nil hwhole.ne_nil
    have hd := hwhole.isDigits d List.mem_cons_self
    rw [(List.cons.inj htail).1] at hd
    cases hd

theorem unsigned?_append {before rest : List Char} (negative : Bool) (hwhole : IsWholePart before)
    (hrest : Stops Char.isDigit rest) :
    unsigned? negative (before ++ rest) = afterWhole? negative before rest := by
  obtain ⟨hdigits, hlead⟩ := isWholePart_iff.mp hwhole
  simp only [unsigned?, takeWhile_append_stops hdigits hrest, dropWhile_append_stops hdigits hrest,
    hlead, Bool.not_true, Bool.false_eq_true, if_false]

theorem afterWhole?_exponent {before rest : List Char} (hne : rest ≠ [])
    (hpoint : Stops (· == '.') rest) :
    afterWhole? negative before rest = (exponent? rest).bind (real? negative before []) := by
  unfold afterWhole?
  split
  · exact absurd rfl hne
  · exact absurd (hpoint '.' rfl) (by decide)
  · rfl

/-- What follows the digits before the point gives their number, or the fraction and the exponent of
one. -/
theorem afterWhole?_append {before point fraction tail : List Char} {e : Int}
    (hfraction : SpellsFraction point fraction) (hexponent : SpellsExponent tail e)
    (hne : point ++ tail ≠ []) :
    afterWhole? negative before (point ++ tail) = real? negative before fraction e := by
  obtain ⟨hdigit, hpoint⟩ := hexponent.stops
  have hexponent := exponent?_eq_some_iff.mpr hexponent
  cases hfraction with
  | missing =>
    rw [List.nil_append] at hne ⊢
    rw [afterWhole?_exponent hne hpoint, hexponent, Option.bind_some]
  | point hsome hfraction =>
    rw [List.cons_append, afterWhole?]
    simp only [takeWhile_append_stops hfraction hdigit, dropWhile_append_stops hfraction hdigit]
    rw [if_neg hsome, hexponent, Option.bind_some]

theorem exists_of_afterWhole? {before rest : List Char} (hne : rest ≠ [])
    (h : afterWhole? negative before rest = some n) :
    ∃ point fraction tail e, rest = point ++ tail ∧ SpellsFraction point fraction ∧
      SpellsExponent tail e ∧ real? negative before fraction e = some n := by
  unfold afterWhole? at h
  split at h
  · exact absurd rfl hne
  · next rest =>
    simp only at h
    split at h
    · cases h
    · next hsome =>
      obtain ⟨e, he, hvalue⟩ := Option.bind_eq_some_iff.mp h
      have hfraction := SpellsFraction.point hsome fun c hc => List.mem_takeWhile_imp hc
      refine ⟨_, _, _, e, ?_, hfraction, exponent?_eq_some_iff.mp he, hvalue⟩
      rw [List.cons_append, List.takeWhile_append_dropWhile]
  · obtain ⟨e, he, hvalue⟩ := Option.bind_eq_some_iff.mp h
    exact ⟨[], [], rest, e, rfl, .missing, exponent?_eq_some_iff.mp he, hvalue⟩

theorem SpellsFraction.stops {point fraction tail : List Char} (h : SpellsFraction point fraction)
    (htail : Stops Char.isDigit tail) : Stops Char.isDigit (point ++ tail) := by
  cases h with
  | missing => exact htail
  | point _ _ => exact Stops.cons _ (by decide)

theorem Spells.ofChars?_eq (h : Spells cs n) : ofChars? cs = some n := by
  cases h with
  | @whole digits negative hwhole word =>
    have hsplit := @ofChars?_signChars digits [] negative hwhole
    rw [unsigned?_append negative hwhole Stops.nil, List.append_nil] at hsplit
    exact hsplit.trans (whole?_of_isWord word)
  | @real before point fraction tail negative e x hwhole hfraction hexponent notWord value =>
    have hvalue := real?_eq_some_iff.mpr ⟨x, rfl, value⟩
    rw [ofChars?_signChars negative hwhole,
      unsigned?_append negative hwhole (hfraction.stops hexponent.stops.1)]
    by_cases hnil : point ++ tail = []
    · obtain ⟨rfl, rfl⟩ := List.append_eq_nil_iff.mp hnil
      cases hfraction with
      | missing =>
        cases hexponent with
        | missing => exact (whole?_of_not_isWord (notWord hnil)).trans hvalue
    · rw [afterWhole?_append hfraction hexponent hnil, hvalue]

theorem spells_of_afterWhole? {before rest : List Char} (hwhole : IsWholePart before)
    (h : afterWhole? negative before rest = some n) :
    Spells (signChars negative ++ (before ++ rest)) n := by
  by_cases hnil : rest = []
  · obtain rfl := hnil
    rw [List.append_nil]
    by_cases word : IsWord negative before
    · obtain rfl := Option.some.inj ((whole?_of_isWord word).symm.trans h)
      exact .whole hwhole word
    · obtain ⟨x, rfl, hx⟩ := real?_eq_some_iff.mp ((whole?_of_not_isWord word).symm.trans h)
      have hspells := Spells.real hwhole .missing .missing (fun _ => word) hx
      rwa [List.append_nil, List.append_nil] at hspells
  · obtain ⟨point, fraction, tail, e, rfl, hfraction, hexponent, hvalue⟩ :=
      exists_of_afterWhole? hnil h
    obtain ⟨x, rfl, hx⟩ := real?_eq_some_iff.mp hvalue
    exact .real hwhole hfraction hexponent (fun h => absurd h hnil) hx

theorem spells_of_unsigned? {body : List Char} (h : unsigned? negative body = some n) :
    Spells (signChars negative ++ body) n := by
  have hdigits : IsDigits (body.takeWhile Char.isDigit) := fun c hc => List.mem_takeWhile_imp hc
  simp only [unsigned?] at h
  split at h
  · cases h
  · next hlead =>
    have hwhole := isWholePart_iff.mpr ⟨hdigits, by simpa using hlead⟩
    have hspells := spells_of_afterWhole? hwhole h
    rwa [List.takeWhile_append_dropWhile] at hspells

/-- A text is read as a number exactly if it spells that number. -/
theorem ofChars?_eq_some_iff : ofChars? cs = some n ↔ Spells cs n := by
  constructor
  · intro h
    obtain ⟨negative, body, rfl, hbody⟩ := exists_unsigned? cs
    exact spells_of_unsigned? (hbody ▸ h)
  · exact Spells.ofChars?_eq

end DiscountPolicy.Number
