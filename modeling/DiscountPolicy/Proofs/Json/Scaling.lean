import DiscountPolicy.Json.Number
import DiscountPolicy.Proofs.Decimal
import DiscountPolicy.Proofs.Double.Arithmetic

/-! The values of numerals with a fraction or an exponent. As many leading digits as 64 bits hold are
rounded, and then scaled by a power of ten that is rounded too. What comes of it is told here from
the digits and from exact values; it need not be what the exact value of the numeral rounds to. -/

namespace DiscountPolicy.Number

open Decimal
open FiniteDouble (RoundsTo)

variable {front taken left before fraction : List Char} {negative : Bool} {q r s : ℚ} {k : Nat}
  {e : Int} {x y : FiniteDouble}

/-! ### Leading digits -/

/-- Behind the digits in front, as many are taken as 64 bits hold. -/
structure Leads (front taken left : List Char) : Prop where
  holds : natOfDigits (front ++ taken) < 2 ^ 64
  full : ∀ d ∈ left.head?, 2 ^ 64 ≤ natOfDigits (front ++ taken ++ [d])

theorem leading_cons (front : List Char) (d : Char) (ds : List Char) :
    leading (natOfDigits front) (d :: ds) =
      if natOfDigits (front ++ [d]) < 2 ^ 64 then leading (natOfDigits (front ++ [d])) ds
      else (natOfDigits front, d :: ds) := by
  rw [natOfDigits_concat]
  rfl

theorem leading_of_leads (h : Leads front taken left) :
    leading (natOfDigits front) (taken ++ left) = (natOfDigits (front ++ taken), left) := by
  -- A digit that is taken stands in front of the others from then on.
  induction taken generalizing front with
  | nil =>
    rw [List.append_nil, List.nil_append]
    cases left with
    | nil => rfl
    | cons d ds =>
      have hfull := h.full d rfl
      rw [List.append_nil] at hfull
      rw [leading_cons, if_neg (Nat.not_lt.mpr hfull)]
  | cons d ds ih =>
    have hsplit : front ++ d :: ds = front ++ [d] ++ ds := by simp
    obtain ⟨hholds, hfull⟩ := h
    rw [hsplit] at hholds hfull
    have hlt := Nat.lt_of_le_of_lt (natOfDigits_le_append (front ++ [d]) ds) hholds
    rw [hsplit, List.cons_append, leading_cons, if_pos hlt]
    exact ih ⟨hholds, hfull⟩

theorem exists_leads (h : natOfDigits front < 2 ^ 64) (digits : List Char) :
    ∃ taken left, taken ++ left = digits ∧ Leads front taken left := by
  induction digits generalizing front with
  | nil =>
    refine ⟨[], [], rfl, by rwa [List.append_nil], fun d hd => ?_⟩
    cases hd
  | cons d ds ih =>
    by_cases hlt : natOfDigits (front ++ [d]) < 2 ^ 64
    · obtain ⟨taken, left, rfl, hleads⟩ := ih hlt
      refine ⟨d :: taken, left, rfl, ?_, ?_⟩
      · simpa using hleads.holds
      · simpa using hleads.full
    · refine ⟨[], d :: ds, rfl, by rwa [List.append_nil], ?_⟩
      rintro _ ⟨⟩
      rw [List.append_nil]
      exact Nat.le_of_not_lt hlt

/-! ### Scaling -/

/-- The value `r` comes of scaling `q` by a power of ten. A power up to `10 ^ 308` is rounded, and
then the product or the quotient is. Higher powers take only zero to a value; lower ones are reached
in steps of `10 ^ -308`. -/
inductive Scales : ℚ → Int → ℚ → Prop
  | up {q p r : ℚ} {k : Nat} (hk : k ≤ 308) (power : RoundsTo (10 ^ k) p)
      (product : RoundsTo (q * p) r) : Scales q k r
  | farUp {k : Nat} (hk : 308 < k) : Scales 0 k 0
  | down {q p r : ℚ} {k : Nat} (hpos : 0 < k) (hk : k ≤ 308) (power : RoundsTo (10 ^ k) p)
      (quotient : RoundsTo (q / p) r) : Scales q (-k) r
  | farDown {q p s r : ℚ} {k : Nat} (hpos : 0 < k) (power : RoundsTo (10 ^ 308) p)
      (quotient : RoundsTo (q / p) s) (rest : Scales s (-k) r) : Scales q (-(k + 308 : Nat)) r

theorem scales_natCast_iff : Scales q k r ↔
    (k ≤ 308 ∧ ∃ p, RoundsTo (10 ^ k) p ∧ RoundsTo (q * p) r) ∨ (308 < k ∧ q = 0 ∧ r = 0) := by
  constructor
  · intro h
    generalize hk : (k : Int) = e at h
    cases h with
    | up hle power product =>
      obtain rfl := Int.ofNat.inj hk
      exact .inl ⟨hle, _, power, product⟩
    | farUp hlt =>
      obtain rfl := Int.ofNat.inj hk
      exact .inr ⟨hlt, rfl, rfl⟩
    | down hpos => omega
    | farDown hpos => omega
  · rintro (⟨hk, p, power, product⟩ | ⟨hk, rfl, rfl⟩)
    · exact .up hk power product
    · exact .farUp hk

theorem scales_neg_cases (hk : 0 < k) (h : Scales q (-k) r) :
    (k ≤ 308 ∧ ∃ p, RoundsTo (10 ^ k) p ∧ RoundsTo (q / p) r) ∨
    ∃ (j : Nat) (p s : ℚ), k = j + 308 ∧ 0 < j ∧ RoundsTo (10 ^ 308) p ∧ RoundsTo (q / p) s ∧
      Scales s (-j) r := by
  generalize he : -(k : Int) = e at h
  cases h with
  | up => omega
  | farUp => omega
  | @down _ _ _ j hpos hle power quotient =>
    obtain rfl : k = j := by omega
    exact .inl ⟨hle, _, power, quotient⟩
  | @farDown _ _ _ _ j hpos power quotient rest =>
    exact .inr ⟨j, _, _, by omega, hpos, power, quotient, rest⟩

/-- Scaling gives one value at most. -/
theorem Scales.unique (h : Scales q e r) (h' : Scales q e s) : r = s := by
  induction h generalizing s with
  | up hk power product =>
    rcases scales_natCast_iff.mp h' with ⟨-, p, power', product'⟩ | ⟨hlt, -⟩
    · obtain rfl := power.unique power'
      exact product.unique product'
    · omega
  | farUp hk =>
    rcases scales_natCast_iff.mp h' with ⟨hle, -⟩ | ⟨-, -, rfl⟩
    · omega
    · rfl
  | down hpos hk power quotient =>
    rcases scales_neg_cases hpos h' with ⟨-, p, power', quotient'⟩ | ⟨j, _, _, rfl, hj, -⟩
    · obtain rfl := power.unique power'
      exact quotient.unique quotient'
    · omega
  | @farDown _ _ _ _ k hpos power quotient _ ih =>
    rcases scales_neg_cases (by omega) h' with ⟨hle, -⟩ | ⟨j, p, t, hj, -, power', quotient', rest'⟩
    · omega
    · obtain rfl : k = j := by omega
      obtain rfl := power.unique power'
      obtain rfl := quotient.unique quotient'
      exact ih rest'

/-! #### The powers of ten -/

theorem ten_pow_lt_limit (hk : k ≤ 308) : 10 ^ k < 2 ^ 1024 - 2 ^ 970 := by
  have hlimit : 10 ^ 308 < 2 ^ 1024 - 2 ^ 970 := by decide +kernel
  have hpow : 10 ^ k ≤ 10 ^ 308 := pow_le_pow_right₀ (by decide) hk
  exact hpow.trans_lt hlimit

theorem isRounded_power (hk : k ≤ 308) : (power k).IsRounded (10 ^ k) := by
  have hrounded := FiniteDouble.isRounded_ofNat (ten_pow_lt_limit hk)
  rwa [Nat.cast_pow, Nat.cast_ofNat] at hrounded

theorem roundsTo_power (hk : k ≤ 308) : RoundsTo (10 ^ k) (power k).value :=
  FiniteDouble.roundsTo_value_iff.mpr (isRounded_power hk)

theorem one_le_value_power (hk : k ≤ 308) : 1 ≤ (power k).value := by
  obtain ⟨one, hone, hvalue⟩ := FiniteDouble.roundsTo_one
  rw [← hvalue]
  exact hone.value_mono (isRounded_power hk) (one_le_pow₀ (by norm_num))

/-- The quotient by a power of ten is no greater than what is divided, so it is in range. -/
theorem isRounded_div_power (x : FiniteDouble) (hk : k ≤ 308) :
    (x.div (power k)).IsRounded (x.value / (power k).value) := by
  have hone := one_le_value_power hk
  have hpos : 0 < (power k).value := by linarith
  refine FiniteDouble.isRounded_div hpos.ne' ?_
  rw [abs_div, abs_of_pos hpos]
  exact (div_le_self (abs_nonneg _) hone).trans_lt x.abs_value_lt

/-! #### Scaling in floating-point arithmetic -/

theorem negative_scaleDown (x : FiniteDouble) (k : Nat) : (scaleDown x k).negative = x.negative := by
  fun_induction scaleDown x k with
  | case1 x k hk => exact Bool.bne_false _
  | case2 x k hk hzero => rfl
  | case3 x k hk hzero ih => exact ih.trans (Bool.bne_false _)

/-- Zero stays zero. -/
theorem scales_zero (hpos : 0 < k) : Scales 0 (-k) 0 := by
  have hzero (j : Nat) : RoundsTo (0 / (power j).value) 0 := by
    rw [zero_div]
    exact FiniteDouble.roundsTo_zero
  induction k using Nat.strong_induction_on with
  | _ k ih =>
    rcases Nat.lt_or_ge 308 k with hlt | hle
    · obtain ⟨j, rfl⟩ : ∃ j, k = j + 308 := ⟨k - 308, by omega⟩
      have hj : 0 < j := by omega
      exact .farDown hj (roundsTo_power (Nat.le_refl _)) (hzero 308) (ih j (by omega) hj)
    · exact .down hpos hle (roundsTo_power hle) (hzero k)

theorem scales_scaleDown (x : FiniteDouble) (hpos : 0 < k) :
    Scales x.value (-k) (scaleDown x k).value := by
  have hquotient {j : Nat} (x : FiniteDouble) (hj : j ≤ 308) :
      RoundsTo (x.value / (power j).value) (x.div (power j)).value :=
    FiniteDouble.roundsTo_value_iff.mpr (isRounded_div_power x hj)
  fun_induction scaleDown x k with
  | case1 x k hk => exact .down hpos hk (roundsTo_power hk) (hquotient x hk)
  | case2 x k hk hzero =>
    rw [FiniteDouble.isZero_iff.mp hzero]
    exact scales_zero hpos
  | case3 x k hk hzero ih =>
    obtain ⟨j, rfl⟩ : ∃ j, k = j + 308 := ⟨k - 308, by omega⟩
    have hj : 0 < j := by omega
    rw [Nat.add_sub_cancel] at ih ⊢
    exact .farDown hj (roundsTo_power (Nat.le_refl _)) (hquotient x (Nat.le_refl _)) (ih hj)

theorem scaleUp?_eq_some_iff (hx : x.negative = false) : scaleUp? x k = some y ↔
    y.negative = false ∧ Scales x.value k y.value := by
  rw [scaleUp?, scales_natCast_iff]
  split
  · next hk =>
    have hsign : (x.negative != (power k).negative) = false := by
      rw [hx]
      rfl
    rw [FiniteDouble.mul?_eq_some_iff, hsign, ← FiniteDouble.roundsTo_value_iff]
    refine and_congr_right fun _ => ⟨fun h => .inl ⟨hk, _, roundsTo_power hk, h⟩, ?_⟩
    rintro (⟨-, p, hpower, hproduct⟩ | ⟨hlt, -⟩)
    · rwa [(roundsTo_power hk).unique hpower]
    · omega
  · next hk =>
    split
    · next hzero =>
      rw [Option.some.injEq]
      constructor
      · rintro rfl
        have hvalue := FiniteDouble.isZero_iff.mp hzero
        exact ⟨hx, .inr ⟨by omega, hvalue, hvalue⟩⟩
      · rintro ⟨hy, ⟨hle, -⟩ | ⟨-, hx0, hy0⟩⟩
        · omega
        · exact FiniteDouble.eq_of_value_eq (hx.trans hy.symm) (hx0.trans hy0.symm)
    · next hzero =>
      refine iff_of_false nofun ?_
      rintro ⟨-, ⟨hle, -⟩ | ⟨-, hx0, -⟩⟩
      · omega
      · exact hzero (FiniteDouble.isZero_iff.mpr hx0)

/-- The magnitude that comes of scaling, before it gets its sign. -/
def scale? (x : FiniteDouble) (e : Int) : Option FiniteDouble :=
  if 0 ≤ e then scaleUp? x e.toNat else some (scaleDown x (-e).toNat)

theorem scale?_eq_some_iff (hx : x.negative = false) : scale? x e = some y ↔
    y.negative = false ∧ Scales x.value e y.value := by
  rw [scale?]
  split
  · next he =>
    rw [scaleUp?_eq_some_iff hx, Int.toNat_of_nonneg he]
  · next he =>
    obtain ⟨k, rfl⟩ : ∃ k : Nat, e = -k := ⟨(-e).toNat, by omega⟩
    have hscales := scales_scaleDown x (show 0 < k by omega)
    have hsign := (negative_scaleDown x k).trans hx
    rw [Int.neg_neg, Int.toNat_natCast, Option.some.injEq]
    constructor
    · rintro rfl
      exact ⟨hsign, hscales⟩
    · rintro ⟨hy, h⟩
      exact FiniteDouble.eq_of_value_eq (hsign.trans hy.symm) (hscales.unique h)

/-- The number of this sign whose magnitude comes of the digits' number by rounding and scaling. -/
theorem scaled?_eq_some_iff {significand : Nat} {n : Number} (h : significand < 2 ^ 64) :
    scaled? negative significand e = some n ↔ ∃ x s, n = .real x ∧ x.negative = negative ∧
      RoundsTo significand s ∧ Scales s e |x.value| := by
  have hrounded : RoundsTo significand (FiniteDouble.ofNat significand).value := by
    have hlimit : 2 ^ 64 < 2 ^ 1024 - 2 ^ 970 := by decide +kernel
    exact FiniteDouble.roundsTo_value_iff.mpr (FiniteDouble.isRounded_ofNat (h.trans hlimit))
  have hscale : scaled? negative significand e =
      (scale? (.ofNat significand) e).map fun m => .real { m with negative } := rfl
  rw [hscale, Option.map_eq_some_iff]
  constructor
  · rintro ⟨m, hm, rfl⟩
    obtain ⟨hsign, hscales⟩ := (scale?_eq_some_iff rfl).mp hm
    refine ⟨_, _, rfl, rfl, hrounded, ?_⟩
    rwa [FiniteDouble.abs_value_with, abs_of_nonneg (FiniteDouble.value_nonneg hsign)]
  · rintro ⟨x, s, rfl, rfl, hs, hscales⟩
    refine ⟨{ x with negative := false }, (scale?_eq_some_iff rfl).mpr ⟨rfl, ?_⟩, rfl⟩
    have hvalue := x.abs_value_with false
    rw [abs_of_nonneg (FiniteDouble.value_nonneg rfl)] at hvalue
    rwa [hvalue, hrounded.unique hs]

/-! ### Numerals -/

/-- The number for digits before and after the point and an exponent. Digits before the point that
are dropped count as powers of ten, and so do, the other way, those that are taken after it. -/
inductive SpellsReal (negative : Bool) : List Char → List Char → Int → FiniteDouble → Prop
  | intro {whole dropped read unread : List Char} {e : Int} {s : ℚ} {x : FiniteDouble}
      (hwhole : Leads [] whole dropped) (hread : Leads whole read unread)
      (significand : RoundsTo (natOfDigits (whole ++ read)) s)
      (scales : Scales s (e + dropped.length - read.length) |x.value|)
      (sign : x.negative = negative) :
      SpellsReal negative (whole ++ dropped) (read ++ unread) e x

theorem real?_of_leads {whole dropped read unread : List Char} (hwhole : Leads [] whole dropped)
    (hread : Leads whole read unread) :
    real? negative (whole ++ dropped) (read ++ unread) e =
      scaled? negative (natOfDigits (whole ++ read)) (e + dropped.length - read.length) := by
  have hfirst := leading_of_leads hwhole
  have hlength : ((read ++ unread).length - unread.length : Nat) = read.length := by simp
  rw [List.nil_append] at hfirst
  rw [real?, show leading 0 (whole ++ dropped) = _ from hfirst]
  simp only [leading_of_leads hread, hlength]

theorem real?_eq_some_iff {n : Number} : real? negative before fraction e = some n ↔
    ∃ x, n = .real x ∧ SpellsReal negative before fraction e x := by
  constructor
  · intro h
    obtain ⟨whole, dropped, rfl, hwhole⟩ := @exists_leads [] (by decide) before
    obtain ⟨read, unread, rfl, hread⟩ := exists_leads (by simpa using hwhole.holds) fraction
    rw [real?_of_leads hwhole hread] at h
    obtain ⟨x, s, rfl, hsign, hs, hscales⟩ := (scaled?_eq_some_iff hread.holds).mp h
    exact ⟨x, rfl, .intro hwhole hread hs hscales hsign⟩
  · rintro ⟨x, rfl, hwhole, hread, hs, hscales, hsign⟩
    rw [real?_of_leads hwhole hread, scaled?_eq_some_iff hread.holds]
    exact ⟨x, _, rfl, hsign, hs, hscales⟩

end DiscountPolicy.Number
