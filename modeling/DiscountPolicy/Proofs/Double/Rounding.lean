import DiscountPolicy.Double.Basic
import Mathlib.Data.Nat.Dist
import Mathlib.Tactic.Ring

/-! Rounding to a magnitude: the rank that `nearestRank` gives is the rank of a nearest magnitude,
a magnitude is nearest to itself, and both depend on the ratio alone and grow with it.

Every ratio lies in one binade, where the magnitudes are `2 ^ s` units apart. All facts about the
rank come from `nearestRank_eq`, which names that binade by two bounds. -/

namespace DiscountPolicy

/-! ### The nearest whole number -/

theorem le_roundHalfEven (num den : Nat) : num / den ≤ roundHalfEven num den := by
  unfold roundHalfEven
  simp only
  split <;> omega

theorem roundHalfEven_le (num den : Nat) : roundHalfEven num den ≤ num / den + 1 := by
  unfold roundHalfEven
  simp only
  split <;> omega

theorem roundHalfEven_scale (num den : Nat) {k : Nat} (hk : 0 < k) :
    roundHalfEven (num * k) (den * k) = roundHalfEven num den := by
  have hless : 2 * (num % den * k) < den * k ↔ 2 * (num % den) < den := by
    rw [← Nat.mul_assoc]
    exact Nat.mul_lt_mul_right hk
  have hequal : 2 * (num % den * k) = den * k ↔ 2 * (num % den) = den := by
    rw [← Nat.mul_assoc]
    exact Nat.mul_left_inj (Nat.ne_of_gt hk)
  simp only [roundHalfEven, Nat.mul_div_mul_right _ _ hk, Nat.mul_mod_mul_right, hless, hequal]

theorem roundHalfEven_whole (q : Nat) {den : Nat} (hden : 0 < den) :
    roundHalfEven (q * den) den = q := by
  simp [roundHalfEven, Nat.mul_div_cancel _ hden, hden]

theorem roundHalfEven_mono {num num' : Nat} (den : Nat) (h : num ≤ num') :
    roundHalfEven num den ≤ roundHalfEven num' den := by
  rcases Nat.lt_or_eq_of_le (Nat.div_le_div_right (c := den) h) with hlt | heq
  · have hup := roundHalfEven_le num den
    have hlow := le_roundHalfEven num' den
    omega
  · have hnum := Nat.div_add_mod num den
    have hnum' := Nat.div_add_mod num' den
    rw [← heq] at hnum'
    have hrest : num % den ≤ num' % den := by omega
    simp only [roundHalfEven, ← heq]
    split <;> split <;> omega

/-- No whole number is nearer to the ratio. -/
theorem roundHalfEven_nearest (num den k : Nat) :
    Nat.dist (roundHalfEven num den * den) num ≤ Nat.dist (k * den) num := by
  have hnum := Nat.div_add_mod num den
  rw [Nat.mul_comm] at hnum
  rcases Nat.eq_zero_or_pos den with rfl | hden
  · simp
  have hlt := Nat.mod_lt num hden
  rcases Nat.lt_or_ge (num / den) k with hk | hk
  · have hmul : (num / den + 1) * den ≤ k * den := Nat.mul_le_mul_right den hk
    rw [Nat.add_mul] at hmul
    simp only [roundHalfEven, Nat.dist]
    split
    · omega
    · rw [Nat.add_mul]
      omega
  · have hmul : k * den ≤ num / den * den := Nat.mul_le_mul_right den hk
    simp only [roundHalfEven, Nat.dist]
    split
    · omega
    · rw [Nat.add_mul]
      omega

/-! ### Binades -/

/-- The ratio lies in the binade where magnitudes are `2 ^ s` units apart; the lowest binade reaches
down to zero. -/
structure InBinade (num den s : Nat) : Prop where
  low : s = 0 ∨ binade * 2 ^ s * den ≤ num
  high : num < 2 * binade * 2 ^ s * den

theorem log2_sub_of_lt {q : Nat} (h : q < 2 * binade) : q.log2 - 52 = 0 := by
  rcases Nat.eq_zero_or_pos q with rfl | hq
  · rfl
  · have hlog : q.log2 < 53 := (Nat.log2_lt (Nat.ne_of_gt hq)).mpr h
    omega

theorem log2_sub_of_binade {q s : Nat} (low : binade * 2 ^ s ≤ q)
    (high : q < 2 * binade * 2 ^ s) : q.log2 - 52 = s := by
  have hpow : binade * 2 ^ s = 2 ^ (52 + s) := by rw [Nat.pow_add]; rfl
  have hpow' : 2 * binade * 2 ^ s = 2 ^ (52 + s + 1) := by rw [Nat.pow_succ, ← hpow]; ring
  have hpos : 0 < 2 ^ (52 + s) := Nat.two_pow_pos _
  have hlog : q.log2 = 52 + s := (Nat.log2_eq_iff (by omega)).mpr ⟨by omega, by omega⟩
  omega

theorem exists_inBinade (num : Nat) {den : Nat} (hden : 0 < den) : ∃ s, InBinade num den s := by
  rcases Nat.lt_or_ge num (2 * binade * den) with hlow | hhigh
  · exact ⟨0, Or.inl rfl, by simpa using hlow⟩
  · have hq : 2 ^ 53 ≤ num / den := (Nat.le_div_iff_mul_le hden).mpr hhigh
    have hne : num / den ≠ 0 := by omega
    have hlog : 53 ≤ (num / den).log2 := (Nat.le_log2 hne).mpr hq
    have hpow : binade * 2 ^ ((num / den).log2 - 52) = 2 ^ (num / den).log2 := by
      rw [show binade = 2 ^ 52 from rfl, ← Nat.pow_add]
      congr 1
      omega
    refine ⟨(num / den).log2 - 52, Or.inr ?_, ?_⟩
    · rw [hpow]
      exact (Nat.le_div_iff_mul_le hden).mp (Nat.log2_self_le hne)
    · rw [Nat.mul_assoc 2, hpow, ← Nat.pow_succ']
      exact (Nat.div_lt_iff_lt_mul hden).mp Nat.lt_log2_self

theorem InBinade.scale {num den s k : Nat} (h : InBinade num den s) (hk : 0 < k) :
    InBinade (num * k) (den * k) s := by
  refine ⟨h.low.imp id fun hle => ?_, ?_⟩
  · rw [← Nat.mul_assoc]
    exact Nat.mul_le_mul_right k hle
  · rw [← Nat.mul_assoc]
    exact Nat.mul_lt_mul_of_pos_right h.high hk

/-- The binades lie one above the other. -/
theorem InBinade.le_of_le {num num' den s s' : Nat} (h : InBinade num den s)
    (h' : InBinade num' den s') (hle : num ≤ num') : s ≤ s' := by
  rcases h.low with rfl | hlow
  · exact Nat.zero_le s'
  · have hlt : binade * 2 ^ s * den < binade * 2 ^ (s' + 1) * den := by
      have hhigh := h'.high
      have hstep : binade * 2 ^ (s' + 1) * den = 2 * binade * 2 ^ s' * den := by
        rw [Nat.pow_succ]
        ring
      omega
    have hpow : 2 ^ s < 2 ^ (s' + 1) :=
      Nat.lt_of_mul_lt_mul_left (Nat.lt_of_mul_lt_mul_right hlt)
    have := (Nat.pow_lt_pow_iff_right (by decide)).mp hpow
    omega

theorem nearestRank_eq {num den s : Nat} (hden : 0 < den) (h : InBinade num den s) :
    nearestRank num den = s * binade + roundHalfEven num (den * 2 ^ s) := by
  have hs : (num / den).log2 - 52 = s := by
    have hhigh : num / den < 2 * binade * 2 ^ s := (Nat.div_lt_iff_lt_mul hden).mpr h.high
    rcases h.low with rfl | hlow
    · exact log2_sub_of_lt (by simpa using hhigh)
    · exact log2_sub_of_binade ((Nat.le_div_iff_mul_le hden).mpr hlow) hhigh
  simp only [nearestRank, hs, Nat.pow_eq]

/-- The steps between the lower end of a binade and the ratio, rounded, stay in the binade or reach
the lower end of the next one. -/
theorem InBinade.steps_le {num den s : Nat} (hden : 0 < den) (h : InBinade num den s) :
    roundHalfEven num (den * 2 ^ s) ≤ 2 * binade := by
  have hstep : 0 < den * 2 ^ s := Nat.mul_pos hden (Nat.two_pow_pos s)
  have hlt : num / (den * 2 ^ s) < 2 * binade := by
    refine (Nat.div_lt_iff_lt_mul hstep).mpr ?_
    rw [Nat.mul_comm den, ← Nat.mul_assoc]
    exact h.high
  have hle := roundHalfEven_le num (den * 2 ^ s)
  omega

theorem InBinade.le_steps {num den s : Nat} (hden : 0 < den) (h : InBinade num den s) :
    s = 0 ∨ binade ≤ roundHalfEven num (den * 2 ^ s) := by
  refine h.low.imp id fun hlow => ?_
  have hstep : 0 < den * 2 ^ s := Nat.mul_pos hden (Nat.two_pow_pos s)
  refine Nat.le_trans ((Nat.le_div_iff_mul_le hstep).mpr ?_) (le_roundHalfEven num (den * 2 ^ s))
  rw [Nat.mul_comm den, ← Nat.mul_assoc]
  exact hlow

/-! ### The nearest magnitude -/

/-- The magnitude `m` steps above the lower end of a binade, where one step is `2 ^ s` units. -/
theorem unitsOfRank_eq {s m : Nat} (low : s = 0 ∨ binade ≤ m) (high : m ≤ 2 * binade) :
    unitsOfRank (s * binade + m) = m * 2 ^ s := by
  have hpos : 0 < binade := by decide
  have inner : ∀ {s m : Nat}, (s = 0 ∨ binade ≤ m) → m < 2 * binade →
      unitsOfRank (s * binade + m) = m * 2 ^ s := by
    intro s m low high
    have hd : doublings (s * binade + m) = s := by
      rw [doublings, Nat.add_comm, Nat.add_mul_div_right _ _ hpos]
      rcases low with rfl | low
      · have hlt : m / binade < 2 := (Nat.div_lt_iff_lt_mul hpos).mpr high
        omega
      · have hone : m / binade = 1 := Nat.div_eq_of_lt_le (by omega) (by omega)
        omega
    simp only [unitsOfRank, hd, Nat.add_sub_cancel_left, Nat.pow_eq]
  rcases Nat.lt_or_eq_of_le high with hlt | rfl
  · exact inner low hlt
  · -- The upper end of one binade is the lower end of the next.
    have hnext := inner (s := s + 1) (m := binade) (Or.inr (Nat.le_refl _)) (by decide)
    rw [show s * binade + 2 * binade = (s + 1) * binade + binade by ring, hnext, Nat.pow_succ]
    ring

/-- Every rank lies in a binade. -/
theorem exists_steps (rank : Nat) : ∃ s m, rank = s * binade + m ∧ (s = 0 ∨ binade ≤ m) ∧
    m < 2 * binade := by
  have hrank := Nat.div_add_mod rank binade
  have hlt := Nat.mod_lt rank (show 0 < binade by decide)
  rcases Nat.eq_zero_or_pos (rank / binade) with hzero | hpos
  · refine ⟨0, rank, by simp, Or.inl rfl, ?_⟩
    rw [hzero] at hrank
    omega
  · obtain ⟨d, hd⟩ : ∃ d, rank / binade = d + 1 := ⟨rank / binade - 1, by omega⟩
    rw [hd, Nat.mul_comm, Nat.add_mul] at hrank
    exact ⟨d, binade + rank % binade, by omega, Or.inr (by omega), by omega⟩

theorem nearestRank_scale (num : Nat) {den k : Nat} (hden : 0 < den) (hk : 0 < k) :
    nearestRank (num * k) (den * k) = nearestRank num den := by
  obtain ⟨s, h⟩ := exists_inBinade num hden
  rw [nearestRank_eq hden h, nearestRank_eq (Nat.mul_pos hden hk) (h.scale hk),
    Nat.mul_right_comm, roundHalfEven_scale _ _ hk]

/-- The nearest rank depends on the ratio alone. -/
theorem nearestRank_congr {num den num' den' : Nat} (hden : 0 < den) (hden' : 0 < den')
    (h : num * den' = num' * den) : nearestRank num den = nearestRank num' den' := by
  rw [← nearestRank_scale num hden hden', ← nearestRank_scale num' hden' hden, h,
    Nat.mul_comm den' den]

/-- A greater ratio does not have a lower rank. -/
theorem nearestRank_mono {num den num' den' : Nat} (hden : 0 < den) (hden' : 0 < den')
    (h : num * den' ≤ num' * den) : nearestRank num den ≤ nearestRank num' den' := by
  rw [← nearestRank_scale num hden hden', ← nearestRank_scale num' hden' hden,
    Nat.mul_comm den' den]
  have hpos : 0 < den * den' := Nat.mul_pos hden hden'
  obtain ⟨s, hs⟩ := exists_inBinade (num * den') hpos
  obtain ⟨s', hs'⟩ := exists_inBinade (num' * den) hpos
  rw [nearestRank_eq hpos hs, nearestRank_eq hpos hs']
  rcases Nat.lt_or_eq_of_le (hs.le_of_le hs' h) with hlt | rfl
  · have hup := hs.steps_le hpos
    have hlow := (hs'.le_steps hpos).resolve_left (by omega)
    have hmul : (s + 1) * binade ≤ s' * binade := Nat.mul_le_mul_right binade hlt
    rw [Nat.add_mul] at hmul
    omega
  · exact Nat.add_le_add_left (roundHalfEven_mono _ h) _

/-- A magnitude is the nearest one to itself. -/
theorem nearestRank_unitsOfRank (rank : Nat) {den : Nat} (hden : 0 < den) :
    nearestRank (unitsOfRank rank * den) den = rank := by
  obtain ⟨s, m, rfl, low, high⟩ := exists_steps rank
  have hunits := unitsOfRank_eq low (Nat.le_of_lt high)
  have hin : InBinade (m * 2 ^ s * den) den s := by
    refine ⟨low.imp id fun hlow => ?_, ?_⟩
    · exact Nat.mul_le_mul_right den (Nat.mul_le_mul_right _ hlow)
    · exact Nat.mul_lt_mul_of_pos_right (Nat.mul_lt_mul_of_pos_right high (Nat.two_pow_pos s)) hden
  rw [hunits, nearestRank_eq hden hin, Nat.mul_assoc, Nat.mul_comm (2 ^ s),
    roundHalfEven_whole _ (Nat.mul_pos hden (Nat.two_pow_pos s))]

theorem unitsOfRank_lt_iff {rank rank' : Nat} :
    unitsOfRank rank < unitsOfRank rank' ↔ rank < rank' := by
  have hle : ∀ {a b : Nat}, unitsOfRank a ≤ unitsOfRank b → a ≤ b := by
    intro a b h
    have hmono : nearestRank (unitsOfRank a * 1) 1 ≤ nearestRank (unitsOfRank b * 1) 1 :=
      nearestRank_mono Nat.one_pos Nat.one_pos (by omega)
    rwa [nearestRank_unitsOfRank a Nat.one_pos, nearestRank_unitsOfRank b Nat.one_pos] at hmono
  constructor
  · intro h
    have hne : rank ≠ rank' := fun heq => by rw [heq] at h; exact Nat.lt_irrefl _ h
    have := hle (Nat.le_of_lt h)
    omega
  · intro h
    by_contra hnot
    have := hle (Nat.le_of_not_lt hnot)
    omega

theorem unitsOfRank_nearestRank {num den s : Nat} (hden : 0 < den) (h : InBinade num den s) :
    unitsOfRank (nearestRank num den) = roundHalfEven num (den * 2 ^ s) * 2 ^ s := by
  rw [nearestRank_eq hden h, unitsOfRank_eq (h.le_steps hden) (h.steps_le hden)]

/-- A magnitude is a whole number of the steps of a binade, or it lies below that binade. -/
theorem InBinade.unitsOfRank_cases {num den s : Nat} (hden : 0 < den) (h : InBinade num den s)
    (rank : Nat) :
    (unitsOfRank rank * den < binade * (den * 2 ^ s) ∧ binade * (den * 2 ^ s) ≤ num) ∨
      ∃ k, unitsOfRank rank * den = k * (den * 2 ^ s) := by
  obtain ⟨s', m, rfl, low, high⟩ := exists_steps rank
  rw [unitsOfRank_eq low (Nat.le_of_lt high)]
  rcases Nat.lt_or_ge s' s with hlt | hge
  · left
    have hlow := h.low.resolve_left (by omega)
    have hgrid : binade * (den * 2 ^ s) = binade * 2 ^ s * den := by ring
    rw [hgrid]
    refine ⟨Nat.mul_lt_mul_of_pos_right ?_ hden, hlow⟩
    calc m * 2 ^ s' < 2 * binade * 2 ^ s' :=
          Nat.mul_lt_mul_of_pos_right high (Nat.two_pow_pos s')
      _ = binade * 2 ^ (s' + 1) := by rw [Nat.pow_succ]; ring
      _ ≤ binade * 2 ^ s := Nat.mul_le_mul_left _ (Nat.pow_le_pow_right (by decide) hlt)
  · right
    refine ⟨m * 2 ^ (s' - s), ?_⟩
    rw [← Nat.sub_add_cancel hge, Nat.pow_add, Nat.add_sub_cancel]
    ring

theorem unitsOfRank_nearestRank_mul {num den s : Nat} (hden : 0 < den) (h : InBinade num den s) :
    unitsOfRank (nearestRank num den) * den =
      roundHalfEven num (den * 2 ^ s) * (den * 2 ^ s) := by
  rw [unitsOfRank_nearestRank hden h]
  ring

/-- No magnitude is nearer to the ratio. -/
theorem nearestRank_nearest (num rank : Nat) {den : Nat} (hden : 0 < den) :
    Nat.dist (unitsOfRank (nearestRank num den) * den) num ≤
      Nat.dist (unitsOfRank rank * den) num := by
  obtain ⟨s, h⟩ := exists_inBinade num hden
  rw [unitsOfRank_nearestRank_mul hden h]
  rcases h.unitsOfRank_cases hden rank with ⟨hbelow, hlow⟩ | ⟨k, hk⟩
  · -- The lower end of the binade lies between the magnitude and the ratio.
    have hend := roundHalfEven_nearest num (den * 2 ^ s) binade
    refine Nat.le_trans hend ?_
    simp only [Nat.dist]
    omega
  · rw [hk]
    exact roundHalfEven_nearest num (den * 2 ^ s) k

end DiscountPolicy
