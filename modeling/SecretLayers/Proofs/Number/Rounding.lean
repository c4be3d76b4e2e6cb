import Mathlib.Tactic.Ring
import SecretLayers.Number.Binary64
/-!
Where rounding to a double reaches a power of two. A quotient is rounded on a grid whose
steps are a power of two of the least positive double; below a power of two the grid has
at least 53 bits, so that the last half step before the power belongs to it.
-/
namespace SecretLayers.Binary64
set_option autoImplicit false

/-! ## Nearest integers -/

section
variable {num den n : Nat}

theorem quotient_le_roundQuotient : num / den ≤ roundQuotient num den := by
  simp only [roundQuotient]
  split
  · exact Nat.le_refl _
  · split
    · exact Nat.le_succ _
    · split
      · exact Nat.le_refl _
      · exact Nat.le_succ _

/-- An even integer is reached from the half before it on. -/
theorem roundQuotient_lt_iff (pos : 0 < den) (even : n % 2 = 0) :
    roundQuotient num den < n ↔ 2 * num + den < 2 * (n * den) := by
  have hnum := Nat.div_add_mod' num den
  have hrem := Nat.mod_lt num pos
  simp only [roundQuotient]
  generalize num / den = q at hnum ⊢
  generalize num % den = r at hnum hrem ⊢
  have above (k : Nat) (h : q + k ≤ n) : q * den + k * den ≤ n * den := by
    rw [← Nat.add_mul]
    exact Nat.mul_le_mul_right den h
  have below (k : Nat) (h : n ≤ q + k) : n * den ≤ q * den + k * den := by
    rw [← Nat.add_mul]
    exact Nat.mul_le_mul_right den h
  have a1 := above 1
  have a2 := above 2
  have b0 := below 0
  have b1 := below 1
  generalize q * den = a at *
  generalize n * den = b at *
  split
  · omega
  · split
    · omega
    · split
      · omega
      · omega

theorem roundQuotient_le (pos : 0 < den) (h : num ≤ n * den) : roundQuotient num den ≤ n := by
  have hnum := Nat.div_add_mod' num den
  simp only [roundQuotient]
  generalize num % den = r at hnum ⊢
  have hq : num / den ≤ n := Nat.div_le_of_le_mul (by rw [Nat.mul_comm]; exact h)
  generalize num / den = q at hnum hq ⊢
  rcases Nat.lt_or_eq_of_le hq with hlt | rfl
  · split
    · exact hq
    · split
      · exact hlt
      · split
        · exact hq
        · exact hlt
  · have hr : r = 0 := by omega
    subst hr
    rw [if_pos (by omega)]

end

/-! ## The grid -/

/-- The scale at which a quotient is rounded. -/
def gridScale (num den : Nat) : Nat := (num / den).log2 - 52

/-- A quotient after rounding, whether or not it is too great to be a double. -/
def rounded (num den : Nat) : Nat :=
  roundQuotient num (den * 2 ^ gridScale num den) * 2 ^ gridScale num den

def significand : Binary64 → Nat
  | .finite _ m _ => m
  | _ => 0

/-- At most 53 bits of significand, as every double has. -/
structure IsPrecise (x : Binary64) : Prop where
  significand_lt : x.significand < 2 ^ 53

section
variable {num den : Nat}

theorem num_lt_grid (pos : 0 < den) : num < 2 ^ 53 * (den * 2 ^ gridScale num den) := by
  have hlog : num / den < 2 ^ ((num / den).log2 + 1) := Nat.lt_log2_self
  have hscale : (num / den).log2 + 1 ≤ 53 + gridScale num den := by
    unfold gridScale
    omega
  have hq : num / den < 2 ^ (53 + gridScale num den) :=
    Nat.lt_of_lt_of_le hlog (Nat.pow_le_pow_right (by omega) hscale)
  have hnum := (Nat.div_lt_iff_lt_mul pos).1 hq
  rw [Nat.pow_add] at hnum
  calc num < 2 ^ 53 * 2 ^ gridScale num den * den := hnum
    _ = 2 ^ 53 * (den * 2 ^ gridScale num den) := by ring

theorem significand_le (pos : 0 < den) :
    roundQuotient num (den * 2 ^ gridScale num den) ≤ 2 ^ 53 :=
  roundQuotient_le (Nat.mul_pos pos (Nat.two_pow_pos _)) (Nat.le_of_lt (num_lt_grid pos))

/-- Above the least grid the first bit of the significand is set. -/
theorem le_significand (h : gridScale num den ≠ 0) :
    2 ^ 52 ≤ roundQuotient num (den * 2 ^ gridScale num den) := by
  have hne : num / den ≠ 0 := by
    intro h0
    simp [gridScale, h0] at h
  have hscale : (num / den).log2 = 52 + gridScale num den := by
    unfold gridScale at h ⊢
    omega
  have hq : 2 ^ 52 * 2 ^ gridScale num den ≤ num / den := by
    rw [← Nat.pow_add, ← hscale]
    exact Nat.log2_self_le hne
  refine Nat.le_trans ?_ quotient_le_roundQuotient
  rw [← Nat.div_div_eq_div_mul]
  exact (Nat.le_div_iff_mul_le (Nat.two_pow_pos _)).2 hq

variable (num) in
/-- Below a power of two the last half step of its grid is rounded up to it. -/
theorem rounded_lt_iff (pos : 0 < den) {k : Nat} (hk : 54 ≤ k) :
    rounded num den < 2 ^ k ↔ num + den * 2 ^ (k - 54) < den * 2 ^ k := by
  unfold rounded
  have grid : num < 2 ^ 53 * (den * 2 ^ gridScale num den) := num_lt_grid pos
  have bounded : roundQuotient num (den * 2 ^ gridScale num den) ≤ 2 ^ 53 := significand_le pos
  have hpos : 0 < 2 ^ gridScale num den := Nat.two_pow_pos _
  rcases Nat.lt_trichotomy (gridScale num den) (k - 53) with hlt | heq | hgt
  · -- The grid ends below the power, and so does the quotient.
    have hpow : 2 ^ gridScale num den ≤ 2 ^ (k - 54) := Nat.pow_le_pow_right (by omega) (by omega)
    have hsum : 2 ^ k = 2 ^ 54 * 2 ^ (k - 54) := by
      rw [← Nat.pow_add]
      congr 1
      omega
    have hrounded := Nat.mul_le_mul bounded hpow
    have hquotient := Nat.mul_le_mul_left (2 ^ 53) (Nat.mul_le_mul_left den hpow)
    have hden : 0 < den * 2 ^ (k - 54) := Nat.mul_pos pos (Nat.two_pow_pos _)
    have hwhole : den * 2 ^ k = 2 ^ 54 * (den * 2 ^ (k - 54)) := by rw [hsum]; ring
    have hstep : 0 < 2 ^ (k - 54) := Nat.two_pow_pos _
    constructor
    · intro _
      omega
    · intro _
      omega
  · have hsum : 2 ^ k = 2 ^ 53 * 2 ^ gridScale num den := by
      rw [← Nat.pow_add]
      congr 1
      omega
    have hhalf : 2 ^ gridScale num den = 2 * 2 ^ (k - 54) := by
      rw [← Nat.pow_succ']
      congr 1
      omega
    rw [hsum, Nat.mul_lt_mul_right hpos,
      roundQuotient_lt_iff (Nat.mul_pos pos hpos) (by norm_num), hhalf]
    have hhalfden : den * (2 * 2 ^ (k - 54)) = 2 * (den * 2 ^ (k - 54)) := by ring
    have hwhole : den * (2 ^ 53 * (2 * 2 ^ (k - 54))) = 2 ^ 53 * (2 * (den * 2 ^ (k - 54))) := by ring
    rw [hhalfden, hwhole]
    generalize den * 2 ^ (k - 54) = d
    omega
  · -- The quotient is beyond the power already.
    have hk52 : 2 ^ k ≤ 2 ^ 52 * 2 ^ gridScale num den := by
      rw [← Nat.pow_add]
      exact Nat.pow_le_pow_right (by omega) (by omega)
    have hsignificand : 2 ^ 52 ≤ roundQuotient num (den * 2 ^ gridScale num den) :=
      le_significand (by omega)
    have hge := Nat.mul_le_mul_right (2 ^ gridScale num den) hsignificand
    have hlog : 2 ^ k ≤ num / den := by
      have hne : num / den ≠ 0 := by
        intro h0
        simp [gridScale, h0] at hgt
      refine Nat.le_trans ?_ (Nat.log2_self_le hne)
      refine Nat.pow_le_pow_right (by omega) ?_
      unfold gridScale at hgt
      omega
    have hnum := (Nat.le_div_iff_mul_le pos).1 hlog
    rw [Nat.mul_comm] at hnum
    constructor
    · intro h
      omega
    · intro h
      omega

theorem rounded_le (pos : 0 < den) {k : Nat} (hk : 53 ≤ k) (h : num ≤ den * 2 ^ k) :
    rounded num den ≤ 2 ^ k := by
  have hpos : 0 < 2 ^ gridScale num den := Nat.two_pow_pos _
  have hle : gridScale num den ≤ k := by
    have hq : num / den ≤ 2 ^ k := Nat.div_le_of_le_mul h
    unfold gridScale
    have hlog : (num / den).log2 ≤ k := by
      rcases Nat.eq_zero_or_pos (num / den) with h0 | hne
      · simp [h0]
      · refine (Nat.pow_le_pow_iff_right (by omega : 1 < 2)).1 (Nat.le_trans (Nat.log2_self_le (by omega)) hq)
    omega
  have hsplit : 2 ^ k = 2 ^ (k - gridScale num den) * 2 ^ gridScale num den := by
    rw [← Nat.pow_add]
    congr 1
    omega
  unfold rounded
  rw [hsplit]
  refine Nat.mul_le_mul_right _ (roundQuotient_le (Nat.mul_pos pos hpos) ?_)
  calc num ≤ den * 2 ^ k := h
    _ = 2 ^ (k - gridScale num den) * (den * 2 ^ gridScale num den) := by rw [hsplit]; ring

end

/-! ## Rounded doubles -/

/-- A significand of one bit more than a double has is halved. -/
theorem ofUnits_of_full (negative : Bool) {num den : Nat}
    (h : roundQuotient num (den * 2 ^ gridScale num den) = 2 ^ 53) :
    ofUnits negative num den =
      if 2045 < gridScale num den + 1 then .infinity negative
      else .finite negative (2 ^ 52) (gridScale num den + 1) := by
  unfold gridScale at h ⊢
  simp only [ofUnits, Nat.pow_eq, if_pos h]

theorem ofUnits_of_not_full (negative : Bool) {num den : Nat}
    (h : roundQuotient num (den * 2 ^ gridScale num den) ≠ 2 ^ 53) :
    ofUnits negative num den =
      if 2045 < gridScale num den then .infinity negative
      else .finite negative (roundQuotient num (den * 2 ^ gridScale num den)) (gridScale num den) := by
  unfold gridScale at h ⊢
  simp only [ofUnits, Nat.pow_eq, if_neg h]

/-- A quotient of units is infinite only from the greatest double on, and is rounded to its
place on the grid before. -/
theorem ofUnits_cases (negative : Bool) (num : Nat) {den : Nat} (pos : 0 < den) :
    (ofUnits negative num den = .infinity negative ∧ ∀ k ≤ 2098, 2 ^ k ≤ rounded num den) ∨
      ∃ m s, ofUnits negative num den = .finite negative m s ∧ m < 2 ^ 53 ∧
        m * 2 ^ s = rounded num den := by
  have bounded : roundQuotient num (den * 2 ^ gridScale num den) ≤ 2 ^ 53 := significand_le pos
  have low : gridScale num den ≠ 0 → 2 ^ 52 ≤ roundQuotient num (den * 2 ^ gridScale num den) :=
    le_significand
  by_cases full : roundQuotient num (den * 2 ^ gridScale num den) = 2 ^ 53
  · have hvalue : 2 ^ 52 * 2 ^ (gridScale num den + 1) = rounded num den := by
      rw [rounded, full]
      ring
    rw [ofUnits_of_full negative full]
    by_cases beyond : 2045 < gridScale num den + 1
    · left
      refine ⟨if_pos beyond, fun k hk => ?_⟩
      rw [← hvalue, ← Nat.pow_add]
      exact Nat.pow_le_pow_right (by omega) (by omega)
    · right
      exact ⟨2 ^ 52, gridScale num den + 1, if_neg beyond, by omega, hvalue⟩
  · rw [ofUnits_of_not_full negative full]
    by_cases beyond : 2045 < gridScale num den
    · left
      refine ⟨if_pos beyond, fun k hk => ?_⟩
      refine Nat.le_trans ?_ (Nat.mul_le_mul_right _ (low (by omega)))
      rw [← Nat.pow_add]
      exact Nat.pow_le_pow_right (by omega) (by omega)
    · right
      exact ⟨_, gridScale num den, if_neg beyond, by omega, rfl⟩

theorem isPrecise_infinity (negative : Bool) : (infinity negative).IsPrecise :=
  ⟨Nat.two_pow_pos 53⟩

theorem isPrecise_nan (negative : Bool) : (nan negative).IsPrecise := ⟨Nat.two_pow_pos 53⟩

theorem isPrecise_ofUnits (negative : Bool) {num den : Nat} (pos : 0 < den) :
    (ofUnits negative num den).IsPrecise := by
  obtain ⟨h, -⟩ | ⟨m, s, h, hm, -⟩ := ofUnits_cases negative num pos
  · rw [h]
    exact isPrecise_infinity negative
  · rw [h]
    exact ⟨hm⟩

theorem isPrecise_ofRatio (negative : Bool) (num : Nat) {den : Nat} (pos : 0 < den) :
    (ofRatio negative num den).IsPrecise := isPrecise_ofUnits negative pos

/-- Between a power of two and the doubles below it lies a step of the grid. -/
theorem add_step_le {m s k : Nat} (hm : m < 2 ^ 53) (hk : 53 ≤ k) (h : m * 2 ^ s < 2 ^ k) :
    m * 2 ^ s + 2 ^ (k - 53) ≤ 2 ^ k := by
  have hsum : 2 ^ k = 2 ^ 53 * 2 ^ (k - 53) := by
    rw [← Nat.pow_add]
    congr 1
    omega
  rcases Nat.lt_or_ge s (k - 53) with hlt | hge
  · have hpow : 2 ^ s ≤ 2 ^ (k - 53) := Nat.pow_le_pow_right (by omega) (by omega)
    have hvalue := Nat.mul_le_mul (Nat.le_sub_one_of_lt hm) hpow
    rw [Nat.sub_mul] at hvalue
    omega
  · obtain ⟨d, rfl⟩ : ∃ d, s = k - 53 + d := ⟨s - (k - 53), by omega⟩
    have hstep : m * 2 ^ (k - 53 + d) = m * 2 ^ d * 2 ^ (k - 53) := by rw [Nat.pow_add]; ring
    rw [hsum, hstep] at h ⊢
    have hlt := Nat.lt_of_mul_lt_mul_right h
    have hle := Nat.mul_le_mul_right (2 ^ (k - 53)) (Nat.succ_le_of_lt hlt)
    rw [Nat.succ_mul] at hle
    exact hle

end SecretLayers.Binary64
