import Mathlib.Algebra.Order.Field.Rat
import Mathlib.Tactic.FieldSimp
import Mathlib.Tactic.Linarith
import Mathlib.Tactic.NormNum
import Mathlib.Tactic.Positivity
import Mathlib.Tactic.Ring
import SecretLayers.Number.Decimal
import SecretLayers.Proofs.Number.Rounding
/-!
The double nearest to a rational. Doubles are told by the magnitudes that they can have: one
magnitude is nearest, or of two that are as near the one with the even significand is meant. What
half a step beyond the greatest double is reached by is infinite. There is just one double of this
kind, and it is what a quotient is rounded to.
-/
namespace SecretLayers.Binary64
set_option autoImplicit false

/-! ## Magnitudes of doubles -/

/-- A significand and a scale that a finite double has: above the least scale all of the 53 bits are
taken. -/
structure Fits (m s : Nat) : Prop where
  significand_lt : m < 2 ^ 53
  scale_le : s ≤ 2045
  full : s = 0 ∨ 2 ^ 52 ≤ m

/-- The magnitude of a significand at a scale. -/
def magnitude (m s : Nat) : ℚ := ((m * 2 ^ s : Nat) : ℚ) / 2 ^ 1074

/-- Half a step beyond the greatest double. -/
def overflow : ℚ := 2 ^ 1024 - 2 ^ 970

/-- The double of a sign that a magnitude is rounded to. -/
inductive Rounds (negative : Bool) (q : ℚ) : Binary64 → Prop
  | infinity (beyond : overflow ≤ q) : Rounds negative q (.infinity negative)
  | finite {m s : Nat} (within : q < overflow) (fits : Fits m s)
    (nearest : ∀ m' s', Fits m' s' → |q - magnitude m s| ≤ |q - magnitude m' s'|)
    (even : ∀ m' s', Fits m' s' → |q - magnitude m s| = |q - magnitude m' s'| →
      (m' = m ∧ s' = s) ∨ m % 2 = 0) :
    Rounds negative q (.finite negative m s)

section
variable {m m' s s' : Nat}

theorem magnitude_lt_iff : magnitude m s < magnitude m' s' ↔ m * 2 ^ s < m' * 2 ^ s' := by
  have unit : (0 : ℚ) < 2 ^ 1074 := by positivity
  unfold magnitude
  rw [div_lt_div_iff_of_pos_right unit, Nat.cast_lt]

/-- A magnitude is a multiple of the step at any lower scale. -/
theorem eq_mul_step (h : s ≤ s') (m' : Nat) : m' * 2 ^ s' = m' * 2 ^ (s' - s) * 2 ^ s := by
  rw [Nat.mul_assoc, ← Nat.pow_add, Nat.sub_add_cancel h]

/-- What is taken at a lower scale is below all that takes its bits at a higher one. -/
theorem lt_of_scale_lt (hm : m < 2 ^ 53) (full : 2 ^ 52 ≤ m') (h : s < s') : m * 2 ^ s < m' * 2 ^ s' := by
  calc m * 2 ^ s < 2 ^ 53 * 2 ^ s := Nat.mul_lt_mul_of_pos_right hm (Nat.two_pow_pos s)
    _ = 2 ^ 52 * 2 ^ (s + 1) := by ring
    _ ≤ m' * 2 ^ s' := Nat.mul_le_mul full (Nat.pow_le_pow_right (by omega) h)

theorem Fits.eq (h : Fits m s) (h' : Fits m' s') (same : m * 2 ^ s = m' * 2 ^ s') : m = m' ∧ s = s' := by
  have scales : s = s' := by
    rcases Nat.lt_trichotomy s s' with lower | eq | higher
    · have full := h'.full.resolve_left (by omega)
      exact absurd same (Nat.ne_of_lt (lt_of_scale_lt h.significand_lt full lower))
    · exact eq
    · have full := h.full.resolve_left (by omega)
      exact absurd same.symm (Nat.ne_of_lt (lt_of_scale_lt h'.significand_lt full higher))
  subst scales
  exact ⟨Nat.eq_of_mul_eq_mul_right (Nat.two_pow_pos s) same, rfl⟩

/-- Between a magnitude and the next step there is no other. -/
theorem Fits.step_le (h : Fits m s) (h' : Fits m' s') (above : m * 2 ^ s < m' * 2 ^ s') :
    (m + 1) * 2 ^ s ≤ m' * 2 ^ s' := by
  rcases Nat.lt_or_ge s' s with lower | higher
  · have full := h.full.resolve_left (by omega)
    exact absurd above (Nat.not_lt.2 (Nat.le_of_lt (lt_of_scale_lt h'.significand_lt full lower)))
  · rw [eq_mul_step higher] at above ⊢
    exact Nat.mul_le_mul_right _ (Nat.lt_of_mul_lt_mul_right above)

end

/-! ## One double -/

/-- Of two neighbours with the same distance one has an odd significand. -/
theorem not_both_even {q : ℚ} {m s m' s' : Nat} (fits : Fits m s) (fits' : Fits m' s')
    (nearest : ∀ n t, Fits n t → |q - magnitude m s| ≤ |q - magnitude n t|)
    (same : |q - magnitude m s| = |q - magnitude m' s'|) (above : magnitude m s < magnitude m' s')
    (even : m % 2 = 0) (even' : m' % 2 = 0) : False := by
  have next : Fits (m + 1) s := by
    refine ⟨?_, fits.scale_le, ?_⟩
    · have hm := fits.significand_lt
      omega
    · rcases fits.full with least | full
      · exact .inl least
      · exact .inr (Nat.le_succ_of_le full)
  have step := fits.step_le fits' (magnitude_lt_iff.1 above)
  have beyond : magnitude m s < magnitude (m + 1) s :=
    magnitude_lt_iff.2 (Nat.mul_lt_mul_of_pos_right (Nat.lt_succ_self m) (Nat.two_pow_pos s))
  have between : magnitude (m + 1) s < magnitude m' s' := by
    rw [magnitude_lt_iff]
    refine Nat.lt_of_le_of_ne step fun here => ?_
    have odd := (next.eq fits' here).1
    omega
  have least := nearest (m + 1) s next
  generalize magnitude m s = v at *
  generalize magnitude (m + 1) s = v₁ at *
  generalize magnitude m' s' = v' at *
  have middle : q - v = v' - q := by
    rcases abs_eq_abs.1 same with equal | opposite
    · linarith
    · linarith
  rw [abs_of_pos (by linarith : 0 < q - v)] at least
  rcases abs_cases (q - v₁) with ⟨distance, -⟩ | ⟨distance, -⟩
  · linarith
  · linarith

theorem Rounds.unique {negative : Bool} {q : ℚ} {x y : Binary64} (hx : Rounds negative q x)
    (hy : Rounds negative q y) : x = y := by
  cases hx with
  | infinity beyond =>
    cases hy with
    | infinity _ => rfl
    | finite within _ _ _ => exact absurd within (not_lt.2 beyond)
  | @finite m s within fits nearest even =>
    cases hy with
    | infinity beyond => exact absurd within (not_lt.2 beyond)
    | @finite m' s' _ fits' nearest' even' =>
      have same : |q - magnitude m s| = |q - magnitude m' s'| :=
        le_antisymm (nearest m' s' fits') (nearest' m s fits)
      rcases even m' s' fits' same with ⟨rfl, rfl⟩ | hm
      · rfl
      rcases even' m s fits same.symm with ⟨rfl, rfl⟩ | hm'
      · rfl
      rcases lt_trichotomy (magnitude m s) (magnitude m' s') with above | eq | below
      · exact (not_both_even fits fits' nearest same above hm hm').elim
      · have equal : m * 2 ^ s = m' * 2 ^ s' := by
          refine Nat.le_antisymm ?_ ?_
          · exact Nat.not_lt.1 fun h => (ne_of_gt (magnitude_lt_iff.2 h)) eq
          · exact Nat.not_lt.1 fun h => (ne_of_lt (magnitude_lt_iff.2 h)) eq
        obtain ⟨rfl, rfl⟩ := fits.eq fits' equal
        rfl
      · exact (not_both_even fits' fits nearest' same.symm below hm' hm).elim

/-! ## Rounded quotients -/

/-- The distance of a quotient from a multiple of its step. -/
def offset (num den n : Nat) : Nat := (num - n * den) + (n * den - num)

/-- The multiples of a number lie at least one step apart. -/
theorem multiples_apart (n q den : Nat) : n * den ≤ q * den ∧ (n = q ∨ n * den + den ≤ q * den) ∨
    q * den + den ≤ n * den ∧ (n = q + 1 ∨ q * den + den + den ≤ n * den) := by
  have step (a b : Nat) (h : a ≤ b) : a * den ≤ b * den := Nat.mul_le_mul_right den h
  rcases Nat.lt_trichotomy n q with lower | rfl | higher
  · have h := step (n + 1) q lower
    rw [Nat.succ_mul] at h
    exact .inl ⟨by omega, .inr h⟩
  · exact .inl ⟨Nat.le_refl _, .inl rfl⟩
  · have h := step (q + 1) n higher
    rw [Nat.succ_mul] at h
    refine .inr ⟨h, ?_⟩
    rcases Nat.lt_or_eq_of_le higher with far | next
    · have h' := step (q + 2) n far
      rw [Nat.add_mul, Nat.two_mul] at h'
      exact .inr (by omega)
    · exact .inl next.symm

/-- No integer is nearer to a quotient, and of two as near the rounded one is even. -/
theorem offset_roundQuotient (num n : Nat) {den : Nat} (pos : 0 < den) :
    offset num den (roundQuotient num den) ≤ offset num den n ∧
      (offset num den (roundQuotient num den) = offset num den n →
        n = roundQuotient num den ∨ roundQuotient num den % 2 = 0) := by
  have hnum := Nat.div_add_mod' num den
  have hrem := Nat.mod_lt num pos
  have multiples := multiples_apart n (num / den) den
  have above : (num / den + 1) * den = num / den * den + den := Nat.succ_mul _ _
  unfold offset
  simp only [roundQuotient]
  generalize num / den = q at *
  generalize num % den = r at *
  generalize hp : n * den = p at *
  split
  · generalize q * den = a at *
    omega
  · split
    · rw [above]
      generalize q * den = a at *
      omega
    · split
      · generalize q * den = a at *
        omega
      · rw [above]
        generalize q * den = a at *
        omega

section
variable {num den : Nat}

theorem offset_step (num den n step : Nat) : offset num den (n * step) = offset num (den * step) n := by
  have same : n * step * den = n * (den * step) := by ring
  rw [offset, offset, same]

/-- No magnitude is nearer than the place on the grid, as far as bits are concerned. -/
theorem offset_rounded (pos : 0 < den) {m s : Nat} (fits : Fits m s) :
    offset num den (rounded num den) ≤ offset num den (m * 2 ^ s) ∧
      (offset num den (rounded num den) = offset num den (m * 2 ^ s) → m * 2 ^ s = rounded num den ∨
        roundQuotient num (den * 2 ^ gridScale num den) % 2 = 0) := by
  have step : 0 < den * 2 ^ gridScale num den := Nat.mul_pos pos (Nat.two_pow_pos _)
  unfold rounded
  rcases Nat.lt_or_ge s (gridScale num den) with lower | higher
  · -- The first place of the grid with all bits lies between the magnitude and the quotient.
    have first := (offset_roundQuotient num (2 ^ 52) step).1
    rw [← offset_step, ← offset_step] at first
    have reached : 2 ^ 52 * 2 ^ gridScale num den * den ≤ num := by
      have quotient : 2 ^ 52 * 2 ^ gridScale num den ≤ num / den := by
        have some_bits : num / den ≠ 0 := by
          intro none
          simp [gridScale, none] at lower
        rw [← Nat.pow_add]
        refine Nat.le_trans (Nat.pow_le_pow_right (by omega) ?_) (Nat.log2_self_le some_bits)
        unfold gridScale at lower ⊢
        omega
      exact (Nat.le_div_iff_mul_le pos).1 quotient
    have below : m * 2 ^ s * den < 2 ^ 52 * 2 ^ gridScale num den * den :=
      Nat.mul_lt_mul_of_pos_right (lt_of_scale_lt fits.significand_lt (Nat.le_refl _) lower) pos
    have farther : offset num den (2 ^ 52 * 2 ^ gridScale num den) < offset num den (m * 2 ^ s) := by
      unfold offset
      omega
    exact ⟨Nat.le_of_lt (Nat.lt_of_le_of_lt first farther),
      fun same => absurd same (Nat.ne_of_lt (Nat.lt_of_le_of_lt first farther))⟩
  · obtain ⟨nearest, even⟩ := offset_roundQuotient num (m * 2 ^ (s - gridScale num den)) step
    rw [eq_mul_step higher m, offset_step, offset_step]
    refine ⟨nearest, fun same => ?_⟩
    rcases even same with here | tied
    · exact .inl (by rw [here])
    · exact .inr tied

theorem distance_eq (num m s : Nat) (pos : 0 < den) :
    |(num : ℚ) / den - magnitude m s| = (offset (num * 2 ^ 1074) den (m * 2 ^ s) : ℚ) / (den * 2 ^ 1074) := by
  have whole : (0 : ℚ) < den := by exact_mod_cast pos
  have unit : (0 : ℚ) < 2 ^ 1074 := by positivity
  have joined : (num : ℚ) / den - magnitude m s =
      ((num * 2 ^ 1074 : Nat) - (m * 2 ^ s * den : Nat) : ℚ) / (den * 2 ^ 1074) := by
    unfold magnitude
    rw [div_sub_div _ _ (ne_of_gt whole) (ne_of_gt unit)]
    simp only [Nat.cast_mul, Nat.cast_pow, Nat.cast_ofNat]
    generalize (2 : ℚ) ^ 1074 = u
    ring
  have apart (a b : Nat) : |(a : ℚ) - b| = ((a - b + (b - a) : Nat) : ℚ) := by
    rcases Nat.le_total a b with h | h
    · have hab : (a : ℚ) ≤ b := by exact_mod_cast h
      rw [abs_of_nonpos (by linarith), Nat.sub_eq_zero_of_le h, Nat.zero_add, Nat.cast_sub h]
      ring
    · have hab : (b : ℚ) ≤ a := by exact_mod_cast h
      rw [abs_of_nonneg (by linarith), Nat.sub_eq_zero_of_le h, Nat.add_zero, Nat.cast_sub h]
  rw [joined, abs_div, apart, abs_of_pos (mul_pos whole unit), offset]

/-- From half a step beyond the greatest double on nothing finite is reached. -/
theorem overflow_le_iff (num : Nat) (pos : 0 < den) :
    overflow ≤ (num : ℚ) / den ↔ 2 ^ 2098 ≤ rounded (num * 2 ^ 1074) den := by
  have limit := rounded_lt_iff (num * 2 ^ 1074) pos (by omega : 54 ≤ 2098)
  have whole : (0 : ℚ) < den := by exact_mod_cast pos
  have unit : (0 : ℚ) < 2 ^ 1074 := by positivity
  rw [← not_lt, ← not_lt, not_iff_not, limit, div_lt_iff₀ whole, overflow, ← mul_lt_mul_iff_left₀ unit]
  have power : (2 : ℚ) ^ 2098 = 2 ^ 1024 * 2 ^ 1074 := by rw [← pow_add]
  have step : (2 : ℚ) ^ (2098 - 54) = 2 ^ 970 * 2 ^ 1074 := by rw [← pow_add]
  have scaled : ((2 ^ 1024 - 2 ^ 970) * (den : ℚ)) * 2 ^ 1074 =
      ((den * 2 ^ 2098 : Nat) : ℚ) - ((den * 2 ^ (2098 - 54) : Nat) : ℚ) := by
    simp only [Nat.cast_mul, Nat.cast_pow, Nat.cast_ofNat, power, step]
    generalize (2 : ℚ) ^ 1074 = u
    generalize (2 : ℚ) ^ 1024 = p
    generalize (2 : ℚ) ^ 970 = h
    ring
  have grown : (num : ℚ) * 2 ^ 1074 = ((num * 2 ^ 1074 : Nat) : ℚ) := by
    simp only [Nat.cast_mul, Nat.cast_pow, Nat.cast_ofNat]
  rw [scaled, grown, lt_sub_iff_add_lt, ← Nat.cast_add, Nat.cast_lt]

/-- A finite double at the place on the grid is the one that a quotient is rounded to. -/
theorem rounds_of_place (negative : Bool) (pos : 0 < den) {m s : Nat} (fits : Fits m s)
    (within : (num : ℚ) / den < overflow) (place : m * 2 ^ s = rounded (num * 2 ^ 1074) den)
    (even : roundQuotient (num * 2 ^ 1074) (den * 2 ^ gridScale (num * 2 ^ 1074) den) % 2 = 0 → m % 2 = 0) :
    Rounds negative ((num : ℚ) / den) (.finite negative m s) := by
  have scale : (0 : ℚ) < den * 2 ^ 1074 := by
    have whole : (0 : ℚ) < den := by exact_mod_cast pos
    positivity
  refine .finite within fits ?_ ?_
  · intro m' s' fits'
    rw [distance_eq num m s pos, distance_eq num m' s' pos, div_le_div_iff_of_pos_right scale, Nat.cast_le, place]
    exact (offset_rounded pos fits').1
  · intro m' s' fits' same
    rw [distance_eq num m s pos, distance_eq num m' s' pos, div_left_inj' (ne_of_gt scale), Nat.cast_inj,
      place] at same
    rcases (offset_rounded pos fits').2 same with here | tied
    · exact .inl (fits'.eq fits (here.trans place.symm))
    · exact .inr (even tied)

/-- A quotient is rounded to the double nearest to it. -/
theorem rounds_ofRatio (negative : Bool) (num : Nat) (pos : 0 < den) :
    Rounds negative ((num : ℚ) / den) (ofRatio negative num den) := by
  have unit : unitsPerOne = 2 ^ 1074 := by decide +kernel
  have limit := overflow_le_iff num pos
  have bounded : roundQuotient (num * 2 ^ 1074) (den * 2 ^ gridScale (num * 2 ^ 1074) den) ≤ 2 ^ 53 :=
    significand_le pos
  have low : gridScale (num * 2 ^ 1074) den ≠ 0 →
      2 ^ 52 ≤ roundQuotient (num * 2 ^ 1074) (den * 2 ^ gridScale (num * 2 ^ 1074) den) := le_significand
  rw [ofRatio, unit]
  by_cases full : roundQuotient (num * 2 ^ 1074) (den * 2 ^ gridScale (num * 2 ^ 1074) den) = 2 ^ 53
  · have place : 2 ^ 52 * 2 ^ (gridScale (num * 2 ^ 1074) den + 1) = rounded (num * 2 ^ 1074) den := by
      rw [rounded, full]
      ring
    rw [ofUnits_of_full negative full]
    split
    · refine .infinity (limit.2 ?_)
      rw [← place, ← Nat.pow_add, Nat.pow_le_pow_iff_right (by omega)]
      omega
    · refine rounds_of_place negative pos ⟨by omega, by omega, .inr (Nat.le_refl _)⟩ ?_ place fun _ => by omega
      rw [← not_le, limit, ← place, ← Nat.pow_add, Nat.pow_le_pow_iff_right (by omega)]
      omega
  · rw [ofUnits_of_not_full negative full]
    have narrow : roundQuotient (num * 2 ^ 1074) (den * 2 ^ gridScale (num * 2 ^ 1074) den) < 2 ^ 53 := by omega
    split
    · refine .infinity (limit.2 ?_)
      refine Nat.le_trans ?_ (Nat.mul_le_mul_right _ (low (by omega)))
      rw [← Nat.pow_add, Nat.pow_le_pow_iff_right (by omega)]
      omega
    · refine rounds_of_place negative pos ⟨narrow, by omega, ?_⟩ ?_ rfl id
      · by_cases least : gridScale (num * 2 ^ 1074) den = 0
        · exact .inl least
        · exact .inr (low least)
      · rw [← not_le, limit, Nat.not_le]
        calc rounded (num * 2 ^ 1074) den
            < 2 ^ 53 * 2 ^ gridScale (num * 2 ^ 1074) den := Nat.mul_lt_mul_of_pos_right narrow (Nat.two_pow_pos _)
          _ ≤ 2 ^ 2098 := by
            rw [← Nat.pow_add, Nat.pow_le_pow_iff_right (by omega)]
            omega

end

/-- What is less than half of the least positive double is rounded to zero. -/
theorem rounds_zero (negative : Bool) {q : ℚ} (nonneg : 0 ≤ q) (small : q < 1 / 2 ^ 1075) :
    Rounds negative q (.finite negative 0 0) := by
  have zero {m s : Nat} (none : m * 2 ^ s = 0) : magnitude m s = 0 := by
    rw [magnitude, none, Nat.cast_zero, zero_div]
  have farther {m s : Nat} (positive : m * 2 ^ s ≠ 0) : q < |q - magnitude m s| := by
    have step : (1 : ℚ) / 2 ^ 1074 = 2 * (1 / 2 ^ 1075) := by
      rw [pow_succ (2 : ℚ) 1074]
      field_simp
    have least : (1 : ℚ) / 2 ^ 1074 ≤ magnitude m s := by
      have one : (1 : ℚ) ≤ ((m * 2 ^ s : Nat) : ℚ) := by exact_mod_cast Nat.pos_of_ne_zero positive
      exact (div_le_div_iff_of_pos_right (pow_pos two_pos 1074)).2 one
    rw [step] at least
    generalize (1 : ℚ) / 2 ^ 1075 = half at small least
    rw [abs_of_neg (by linarith)]
    linarith
  have within : q < overflow := by
    have tiny : (1 : ℚ) / 2 ^ 1075 ≤ 1 := div_le_one_of_le₀ (one_le_pow₀ one_le_two) (pow_nonneg zero_le_two _)
    have grown : (1 : ℚ) ≤ 2 ^ 970 := one_le_pow₀ one_le_two
    have room : (2 : ℚ) ^ 970 + 2 ^ 970 ≤ 2 ^ 1024 := by
      rw [← mul_two, ← pow_succ]
      exact pow_le_pow_right₀ one_le_two (by omega)
    exact lt_of_lt_of_le small (tiny.trans (grown.trans (le_sub_iff_add_le.2 room)))
  have here : |q - magnitude 0 0| = q := by rw [zero (Nat.zero_mul _), sub_zero, abs_of_nonneg nonneg]
  refine .finite within ⟨by omega, by omega, .inl rfl⟩ ?_ fun _ _ _ _ => .inr rfl
  intro m s _
  rw [here]
  by_cases none : m * 2 ^ s = 0
  · rw [zero none, sub_zero, abs_of_nonneg nonneg]
  · exact le_of_lt (farther none)

end SecretLayers.Binary64

/-! ## Decimals -/

namespace SecretLayers.Decimal

/-- The magnitude of a decimal. -/
def value (d : Decimal) : ℚ := d.coefficient * 10 ^ d.exponent

/-- The powers of ten around a decimal, which its digits tell. -/
theorem value_bounds {d : Decimal} (positive : d.coefficient ≠ 0) :
    (10 : ℚ) ^ (((Nat.toDigits 10 d.coefficient).length : ℤ) + d.exponent - 1) ≤ d.value ∧
      d.value < 10 ^ (((Nat.toDigits 10 d.coefficient).length : ℤ) + d.exponent) := by
  have ten : (10 : ℚ) ≠ 0 := by norm_num
  have power : (0 : ℚ) < 10 ^ d.exponent := zpow_pos (by norm_num) _
  generalize hlen : (Nat.toDigits 10 d.coefficient).length = len
  have above : d.coefficient < 10 ^ len := by
    have some_digits : 0 < len := by
      rw [← hlen]
      exact Nat.length_toDigits_pos
    exact (Nat.length_toDigits_le_iff (by omega) some_digits).1 (Nat.le_of_eq hlen)
  have below : 10 ^ (len - 1) ≤ d.coefficient := by
    rcases Nat.eq_zero_or_pos (len - 1) with one | more
    · rw [one]
      exact Nat.pos_of_ne_zero positive
    · by_contra less
      have short := (Nat.length_toDigits_le_iff (by omega : 1 < 10) more).2 (Nat.not_le.1 less)
      omega
  have some_digits : 1 ≤ len := by
    rw [← hlen]
    exact Nat.length_toDigits_pos
  constructor
  · have split : (10 : ℚ) ^ ((len : ℤ) + d.exponent - 1) = ((10 ^ (len - 1) : Nat) : ℚ) * 10 ^ d.exponent := by
      rw [Nat.cast_pow, Nat.cast_ofNat, ← zpow_natCast, ← zpow_add₀ ten]
      congr 1
      omega
    rw [split, value]
    exact mul_le_mul_of_nonneg_right (by exact_mod_cast below) (le_of_lt power)
  · have split : (10 : ℚ) ^ ((len : ℤ) + d.exponent) = ((10 ^ len : Nat) : ℚ) * 10 ^ d.exponent := by
      rw [Nat.cast_pow, Nat.cast_ofNat, ← zpow_natCast, ← zpow_add₀ ten]
    rw [split, value]
    exact mul_lt_mul_of_pos_right (by exact_mod_cast above) power

/-- Four hundred powers of ten are more than all powers of two that a double spans. -/
theorem two_pow_le {n : Nat} (h : n ≤ 1200) : (2 : ℚ) ^ n ≤ 10 ^ 400 := by
  calc (2 : ℚ) ^ n ≤ 2 ^ (3 * 400) := pow_le_pow_right₀ one_le_two h
    _ = (2 ^ 3) ^ 400 := pow_mul 2 3 400
    _ ≤ 10 ^ 400 := pow_le_pow_left₀ (by norm_num) (by norm_num) _

theorem overflow_le_of_great {d : Decimal} (positive : d.coefficient ≠ 0)
    (great : 400 < ((Nat.toDigits 10 d.coefficient).length : ℤ) + d.exponent) : Binary64.overflow ≤ d.value := by
  have power : (10 : ℚ) ^ (400 : ℤ) ≤ 10 ^ (((Nat.toDigits 10 d.coefficient).length : ℤ) + d.exponent - 1) :=
    zpow_le_zpow_right₀ (by norm_num) (by omega)
  calc Binary64.overflow ≤ 2 ^ 1024 := sub_le_self _ (pow_nonneg zero_le_two _)
    _ ≤ 10 ^ 400 := two_pow_le (by omega)
    _ = 10 ^ (400 : ℤ) := (zpow_natCast 10 400).symm
    _ ≤ d.value := power.trans (value_bounds positive).1

theorem value_lt_of_small {d : Decimal} (positive : d.coefficient ≠ 0)
    (small : ((Nat.toDigits 10 d.coefficient).length : ℤ) + d.exponent < -400) : d.value < 1 / 2 ^ 1075 := by
  have power : (10 : ℚ) ^ (((Nat.toDigits 10 d.coefficient).length : ℤ) + d.exponent) ≤ 10 ^ (-400 : ℤ) :=
    zpow_le_zpow_right₀ (by norm_num) (by omega)
  calc d.value < 10 ^ (((Nat.toDigits 10 d.coefficient).length : ℤ) + d.exponent) := (value_bounds positive).2
    _ ≤ 10 ^ (-400 : ℤ) := power
    _ = 1 / 10 ^ 400 := by rw [zpow_neg, one_div, inv_inj]; exact zpow_natCast 10 400
    _ ≤ 1 / 2 ^ 1075 := one_div_le_one_div_of_le (pow_pos two_pos 1075) (two_pow_le (by omega))

/-- A decimal is read as the double nearest to it, also where no power of ten is formed. -/
theorem rounds_nearest (d : Decimal) : Binary64.Rounds d.negative d.value d.nearest := by
  have nonneg : 0 ≤ d.value := mul_nonneg (Nat.cast_nonneg _) (zpow_nonneg (by norm_num) _)
  unfold nearest
  dsimp only
  split
  · rename_i none
    have zero : d.value = 0 := by rw [value, none, Nat.cast_zero, zero_mul]
    rw [zero]
    exact Binary64.rounds_zero _ le_rfl (one_div_pos.2 (pow_pos two_pos 1075))
  · rename_i positive
    split
    · rename_i great
      exact .infinity (overflow_le_of_great positive great)
    · split
      · rename_i small
        exact Binary64.rounds_zero _ nonneg (value_lt_of_small positive small)
      · split
        · rename_i whole
          have ratio : d.value = ((d.coefficient * Nat.pow 10 d.exponent.toNat : Nat) : ℚ) / ((1 : Nat) : ℚ) := by
            rw [Nat.pow_eq, Nat.cast_mul, Nat.cast_pow, Nat.cast_ofNat, Nat.cast_one, div_one, value,
              ← zpow_natCast, Int.toNat_of_nonneg whole]
          rw [ratio]
          exact Binary64.rounds_ofRatio _ _ Nat.one_pos
        · rename_i fraction
          have ratio : d.value = (d.coefficient : ℚ) / ((Nat.pow 10 (-d.exponent).toNat : Nat) : ℚ) := by
            rw [Nat.pow_eq, Nat.cast_pow, Nat.cast_ofNat, value, ← zpow_natCast,
              Int.toNat_of_nonneg (by omega), zpow_neg, div_inv_eq_mul]
          rw [ratio]
          exact Binary64.rounds_ofRatio _ _ (Nat.pow_pos (by omega))

end SecretLayers.Decimal
