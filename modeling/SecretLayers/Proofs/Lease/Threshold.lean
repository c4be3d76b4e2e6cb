import SecretLayers.Config.Validate
import SecretLayers.Proofs.Number.Rounding
/-!
Which terms a fraction measures. A validated fraction is zero, one or between them, or it is
not a number at all; its product with a term is a span unless the fraction is not a number,
or is one and the term is rounded up to what no longer fits 64 bits.
-/
namespace SecretLayers
set_option autoImplicit false

namespace Binary64

def isNumber : Binary64 → Bool
  | .nan _ => false
  | _ => true

/-- A finite double from zero to one. -/
structure IsFraction (x : Binary64) : Prop where
  isFinite : x.isFinite = true
  nonnegative : x.lt .zero = false
  le_one : Binary64.one.lt x = false

/-! ## Units -/

/-- One is a power of two of units, and both the double below it and the products of fractions
with terms are well within the grid. -/
theorem exists_unitsPerOne : ∃ k, 53 ≤ k ∧ k ≤ 2000 ∧ unitsPerOne = 2 ^ k :=
  ⟨1074, by decide, by decide, by decide +kernel⟩

theorem unitsPerOne_pos : 0 < unitsPerOne := by
  obtain ⟨k, -, -, hk⟩ := exists_unitsPerOne
  rw [hk]
  exact Nat.two_pow_pos k

theorem one_eq : Binary64.one = .finite false (2 ^ 52) 1022 := by decide +kernel

theorem signedUnits_one : Binary64.one.signedUnits = (unitsPerOne : Int) := by decide +kernel

theorem units_finite (n : Bool) (m s : Nat) : (finite n m s).units = m * 2 ^ s := rfl

theorem signedUnits_finite (n : Bool) (m s : Nat) :
    (finite n m s).signedUnits = if n then -((m * 2 ^ s : Nat) : Int) else ((m * 2 ^ s : Nat) : Int) := by
  cases n <;> rfl

section
variable {x : Binary64} {n : Bool} {m s : Nat}

theorem lt_zero_iff : (finite n m s).lt .zero = false ↔ (n = true → m * 2 ^ s = 0) := by
  have hzero : Binary64.zero.signedUnits = 0 := by decide
  unfold zero at hzero ⊢
  simp only [lt, hzero, signedUnits_finite, decide_eq_false_iff_not]
  generalize m * 2 ^ s = u
  cases n with
  | false => simp
  | true =>
    simp only [if_true, true_implies]
    omega

theorem one_lt_iff (h : n = true → m * 2 ^ s = 0) :
    Binary64.one.lt (finite n m s) = false ↔ m * 2 ^ s ≤ unitsPerOne := by
  have hone := signedUnits_one
  rw [one_eq] at hone ⊢
  simp only [lt, hone, signedUnits_finite, decide_eq_false_iff_not]
  generalize m * 2 ^ s = u at h ⊢
  generalize unitsPerOne = one
  cases n with
  | false =>
    simp only [Bool.false_eq_true, if_false]
    omega
  | true =>
    have hu := h rfl
    simp only [if_true]
    omega

theorem lt_one_iff (h : n = true → m * 2 ^ s = 0) :
    (finite n m s).lt .one = true ↔ m * 2 ^ s < unitsPerOne := by
  have hone := signedUnits_one
  have hpos := unitsPerOne_pos
  rw [one_eq] at hone ⊢
  simp only [lt, hone, signedUnits_finite, decide_eq_true_iff]
  generalize m * 2 ^ s = u at h ⊢
  generalize unitsPerOne = one at hpos ⊢
  cases n with
  | false =>
    simp only [Bool.false_eq_true, if_false]
    omega
  | true =>
    have hu := h rfl
    simp only [if_true]
    omega

theorem IsFraction.exists_finite (h : x.IsFraction) :
    ∃ n m s, x = .finite n m s ∧ (n = true → m * 2 ^ s = 0) ∧ m * 2 ^ s ≤ unitsPerOne := by
  obtain ⟨finite, nonnegative, le_one⟩ := h
  cases x with
  | nan n | infinity n => cases finite
  | finite n m s =>
    have hsign := lt_zero_iff.1 nonnegative
    exact ⟨n, m, s, rfl, hsign, (one_lt_iff hsign).1 le_one⟩

/-- What is within the bounds of a fraction is one, if it is a number. -/
theorem isFraction_of_isWithin (within : Config.isWithin .zero .one x = true)
    (number : x.isNumber = true) : x.IsFraction := by
  simp only [Config.isWithin, Bool.and_eq_true, Bool.not_eq_true'] at within
  refine ⟨?_, within.1, within.2⟩
  cases x with
  | nan n => cases number
  | infinity n =>
    rw [one_eq] at within
    cases n with
    | false => cases within.2
    | true => cases within.1
  | finite n m s => rfl

end

/-! ## Terms as doubles -/

section
variable {seconds k : Nat}

theorem rounded_term_le (h : seconds ≤ 2 ^ k) :
    rounded (seconds * unitsPerOne) 1 ≤ 2 ^ k * unitsPerOne := by
  obtain ⟨b, hb, -, hunits⟩ := exists_unitsPerOne
  rw [hunits, ← Nat.pow_add]
  refine rounded_le Nat.one_pos (by omega) ?_
  rw [Nat.one_mul, Nat.pow_add]
  exact Nat.mul_le_mul_right _ h

/-- A rounded term below 64 bits is a whole step below. -/
theorem rounded_term_add_le (h : rounded (seconds * unitsPerOne) 1 < 2 ^ 64 * unitsPerOne) :
    rounded (seconds * unitsPerOne) 1 + 2 ^ 11 * unitsPerOne ≤ 2 ^ 64 * unitsPerOne := by
  obtain ⟨b, hb, hbound, hunits⟩ := exists_unitsPerOne
  generalize unitsPerOne = one at *
  subst hunits
  rw [← Nat.pow_add] at h ⊢
  rw [← Nat.pow_add]
  obtain ⟨-, hbig⟩ | ⟨m, s, -, hm, hvalue⟩ := ofUnits_cases false (seconds * 2 ^ b) Nat.one_pos
  · exact absurd h (Nat.not_lt_of_le (hbig (64 + b) (by omega)))
  · rw [← hvalue] at h ⊢
    have hstep : 11 + b = 64 + b - 53 := by omega
    rw [hstep]
    exact add_step_le hm (by omega) h

/-- A term that fits 64 bits is a finite double. -/
theorem ofNat_eq (h : seconds ≤ 2 ^ 64) :
    ∃ m s, ofNat seconds = .finite false m s ∧ m < 2 ^ 53 ∧
      m * 2 ^ s = rounded (seconds * unitsPerOne) 1 := by
  have hbound := rounded_term_le h
  obtain ⟨-, hbig⟩ | hfinite := ofUnits_cases false (seconds * unitsPerOne) Nat.one_pos
  · obtain ⟨b, -, hb, hunits⟩ := exists_unitsPerOne
    have hle := hbig (65 + b) (by omega)
    have hpos := unitsPerOne_pos
    rw [Nat.pow_add, ← hunits] at hle
    generalize unitsPerOne = one at *
    omega
  · exact hfinite

/-- A term is rounded up to 64 bits from the last half step on. -/
theorem rounded_term_lt_iff :
    rounded (seconds * unitsPerOne) 1 < 2 ^ 64 * unitsPerOne ↔ seconds < 2 ^ 64 - 2 ^ 10 := by
  have hpos := unitsPerOne_pos
  obtain ⟨b, hb, -, hunits⟩ := exists_unitsPerOne
  have hstep : 64 + b - 54 = 10 + b := by omega
  have hlimit := rounded_lt_iff (seconds * unitsPerOne) Nat.one_pos (show 54 ≤ 64 + b by omega)
  rw [hstep, Nat.pow_add, Nat.pow_add, ← hunits, Nat.one_mul, Nat.one_mul, ← Nat.add_mul,
    Nat.mul_lt_mul_right hpos] at hlimit
  rw [hlimit]
  omega

end

end Binary64

/-! ## Products -/

namespace Span
open Binary64

variable {x : Binary64} {seconds : Nat}

theorem isSome_ofDouble?_iff :
    (ofDouble? x).isSome ↔
      x.isFinite = true ∧ x.lt .zero = false ∧ x.units < 2 ^ 64 * unitsPerOne := by
  simp only [ofDouble?, Nat.pow_eq]
  generalize unitsPerOne = one
  split
  · rename_i h
    simp only [h, Option.isSome_some, and_self]
  · rename_i h
    simp only [h, Option.isSome_none, Bool.false_eq_true]

theorem mul_ofNat {n : Bool} {m s : Nat} (fits : seconds ≤ 2 ^ 64) :
    (Binary64.finite n m s).mul (ofNat seconds) =
      ofUnits n (m * 2 ^ s * rounded (seconds * unitsPerOne) 1) unitsPerOne := by
  obtain ⟨m', s', hterm, -, hvalue⟩ := ofNat_eq fits
  have hproduct : m * m' * 2 ^ (s + s') = m * 2 ^ s * (m' * 2 ^ s') := by
    rw [Nat.pow_add]
    ring
  rw [hterm, ← hvalue, ← hproduct]
  simp only [mul, Bool.bne_false, Nat.pow_eq]

/-- A product is a span exactly if it stays below the last half step of 64 bits. -/
theorem isSome_scaled?_iff (h : x.IsFraction) (fits : seconds ≤ 2 ^ 64) :
    (scaled? x seconds).isSome ↔
      x.units * rounded (seconds * unitsPerOne) 1 + unitsPerOne * (2 ^ 10 * unitsPerOne) <
        unitsPerOne * (2 ^ 64 * unitsPerOne) := by
  obtain ⟨n, m, s, rfl, hsign, -⟩ := h.exists_finite
  obtain ⟨b, hb, hbound, hunits⟩ := exists_unitsPerOne
  have hpos := unitsPerOne_pos
  rw [scaled?, mul_ofNat fits, isSome_ofDouble?_iff, units_finite]
  have hproduct : n = true → m * 2 ^ s * rounded (seconds * unitsPerOne) 1 = 0 := by
    intro hn
    rw [hsign hn, Nat.zero_mul]
  generalize m * 2 ^ s * rounded (seconds * unitsPerOne) 1 = product at hproduct ⊢
  have hstep : 64 + b - 54 = 10 + b := by omega
  have hlimit := rounded_lt_iff product hpos (show 54 ≤ 64 + b by omega)
  rw [hstep, Nat.pow_add, Nat.pow_add, ← hunits] at hlimit
  rw [← hlimit]
  obtain ⟨hinf, hbig⟩ | ⟨p, q, hfinite, -, hrounded⟩ := ofUnits_cases n product hpos
  · have hle := hbig (64 + b) (by omega)
    rw [Nat.pow_add, ← hunits] at hle
    rw [hinf]
    constructor
    · intro hs
      cases hs.1
    · intro hlt
      exact absurd hle (Nat.not_le_of_lt hlt)
  · have hnonnegative : (Binary64.finite n p q).lt .zero = false := by
      rw [lt_zero_iff, hrounded]
      intro hn
      rw [hproduct hn]
      simp [rounded, roundQuotient]
    rw [hfinite, units_finite, hrounded]
    generalize unitsPerOne = one
    exact ⟨fun hs => hs.2.2, fun hlt => ⟨rfl, hnonnegative, hlt⟩⟩

/-- Fractions of terms of less than 64 bits are spans. -/
theorem isSome_scaled?_of_lt (h : x.IsFraction) (fits : seconds < 2 ^ 63) :
    (scaled? x seconds).isSome := by
  rw [isSome_scaled?_iff h (by omega)]
  obtain ⟨n, m, s, rfl, -, hle⟩ := h.exists_finite
  have hpos := unitsPerOne_pos
  rw [units_finite]
  calc m * 2 ^ s * rounded (seconds * unitsPerOne) 1 + unitsPerOne * (2 ^ 10 * unitsPerOne)
      ≤ unitsPerOne * (2 ^ 63 * unitsPerOne) + unitsPerOne * (2 ^ 10 * unitsPerOne) :=
        Nat.add_le_add_right (Nat.mul_le_mul hle (rounded_term_le (Nat.le_of_lt fits))) _
    _ = unitsPerOne * ((2 ^ 63 + 2 ^ 10) * unitsPerOne) := by rw [← Nat.mul_add, ← Nat.add_mul]
    _ < unitsPerOne * (2 ^ 64 * unitsPerOne) := by
        rw [Nat.mul_lt_mul_left hpos, Nat.mul_lt_mul_right hpos]
        omega

/-- What falls short of one by a step of its grid falls short of 64 bits by more than a half
step, whatever it is multiplied with. -/
theorem product_lt {u w one step : Nat} (grid : 2 ^ 53 * step = one) (pos : 0 < one)
    (short : u + step ≤ one) (hw : w ≤ 2 ^ 64 * one) :
    u * w + one * (2 ^ 10 * one) < one * (2 ^ 64 * one) := by
  have hstep : step * (2 ^ 64 * one) = 2 ^ 11 * (one * one) := by
    rw [← grid]
    ring
  have hsquare : 0 < one * one := Nat.mul_pos pos pos
  calc u * w + one * (2 ^ 10 * one)
      = u * w + 2 ^ 10 * (one * one) := by ring
    _ < u * w + 2 ^ 11 * (one * one) := by omega
    _ = u * w + step * (2 ^ 64 * one) := by rw [hstep]
    _ ≤ u * (2 ^ 64 * one) + step * (2 ^ 64 * one) :=
        Nat.add_le_add_right (Nat.mul_le_mul_left u hw) _
    _ = (u + step) * (2 ^ 64 * one) := by rw [Nat.add_mul]
    _ ≤ one * (2 ^ 64 * one) := Nat.mul_le_mul_right _ short

/-- Fractions below one make spans of all terms of 64 bits, one only of those that are not
rounded up. -/
theorem isSome_scaled?_iff_of_precise (h : x.IsFraction) (precise : x.IsPrecise)
    (fits : seconds < 2 ^ 64) :
    (scaled? x seconds).isSome ↔ x.lt .one = true ∨ seconds < 2 ^ 64 - 2 ^ 10 := by
  rw [isSome_scaled?_iff h (Nat.le_of_lt fits)]
  obtain ⟨n, m, s, rfl, hsign, hle⟩ := h.exists_finite
  have hpos := unitsPerOne_pos
  have hterm := rounded_term_le (Nat.le_of_lt fits)
  have hspace : rounded (seconds * unitsPerOne) 1 < 2 ^ 64 * unitsPerOne → _ :=
    rounded_term_add_le
  rw [units_finite, lt_one_iff hsign, ← rounded_term_lt_iff]
  obtain ⟨b, hb, -, hunits⟩ := exists_unitsPerOne
  have hshort (below : m * 2 ^ s < unitsPerOne) : m * 2 ^ s + 2 ^ (b - 53) ≤ unitsPerOne := by
    rw [hunits] at below ⊢
    exact add_step_le precise.significand_lt hb below
  have hgrid : 2 ^ 53 * 2 ^ (b - 53) = unitsPerOne := by
    rw [hunits, ← Nat.pow_add, Nat.add_sub_of_le hb]
  generalize rounded (seconds * unitsPerOne) 1 = w at *
  generalize m * 2 ^ s = u at *
  generalize unitsPerOne = one at *
  rcases Nat.lt_or_eq_of_le hle with below | rfl
  · exact iff_of_true (product_lt hgrid hpos (hshort below) hterm) (.inl below)
  · rw [← Nat.mul_add, Nat.mul_lt_mul_left hpos]
    constructor
    · intro hlt
      right
      omega
    · rintro (hlt | hlt)
      · exact absurd hlt (Nat.lt_irrefl u)
      · have hadd := hspace hlt
        omega

end Span

/-- A lease that is not expiring has more than an interval left. -/
theorem RenewalOptions.isExpiring?_cases {o : RenewalOptions} {l : Lease}
    (fraction : o.threshold.IsFraction) (fits : l.seconds < 2 ^ 63) (now : Instant) :
    o.isExpiring? l now = some true ∨ o.isExpiring? l now = some false ∧ o.pollSpan < l.remaining now := by
  obtain ⟨limit, hlimit⟩ := Option.isSome_iff_exists.1 (Span.isSome_scaled?_of_lt fraction fits)
  rw [isExpiring?, hlimit, Option.map_some]
  cases hexpiring : (l.remaining now ≤ limit || l.remaining now ≤ o.pollSpan : Bool) with
  | true => exact .inl rfl
  | false =>
    rw [Bool.or_eq_false_iff, decide_eq_false_iff_not, decide_eq_false_iff_not] at hexpiring
    exact .inr ⟨rfl, Nat.not_le.1 hexpiring.2⟩

end SecretLayers
