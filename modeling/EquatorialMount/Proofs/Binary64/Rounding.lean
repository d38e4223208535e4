import Mathlib.Algebra.Order.Field.Power
import Mathlib.Tactic.Positivity
import EquatorialMount.Proofs.Binary64.Sum

/-!
# Rounding between powers of two

A result that has to be rounded is rounded to one of its two neighbours, and no power of two is passed on the way: what
is below a power of two is rounded to at most that power, and what is not below it is rounded to no less (`Rounds`).
That is all that is needed to tell that a result is finite and not lost, as long as powers of two bound the operands.
Only what is below half of the least positive number is lost (`roundWithAccuracy_lost`).
-/

namespace EquatorialMount.Binary64

open Float.Model Float.Model.UnpackedFloat

/-! ### Sizes -/

/-- The magnitude of a number as a fraction. -/
def size (b : Binary64) : ℚ := b.significand * 2 ^ b.exponent

theorem size_nonneg (b : Binary64) : 0 ≤ b.size := by
  unfold size
  positivity

theorem size_eq_zero {b : Binary64} : b.size = 0 ↔ b.significand = 0 := by
  unfold size
  rw [mul_eq_zero, Nat.cast_eq_zero]
  exact or_iff_left (zpow_ne_zero _ two_ne_zero)

/-- The greater of two powers is a multiple of the smaller one. -/
theorem two_zpow_eq {e k : ℤ} (h : e ≤ k) : (2 : ℚ) ^ k = ((2 ^ (k - e).toNat : ℕ) : ℚ) * 2 ^ e := by
  have hk : k = ((k - e).toNat : ℤ) + e := by omega
  conv_lhs => rw [hk, zpow_add₀ two_ne_zero, zpow_natCast]
  push_cast
  rfl

private theorem mul_lt_two_zpow {m : ℕ} {e k : ℤ} (h : e ≤ k) : (m : ℚ) * 2 ^ e < 2 ^ k ↔ m < 2 ^ (k - e).toNat := by
  rw [two_zpow_eq h, mul_lt_mul_iff_left₀ (by positivity), Nat.cast_lt]

theorem mul_le_two_zpow {m : ℕ} {e k : ℤ} (h : e ≤ k) : (m : ℚ) * 2 ^ e ≤ 2 ^ k ↔ m ≤ 2 ^ (k - e).toNat := by
  rw [two_zpow_eq h, mul_le_mul_iff_left₀ (by positivity), Nat.cast_le]

theorem two_zpow_le_mul {m : ℕ} {e k : ℤ} (h : e ≤ k) : (2 : ℚ) ^ k ≤ m * 2 ^ e ↔ 2 ^ (k - e).toNat ≤ m := by
  rw [two_zpow_eq h, mul_le_mul_iff_left₀ (by positivity), Nat.cast_le]

/-- A result whose exact magnitude is this one: it has not passed any power of two on the way. -/
structure Rounds (v : ℚ) (c : Binary64) : Prop where
  le {k : ℤ} (hk : -1074 ≤ k) (h : v < 2 ^ k) : c.size ≤ 2 ^ k
  ge {k : ℤ} (hk : -1074 ≤ k) (h : 2 ^ k ≤ v) : 2 ^ k ≤ c.size

/-- A result that is exact. -/
theorem Rounds.of_eq {v : ℚ} {c : Binary64} (h : c.size = v) : Rounds v c :=
  ⟨fun _ hlt => h ▸ hlt.le, fun _ hle => h ▸ hle⟩

/-! ### Shifting -/

private theorem mantissa_shiftRight (em : ExtendedMantissa) (k : ℕ) : (em >>> k).mantissa = em.mantissa / 2 ^ k := by
  show (k.repeat ExtendedMantissa.shiftRightOne em).mantissa = _
  induction k with
  | zero => simp [Nat.repeat]
  | succ k ih =>
    rw [Nat.repeat, Nat.pow_succ, ← Nat.div_div_eq_div_mul, ← ih]
    rfl

private theorem roundBit_shiftRight (em : ExtendedMantissa) (k : ℕ) :
    (em >>> (k + 1)).roundBit = (em.mantissa / 2 ^ k % 2 != 0) := by
  rw [← mantissa_shiftRight]
  rfl

private theorem mantissa_ofMantissaAndAccuracy (m : ℕ) (accuracy : Accuracy) :
    (ExtendedMantissa.ofMantissaAndAccuracy m accuracy).mantissa = m := by
  cases accuracy with
  | exact => rfl
  | inexact o => cases o <;> rfl

private theorem roundedMantissa_bounds (em : ExtendedMantissa) :
    em.mantissa ≤ em.roundedMantissa ∧ em.roundedMantissa ≤ em.mantissa + 1 := by
  obtain ⟨m, roundBit, stickyBit⟩ := em
  cases roundBit <;> cases stickyBit <;>
    simp [ExtendedMantissa.roundedMantissa, ExtendedMantissa.accuracy, Accuracy.roundToNearestEven]
  omega

/-- Without the first of the two residual bits nothing is added. -/
private theorem roundedMantissa_of_roundBit {em : ExtendedMantissa} (h : em.roundBit = false) :
    em.roundedMantissa = em.mantissa := by
  obtain ⟨m, roundBit, stickyBit⟩ := em
  cases h
  cases stickyBit <;> rfl

/-! ### Rounding -/

/-- The exponent at which a mantissa is rounded. -/
def roundingExponent (m : ℕ) (e : ℤ) : ℤ := Format.binary64.targetExponent (totalExponent m e)

theorem roundingExponent_eq (m : ℕ) (e : ℤ) : roundingExponent m e = max (m.log2 + e - 52) (-1074) := by
  show max ((m.log2 : ℤ) + 1 + e - (53 : ℕ)) (-1074) = _
  omega

/-- The mantissa at the exponent at which it is rounded, with what is behind it. -/
def shifted (m : ℕ) (e : ℤ) (accuracy : Accuracy) : ExtendedMantissa :=
  ExtendedMantissa.ofMantissaAndAccuracy m accuracy >>> (roundingExponent m e - e).toNat

private theorem mantissa_shifted (m : ℕ) (e : ℤ) (accuracy : Accuracy) :
    (shifted m e accuracy).mantissa = m / 2 ^ (roundingExponent m e - e).toNat := by
  rw [shifted, mantissa_shiftRight, mantissa_ofMantissaAndAccuracy]

section Round

variable {m : ℕ} {e : ℤ} (accuracy : Accuracy) (he : e ≤ roundingExponent m e)

include he

private theorem mantissa_shifted_lt : (shifted m e accuracy).mantissa < 2 ^ 53 := by
  rw [mantissa_shifted, Nat.div_lt_iff_lt_mul (Nat.two_pow_pos _), ← Nat.pow_add]
  refine Nat.lt_log2_self.trans_le (Nat.pow_le_pow_right (by decide) ?_)
  have hexp := roundingExponent_eq m e
  omega

/-- Above the least exponent the leading digit stays in its place. -/
private theorem mantissa_shifted_ge (h : -1074 < roundingExponent m e) : 2 ^ 52 ≤ (shifted m e accuracy).mantissa := by
  have hexp := roundingExponent_eq m e
  have h0 : m ≠ 0 := by
    rintro rfl
    simp only [Nat.log2_zero] at hexp
    omega
  rw [mantissa_shifted, Nat.le_div_iff_mul_le (Nat.two_pow_pos _), ← Nat.pow_add]
  refine le_trans (Nat.pow_le_pow_right (by decide) ?_) (Nat.log2_self_le h0)
  omega

/-- Above the least exponent there are 53 digits. -/
private theorem two_zpow_le_of_lt (h : -1074 < roundingExponent m e) :
    (2 : ℚ) ^ (roundingExponent m e + 52) ≤ m * 2 ^ e := by
  have hge := mantissa_shifted_ge .exact he h
  rw [mantissa_shifted, Nat.le_div_iff_mul_le (Nat.two_pow_pos _), ← Nat.pow_add] at hge
  rw [two_zpow_le_mul (by omega)]
  refine le_trans (Nat.pow_le_pow_right (by decide) ?_) hge
  omega

/-- The result is the rounded mantissa at its exponent, brought to canonical parts. -/
private theorem exists_rounded (negative : Bool) (hmax : roundingExponent m e ≤ 970) :
    ∃ c : Binary64, c.Canonical ∧ c.negative = negative ∧
      roundWithAccuracy Format.binary64 (signOf negative) m e accuracy = c.unpacked ∧
      c.size = (shifted m e accuracy).roundedMantissa * 2 ^ roundingExponent m e := by
  have hmin : -1074 ≤ roundingExponent m e := by
    rw [roundingExponent_eq]
    omega
  have hlt := mantissa_shifted_lt accuracy he
  have hge := mantissa_shifted_ge accuracy he
  have hbounds := roundedMantissa_bounds (shifted m e accuracy)
  have hshift : shiftToTargetExponent Format.binary64 m e accuracy = (shifted m e accuracy, roundingExponent m e) := by
    have hexp : e + ((roundingExponent m e - e).toNat : ℤ) = roundingExponent m e := by omega
    exact Prod.ext rfl hexp
  -- whatever parts are canonical and stand for the rounded mantissa are those of the result
  have hresult (c : Binary64) (hc : c.Canonical) (hneg : c.negative = negative) (k : ℕ)
      (hm : (shifted m e accuracy).roundedMantissa = c.significand * 2 ^ k)
      (hexp : roundingExponent m e = c.exponent - k) (h0 : c.significand ≠ 0) :
      roundWithAccuracy Format.binary64 (signOf negative) m e accuracy = c.unpacked := by
    rw [roundWithAccuracy, hshift]
    dsimp only
    rw [hm, hexp, hc.shiftToTargetExponent_eq h0 k, unpacked_of_ne_zero h0, hneg]
    exact dif_neg h0
  by_cases hzero : (shifted m e accuracy).roundedMantissa = 0
  · have hexp : roundingExponent m e = -1074 := by
      by_contra hne
      have := hge (by omega)
      omega
    refine ⟨⟨negative, 0, -1074⟩, ⟨by norm_num, by norm_num, by norm_num, .inr rfl⟩, rfl, ?_, ?_⟩
    · rw [roundWithAccuracy, hshift]
      dsimp only
      rw [hzero, hexp, unpacked_of_eq_zero rfl]
      rfl
    · rw [hzero]
      simp [size]
  · by_cases hfits : (shifted m e accuracy).roundedMantissa < 2 ^ 53
    · have hc : Canonical ⟨negative, (shifted m e accuracy).roundedMantissa, roundingExponent m e⟩ := by
        refine ⟨hfits, hmin, by simp only; omega, ?_⟩
        by_cases hexp : roundingExponent m e = -1074
        · exact .inr hexp
        · exact .inl ((hge (by omega)).trans hbounds.1)
      exact ⟨_, hc, rfl, hresult _ hc rfl 0 (by simp) (by simp) hzero, rfl⟩
    · -- rounding up to the next power of two takes one more digit
      have hfull : (shifted m e accuracy).roundedMantissa = 2 ^ 53 := by omega
      have hc : Canonical ⟨negative, 2 ^ 52, roundingExponent m e + 1⟩ :=
        ⟨by norm_num, by simp only; omega, by simp only; omega, .inl le_rfl⟩
      refine ⟨_, hc, rfl, hresult _ hc rfl 1 hfull (by simp) (by norm_num), ?_⟩
      rw [hfull, size, zpow_add₀ two_ne_zero]
      push_cast
      ring

end Round

/-- A mantissa with something behind it, of which only the mantissa counts: no power of two is passed. -/
theorem roundWithAccuracy_rounds {m : ℕ} {e : ℤ} (accuracy : Accuracy) (he : e ≤ roundingExponent m e)
    (negative : Bool) (hsmall : (m : ℚ) * 2 ^ e < 2 ^ (1023 : ℤ)) :
    ∃ c : Binary64, c.Canonical ∧ c.negative = negative ∧
      roundWithAccuracy Format.binary64 (signOf negative) m e accuracy = c.unpacked ∧ Rounds (m * 2 ^ e) c := by
  have hexp := roundingExponent_eq m e
  have hbounds := roundedMantissa_bounds (shifted m e accuracy)
  have hmax : roundingExponent m e ≤ 970 := by
    by_contra hlarge
    have hpow : (2 : ℚ) ^ (1023 : ℤ) ≤ 2 ^ (roundingExponent m e + 52) :=
      zpow_le_zpow_right₀ one_le_two (by omega)
    exact absurd (hpow.trans (two_zpow_le_of_lt he (by omega))) (not_le.2 hsmall)
  obtain ⟨c, hc, hneg, hround, hsize⟩ := exists_rounded accuracy he negative hmax
  refine ⟨c, hc, hneg, hround, fun {k} hk hlt => ?_, fun {k} hk hle => ?_⟩
  · by_cases hke : roundingExponent m e ≤ k
    · rw [mul_lt_two_zpow (he.trans hke)] at hlt
      have hdiv : (shifted m e accuracy).mantissa < 2 ^ (k - roundingExponent m e).toNat := by
        rw [mantissa_shifted, Nat.div_lt_iff_lt_mul (Nat.two_pow_pos _), ← Nat.pow_add]
        refine hlt.trans_le (Nat.pow_le_pow_right (by decide) ?_)
        omega
      rw [hsize, mul_le_two_zpow hke]
      omega
    · have hpow : (2 : ℚ) ^ k ≤ 2 ^ (roundingExponent m e + 52) := zpow_le_zpow_right₀ one_le_two (by omega)
      exact absurd (hpow.trans (two_zpow_le_of_lt he (by omega))) (not_le.2 hlt)
  · by_cases hke : roundingExponent m e ≤ k
    · rw [two_zpow_le_mul (he.trans hke)] at hle
      have hdiv : 2 ^ (k - roundingExponent m e).toNat ≤ (shifted m e accuracy).mantissa := by
        rw [mantissa_shifted, Nat.le_div_iff_mul_le (Nat.two_pow_pos _), ← Nat.pow_add]
        refine le_trans (Nat.pow_le_pow_right (by decide) ?_) hle
        omega
      rw [hsize, two_zpow_le_mul hke]
      omega
    · have hpos : 0 < (shifted m e accuracy).roundedMantissa := by
        have hge := mantissa_shifted_ge accuracy he (by omega)
        have : 0 < 2 ^ 52 := Nat.two_pow_pos 52
        omega
      have hone : (1 : ℚ) ≤ (shifted m e accuracy).roundedMantissa := by exact_mod_cast hpos
      calc (2 : ℚ) ^ k ≤ 2 ^ roundingExponent m e := zpow_le_zpow_right₀ one_le_two (by omega)
        _ = 1 * 2 ^ roundingExponent m e := (one_mul _).symm
        _ ≤ (shifted m e accuracy).roundedMantissa * 2 ^ roundingExponent m e := by gcongr
        _ = c.size := hsize.symm

/-- What is below half of the least positive number is lost. -/
theorem roundWithAccuracy_lost {m : ℕ} {e : ℤ} (he : e ≤ roundingExponent m e) (negative : Bool)
    (hlost : (m : ℚ) * 2 ^ e < 2 ^ (-1075 : ℤ)) :
    roundWithAccuracy Format.binary64 (signOf negative) m e .exact = .zero (signOf negative) := by
  have hexp : roundingExponent m e = -1074 := by
    by_contra hne
    have hmin := roundingExponent_eq m e
    have hpow : (2 : ℚ) ^ (-1075 : ℤ) ≤ 2 ^ (roundingExponent m e + 52) := zpow_le_zpow_right₀ one_le_two (by omega)
    exact absurd (hpow.trans (two_zpow_le_of_lt he (by omega))) (not_le.2 hlost)
  have hrounded : (shifted m e .exact).roundedMantissa = 0 := by
    by_cases hleast : e = -1074
    · have hm : m = 0 := by
        have hlt : (m : ℚ) * 2 ^ e < 2 ^ (-1074 : ℤ) :=
          hlost.trans (zpow_lt_zpow_right₀ one_lt_two (by norm_num))
        rw [hleast, mul_lt_two_zpow le_rfl] at hlt
        simpa using hlt
      rw [shifted, hexp, hleast, hm]
      rfl
    · -- the digit that decides about rounding up is a zero
      obtain ⟨k, hk⟩ : ∃ k : ℕ, (roundingExponent m e - e).toNat = k + 1 :=
        ⟨(-1075 - e).toNat, by omega⟩
      have hlt : m < 2 ^ k := by
        rw [mul_lt_two_zpow (by omega)] at hlost
        have hke : (-1075 - e).toNat = k := by omega
        rwa [hke] at hlost
      have hbit : (shifted m e .exact).roundBit = false := by
        rw [shifted, hk, roundBit_shiftRight, mantissa_ofMantissaAndAccuracy, Nat.div_eq_of_lt hlt]
        rfl
      rw [roundedMantissa_of_roundBit hbit, mantissa_shifted, hk, Nat.pow_succ]
      exact Nat.div_eq_of_lt (hlt.trans_le (Nat.le_mul_of_pos_right _ two_pos))
  obtain ⟨c, -, hneg, hround, hsize⟩ := exists_rounded .exact he negative (by rw [hexp]; norm_num)
  rw [hrounded, Nat.cast_zero, zero_mul, size_eq_zero] at hsize
  rw [hround, unpacked_of_eq_zero hsize, hneg]

end EquatorialMount.Binary64
