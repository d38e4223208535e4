import Mathlib.Data.Nat.Cast.Order.Field
import Mathlib.Tactic.FieldSimp
import EquatorialMount.Proofs.Binary64.Rounding
import EquatorialMount.Proofs.Binary64.Sign

/-!
# The operations between powers of two

Sum, difference, product, quotient and square root of finite numbers are finite unless they are too large, and none is
rounded past a power of two.  A product is lost only below half of the least positive number.
-/

namespace EquatorialMount.Binary64

open Float.Model Float.Model.UnpackedFloat

/-! ### Values as fractions -/

/-- The value of a number as a fraction. -/
def value (b : Binary64) : ℚ := if b.negative then -b.size else b.size

theorem abs_value (b : Binary64) : |b.value| = b.size := by
  unfold value
  split
  · rw [abs_neg, abs_of_nonneg b.size_nonneg]
  · exact abs_of_nonneg b.size_nonneg

theorem value_of_not_negative {b : Binary64} (h : b.negative = false) : b.value = b.size := by
  simp [value, h]

theorem value_opposite (b : Binary64) : b.opposite.value = -b.value := by
  unfold value opposite size
  cases b.negative <;> simp

theorem Canonical.size_eq {b : Binary64} (hb : b.Canonical) : b.size = b.magnitude * 2 ^ (-1074 : ℤ) := by
  have hexp : (b.exponent - -1074).toNat = (b.exponent + 1074).toNat := by omega
  rw [size, two_zpow_eq hb.exponent_ge, hexp, magnitude, Nat.cast_mul, mul_assoc]

theorem Canonical.value_eq {b : Binary64} (hb : b.Canonical) : b.value = b.units * 2 ^ (-1074 : ℤ) := by
  unfold value units
  rw [hb.size_eq]
  split
  · rw [Int.cast_neg, neg_mul, Int.cast_natCast]
  · rw [Int.cast_natCast]

/-- Numbers are compared as their values are. -/
theorem le_iff_value {x y : Float} {a b : Binary64} (hx : ofFloat? x = some a) (hy : ofFloat? y = some b) :
    x ≤ y ↔ a.value ≤ b.value := by
  rw [le_iff hx hy, (canonical_of_ofFloat? hx).value_eq, (canonical_of_ofFloat? hy).value_eq,
    mul_le_mul_iff_left₀ (by positivity), Int.cast_le]

/-! ### Products -/

private theorem le_roundingExponent_mul {a b : Binary64} (ha : a.Canonical) (hb : b.Canonical) (ha0 : a.significand ≠ 0)
    (hb0 : b.significand ≠ 0) :
    a.exponent + b.exponent ≤ roundingExponent (a.significand * b.significand) (a.exponent + b.exponent) := by
  have hmin := ha.exponent_ge
  have hmin' := hb.exponent_ge
  have h0 : a.significand * b.significand ≠ 0 := Nat.mul_ne_zero ha0 hb0
  have hlog (h : 2 ^ 52 ≤ a.significand * b.significand) :
      52 ≤ (a.significand * b.significand).log2 := (Nat.le_log2 h0).2 h
  rw [roundingExponent_eq]
  rcases ha.normal with h | h
  · have := hlog (h.trans (Nat.le_mul_of_pos_right _ (Nat.pos_of_ne_zero hb0)))
    omega
  · rcases hb.normal with h' | h'
    · have := hlog (h'.trans (Nat.le_mul_of_pos_left _ (Nat.pos_of_ne_zero ha0)))
      omega
    · omega

private theorem size_mul_size (a b : Binary64) :
    a.size * b.size = ((a.significand * b.significand : ℕ) : ℚ) * 2 ^ (a.exponent + b.exponent) := by
  unfold size
  rw [zpow_add₀ two_ne_zero, Nat.cast_mul]
  ring

/-- A product is not rounded past a power of two, and it is lost below half of the least positive number. -/
theorem ofFloat?_mul {x y : Float} {a b : Binary64} (hx : ofFloat? x = some a) (hy : ofFloat? y = some b)
    (hsmall : a.size * b.size < 2 ^ (1023 : ℤ)) :
    ∃ c, ofFloat? (x * y) = some c ∧ c.negative = (a.negative ^^ b.negative) ∧ Rounds (a.size * b.size) c ∧
      (a.size * b.size < 2 ^ (-1075 : ℤ) → c.size = 0) := by
  have ha := canonical_of_ofFloat? hx
  have hb := canonical_of_ofFloat? hy
  have hmul : ofFloat? (x * y) =
      ofFloat? ⟨Float.Model.pack (UnpackedFloat.mul Format.binary64 a.unpacked b.unpacked)⟩ := by
    rw [← unpack_eq hx, ← unpack_eq hy]
    rfl
  by_cases h0 : a.significand = 0 ∨ b.significand = 0
  · have hzero : UnpackedFloat.mul Format.binary64 a.unpacked b.unpacked =
        unpacked ⟨a.negative ^^ b.negative, 0, -1074⟩ := by
      rw [unpacked_of_eq_zero (b := ⟨a.negative ^^ b.negative, 0, -1074⟩) rfl, ← signOf_mul]
      by_cases ha0 : a.significand = 0
      · by_cases hb0 : b.significand = 0
        · rw [unpacked_of_eq_zero ha0, unpacked_of_eq_zero hb0]
          rfl
        · rw [unpacked_of_eq_zero ha0, unpacked_of_ne_zero hb0]
          rfl
      · rw [unpacked_of_ne_zero ha0, unpacked_of_eq_zero (h0.resolve_left ha0)]
        rfl
    have hc : Canonical ⟨a.negative ^^ b.negative, 0, -1074⟩ :=
      ⟨by norm_num, by norm_num, by norm_num, .inr rfl⟩
    have hsize : size ⟨a.negative ^^ b.negative, 0, -1074⟩ = 0 := size_eq_zero.2 rfl
    refine ⟨_, by rw [hmul, hzero, ofFloat?_pack hc], rfl, .of_eq ?_, fun _ => hsize⟩
    rw [hsize, eq_comm, mul_eq_zero, size_eq_zero, size_eq_zero]
    exact h0
  · rw [not_or] at h0
    obtain ⟨ha0, hb0⟩ := h0
    have he := le_roundingExponent_mul ha hb ha0 hb0
    have hround : UnpackedFloat.mul Format.binary64 a.unpacked b.unpacked =
        roundWithAccuracy Format.binary64 (signOf (a.negative ^^ b.negative)) (a.significand * b.significand)
          (a.exponent + b.exponent) .exact := by
      rw [unpacked_of_ne_zero ha0, unpacked_of_ne_zero hb0, ← signOf_mul]
      rfl
    rw [size_mul_size] at hsmall ⊢
    obtain ⟨c, hc, hneg, hresult, hrounds⟩ := roundWithAccuracy_rounds .exact he (a.negative ^^ b.negative) hsmall
    have hpart : ofFloat? (x * y) = some c := by rw [hmul, hround, hresult, ofFloat?_pack hc]
    refine ⟨c, hpart, hneg, hrounds, fun hlost => ?_⟩
    have hzero := hresult.symm.trans (roundWithAccuracy_lost he _ hlost)
    by_contra hne
    rw [unpacked_of_ne_zero (mt size_eq_zero.2 hne)] at hzero
    cases hzero

/-! ### Sums and differences -/

private theorem decreaseExponent_value (m : ℕ) (e t : ℤ) :
    ((decreaseExponent m e t).1 : ℚ) * 2 ^ (decreaseExponent m e t).2 = m * 2 ^ e := by
  have hexp : (e - (e - (e - t).toNat)).toNat = (e - t).toNat := by omega
  simp only [decreaseExponent, Nat.shiftLeft_eq]
  rw [two_zpow_eq (e := e - (e - t).toNat) (k := e) (by omega), hexp, Nat.cast_mul, mul_assoc]

private theorem round_rounds {m : ℕ} {e : ℤ} (h0 : m ≠ 0) (negative : Bool)
    (hsmall : (m : ℚ) * 2 ^ e < 2 ^ (1023 : ℤ)) :
    ∃ c : Binary64, c.Canonical ∧ c.negative = negative ∧
      UnpackedFloat.round Format.binary64 (signOf negative) m e = c.unpacked ∧ Rounds (m * 2 ^ e) c := by
  have hvalue := decreaseExponent_value m e (roundingExponent m e)
  have he : (decreaseExponent m e (roundingExponent m e)).2 ≤
      roundingExponent (decreaseExponent m e (roundingExponent m e)).1
        (decreaseExponent m e (roundingExponent m e)).2 := by
    simp only [decreaseExponent, Nat.shiftLeft_eq]
    have htotal := totalExponent_mul_two_pow h0 e (e - roundingExponent m e).toNat
    have hsame : roundingExponent (m * 2 ^ (e - roundingExponent m e).toNat) (e - (e - roundingExponent m e).toNat) =
        roundingExponent m e := by
      conv_lhs => rw [roundingExponent, htotal]
      rfl
    rw [hsame]
    omega
  rw [← hvalue] at hsmall ⊢
  exact roundWithAccuracy_rounds .exact he negative hsmall

private theorem alignedSum_value {a b : Binary64} (ha : a.Canonical) (hb : b.Canonical) :
    (alignedSum a b : ℚ) * 2 ^ min a.exponent b.exponent = a.value + b.value := by
  have hmin := ha.exponent_ge
  have hmin' := hb.exponent_ge
  have hunits : ((alignedSum a b * 2 ^ (min a.exponent b.exponent + 1074).toNat : ℤ) : ℚ) = (a.units + b.units : ℤ) :=
    congrArg _ (alignedSum_mul a b ha hb)
  have hexp : (min a.exponent b.exponent - -1074).toNat = (min a.exponent b.exponent + 1074).toNat := by omega
  rw [two_zpow_eq (e := -1074) (k := min a.exponent b.exponent) (by omega), hexp, ha.value_eq, hb.value_eq, ← add_mul,
    ← Int.cast_add, ← hunits, ← mul_assoc]
  refine congrArg (· * _) ?_
  rw [Int.cast_mul, Int.cast_pow, Nat.cast_pow]
  rfl

private theorem canonical_zero (negative : Bool) : Canonical ⟨negative, 0, -1074⟩ :=
  ⟨by norm_num, by norm_num, by norm_num, .inr rfl⟩

private theorem normalize_rounds {m e : ℤ} (hsmall : |(m : ℚ) * 2 ^ e| < 2 ^ (1023 : ℤ)) :
    ∃ c : Binary64, c.Canonical ∧ UnpackedFloat.normalize Format.binary64 m e .positive = c.unpacked ∧
      Rounds |(m : ℚ) * 2 ^ e| c ∧ (0 ≤ m → c.negative = false) := by
  have hpow : (0 : ℚ) < 2 ^ e := by positivity
  have habs : |(m : ℚ) * 2 ^ e| = (m.natAbs : ℚ) * 2 ^ e := by
    rw [abs_mul, abs_of_pos hpow, Nat.cast_natAbs, Int.cast_abs]
  rw [habs] at hsmall ⊢
  unfold UnpackedFloat.normalize
  rcases lt_trichotomy m 0 with hlt | rfl | hgt
  · obtain ⟨c, hc, -, hround, hrounds⟩ := round_rounds (Int.natAbs_ne_zero.2 hlt.ne) true hsmall
    have hnat : (-m).toNat = m.natAbs := by omega
    rw [compare_lt_iff_lt.2 hlt, hnat]
    exact ⟨c, hc, hround, hrounds, fun hle => absurd hle (not_le.2 hlt)⟩
  · refine ⟨⟨false, 0, -1074⟩, canonical_zero false, ?_, .of_eq ?_, fun _ => rfl⟩
    · exact (unpacked_of_eq_zero (b := ⟨false, 0, -1074⟩) rfl).symm
    · rw [Int.natAbs_zero, Nat.cast_zero, zero_mul]
      exact size_eq_zero.2 rfl
  · obtain ⟨c, hc, hneg, hround, hrounds⟩ := round_rounds (Int.natAbs_ne_zero.2 hgt.ne') false hsmall
    have hnat : m.toNat = m.natAbs := by omega
    rw [compare_gt_iff_gt.2 hgt, hnat]
    exact ⟨c, hc, hround, hrounds, fun _ => hneg⟩

theorem add_rounds {a b : Binary64} (ha : a.Canonical) (hb : b.Canonical)
    (hsmall : |a.value + b.value| < 2 ^ (1023 : ℤ)) :
    ∃ c : Binary64, c.Canonical ∧ UnpackedFloat.add Format.binary64 a.unpacked b.unpacked = c.unpacked ∧
      Rounds |a.value + b.value| c ∧ (a.negative = false → b.negative = false → c.negative = false) := by
  have hvalue {d : Binary64} (h : d.significand = 0) : d.value = 0 :=
    abs_eq_zero.1 ((abs_value d).trans (size_eq_zero.2 h))
  by_cases ha0 : a.significand = 0
  · by_cases hb0 : b.significand = 0
    · refine ⟨⟨a.negative && b.negative, 0, -1074⟩, canonical_zero _, ?_, .of_eq ?_, fun hneg _ => by simp [hneg]⟩
      · rw [unpacked_of_eq_zero ha0, unpacked_of_eq_zero hb0, unpacked_of_eq_zero rfl]
        cases a.negative <;> cases b.negative <;> rfl
      · rw [hvalue ha0, hvalue hb0, add_zero, abs_zero]
        exact size_eq_zero.2 rfl
    · refine ⟨b, hb, ?_, .of_eq ?_, fun _ hneg => hneg⟩
      · rw [unpacked_of_eq_zero ha0, unpacked_of_ne_zero hb0]
        rfl
      · rw [hvalue ha0, zero_add, abs_value]
  · by_cases hb0 : b.significand = 0
    · refine ⟨a, ha, ?_, .of_eq ?_, fun hneg _ => hneg⟩
      · rw [unpacked_of_eq_zero hb0, unpacked_of_ne_zero ha0]
        rfl
      · rw [hvalue hb0, add_zero, abs_value]
    · rw [← alignedSum_value ha hb] at hsmall ⊢
      obtain ⟨c, hc, hresult, hrounds, hneg⟩ := normalize_rounds hsmall
      refine ⟨c, hc, (add_unpacked_of_ne_zero ha0 hb0).trans hresult, hrounds, fun hna hnb => hneg ?_⟩
      -- the sum of two numbers that are not negative is none
      have hunits := alignedSum_mul a b ha hb
      rw [units_of_not_negative hna, units_of_not_negative hnb] at hunits
      have hpow : (0 : ℤ) < 2 ^ (min a.exponent b.exponent + 1074).toNat := by positivity
      exact nonneg_of_mul_nonneg_left (by omega) hpow

/-- A sum is not rounded past a power of two. -/
theorem ofFloat?_add_rounds {x y : Float} {a b : Binary64} (hx : ofFloat? x = some a) (hy : ofFloat? y = some b)
    (hsmall : |a.value + b.value| < 2 ^ (1023 : ℤ)) :
    ∃ c, ofFloat? (x + y) = some c ∧ Rounds |a.value + b.value| c ∧
      (a.negative = false → b.negative = false → c.negative = false) := by
  obtain ⟨c, hc, hresult, hrounds⟩ := add_rounds (canonical_of_ofFloat? hx) (canonical_of_ofFloat? hy) hsmall
  refine ⟨c, ?_, hrounds⟩
  show ofFloat? ⟨Float.Model.pack (UnpackedFloat.add Format.binary64 x.toModel.unpack y.toModel.unpack)⟩ = _
  rw [unpack_eq hx, unpack_eq hy, hresult]
  exact ofFloat?_pack hc

/-- A difference is not rounded past a power of two. -/
theorem ofFloat?_sub_rounds {x y : Float} {a b : Binary64} (hx : ofFloat? x = some a) (hy : ofFloat? y = some b)
    (hsmall : |a.value - b.value| < 2 ^ (1023 : ℤ)) :
    ∃ c, ofFloat? (x - y) = some c ∧ Rounds |a.value - b.value| c := by
  rw [sub_eq_add_neg, ← value_opposite] at hsmall ⊢
  obtain ⟨c, hc, hresult, hrounds, -⟩ :=
    add_rounds (canonical_of_ofFloat? hx) (canonical_of_ofFloat? hy).opposite hsmall
  refine ⟨c, ?_, hrounds⟩
  show ofFloat? ⟨Float.Model.pack (UnpackedFloat.sub Format.binary64 x.toModel.unpack y.toModel.unpack)⟩ = _
  rw [unpack_eq hx, unpack_eq hy, sub_unpacked, hresult]
  exact ofFloat?_pack hc

/-! ### Quotients and square roots -/

/-- The whole part of a magnitude at an exponent, with 53 digits above the least exponent, has passed no power of
two. -/
private theorem two_zpow_le_floor {v : ℚ} {q : ℕ} {e k : ℤ} (hlt : v < (q + 1) * 2 ^ e)
    (hdigits : e ≤ -1074 ∨ 2 ^ 52 ≤ q) (hk : -1074 ≤ k) (h : 2 ^ k ≤ v) : 2 ^ k ≤ (q : ℚ) * 2 ^ e := by
  by_cases hke : e ≤ k
  · have hnat : 2 ^ (k - e).toNat < q + 1 := by
      have hcast : (2 : ℚ) ^ k < ((q + 1 : ℕ) : ℚ) * 2 ^ e := by
        push_cast
        exact h.trans_lt hlt
      rw [two_zpow_eq hke, mul_lt_mul_iff_left₀ (by positivity)] at hcast
      exact_mod_cast hcast
    rw [two_zpow_le_mul hke]
    omega
  · have hq : (1 : ℚ) ≤ q := by
      have hpos : 1 ≤ q := (Nat.one_le_two_pow (n := 52)).trans (hdigits.resolve_left (by omega))
      exact_mod_cast hpos
    calc (2 : ℚ) ^ k ≤ 2 ^ e := zpow_le_zpow_right₀ one_le_two (by omega)
      _ = 1 * 2 ^ e := (one_mul _).symm
      _ ≤ q * 2 ^ e := by gcongr

private theorem le_roundingExponent_of_digits {q : ℕ} {e : ℤ} (hdigits : e ≤ -1074 ∨ 2 ^ 52 ≤ q) :
    e ≤ roundingExponent q e := by
  rw [roundingExponent_eq]
  rcases hdigits with h | h
  · omega
  · have h0 : q ≠ 0 := by
      have := Nat.two_pow_pos 52
      omega
    have := (Nat.le_log2 h0).2 h
    omega

/-- The exponent at which a quotient is cut to a whole number. -/
def quotientExponent (a b : Binary64) : ℤ :=
  min (a.exponent - b.exponent) (Format.binary64.targetExponent
    (totalExponent a.significand a.exponent - totalExponent b.significand b.exponent))

private theorem quotientExponent_eq (a b : Binary64) : quotientExponent a b = min (a.exponent - b.exponent)
    (max (a.significand.log2 + a.exponent - (b.significand.log2 + b.exponent) - 53) (-1074)) := by
  show min _ (max ((a.significand.log2 : ℤ) + 1 + a.exponent - (b.significand.log2 + 1 + b.exponent) - (53 : ℕ))
    (-1074)) = _
  omega

/-- The whole part of a quotient at its exponent. -/
def wholeQuotient (a b : Binary64) : ℕ :=
  a.significand <<< (a.exponent - b.exponent - quotientExponent a b).toNat / b.significand

section Quotient

variable {a b : Binary64} (hb0 : b.significand ≠ 0)

include hb0

private theorem wholeQuotient_digits (ha0 : a.significand ≠ 0) :
    quotientExponent a b ≤ -1074 ∨ 2 ^ 52 ≤ wholeQuotient a b := by
  have hexp := quotientExponent_eq a b
  refine or_iff_not_imp_left.2 fun hlarge => ?_
  rw [wholeQuotient, Nat.shiftLeft_eq, Nat.le_div_iff_mul_le (Nat.pos_of_ne_zero hb0)]
  calc 2 ^ 52 * b.significand ≤ 2 ^ 52 * 2 ^ (b.significand.log2 + 1) :=
        Nat.mul_le_mul_left _ Nat.lt_log2_self.le
    _ = 2 ^ (52 + (b.significand.log2 + 1)) := (Nat.pow_add ..).symm
    _ ≤ 2 ^ (a.significand.log2 + (a.exponent - b.exponent - quotientExponent a b).toNat) :=
        Nat.pow_le_pow_right (by decide) (by omega)
    _ = 2 ^ a.significand.log2 * 2 ^ (a.exponent - b.exponent - quotientExponent a b).toNat := Nat.pow_add ..
    _ ≤ a.significand * 2 ^ (a.exponent - b.exponent - quotientExponent a b).toNat :=
        Nat.mul_le_mul_right _ (Nat.log2_self_le ha0)

private theorem wholeQuotient_bounds : (wholeQuotient a b : ℚ) * 2 ^ quotientExponent a b ≤ a.size / b.size ∧
    a.size / b.size < (wholeQuotient a b + 1) * 2 ^ quotientExponent a b := by
  have hexp := quotientExponent_eq a b
  have hpos : (0 : ℚ) < b.significand := by exact_mod_cast Nat.pos_of_ne_zero hb0
  have hvalue : a.size / b.size =
      ((a.significand <<< (a.exponent - b.exponent - quotientExponent a b).toNat : ℕ) : ℚ) / b.significand *
        2 ^ quotientExponent a b := by
    have hsplit : (2 : ℚ) ^ a.exponent =
        ((2 ^ (a.exponent - b.exponent - quotientExponent a b).toNat : ℕ) : ℚ) * 2 ^ quotientExponent a b *
          2 ^ b.exponent := by
      rw [← two_zpow_eq (by omega), ← zpow_add₀ two_ne_zero, sub_add_cancel]
    unfold size
    rw [hsplit, Nat.shiftLeft_eq, Nat.cast_mul]
    field_simp
  rw [hvalue]
  unfold wholeQuotient
  generalize a.significand <<< (a.exponent - b.exponent - quotientExponent a b).toNat = n
  constructor
  · gcongr
    exact Nat.cast_div_le
  · gcongr
    rw [div_lt_iff₀ hpos]
    rw [mul_comm]
    exact_mod_cast Nat.lt_mul_div_succ n (Nat.pos_of_ne_zero hb0)

/-- A quotient is not rounded past a power of two. -/
private theorem div_rounds (hsmall : a.size / b.size < 2 ^ (1023 : ℤ)) :
    ∃ c : Binary64, c.Canonical ∧ UnpackedFloat.div Format.binary64 a.unpacked b.unpacked = c.unpacked ∧
      Rounds (a.size / b.size) c := by
  by_cases ha0 : a.significand = 0
  · refine ⟨⟨a.negative ^^ b.negative, 0, -1074⟩, canonical_zero _, ?_, .of_eq ?_⟩
    · rw [unpacked_of_eq_zero ha0, unpacked_of_ne_zero hb0,
        unpacked_of_eq_zero (b := ⟨a.negative ^^ b.negative, 0, -1074⟩) rfl, ← signOf_mul]
      cases a.negative <;> cases b.negative <;> rfl
    · rw [size_eq_zero.2 ha0, zero_div]
      exact size_eq_zero.2 rfl
  · obtain ⟨hle, hlt⟩ := wholeQuotient_bounds (a := a) hb0
    have hdigits := wholeQuotient_digits (a := a) hb0 ha0
    obtain ⟨accuracy, hround⟩ : ∃ accuracy, UnpackedFloat.div Format.binary64 a.unpacked b.unpacked =
        roundWithAccuracy Format.binary64 (signOf (a.negative ^^ b.negative)) (wholeQuotient a b)
          (quotientExponent a b) accuracy := by
      rw [unpacked_of_ne_zero ha0, unpacked_of_ne_zero hb0, ← signOf_mul]
      refine ⟨_, congrArg (fun s => roundWithAccuracy Format.binary64 s _ _ _) ?_⟩
      cases a.negative <;> cases b.negative <;> rfl
    obtain ⟨c, hc, -, hresult, hrounds⟩ := roundWithAccuracy_rounds accuracy (le_roundingExponent_of_digits hdigits)
      (a.negative ^^ b.negative) (hle.trans_lt hsmall)
    exact ⟨c, hc, hround.trans hresult, fun hk h => hrounds.le hk (hle.trans_lt h),
      fun hk h => hrounds.ge hk (two_zpow_le_floor hlt hdigits hk h)⟩

end Quotient

theorem ofFloat?_div {x y : Float} {a b : Binary64} (hx : ofFloat? x = some a) (hy : ofFloat? y = some b)
    (hb0 : b.significand ≠ 0) (hsmall : a.size / b.size < 2 ^ (1023 : ℤ)) :
    ∃ c, ofFloat? (x / y) = some c ∧ Rounds (a.size / b.size) c := by
  obtain ⟨c, hc, hresult, hrounds⟩ := div_rounds hb0 hsmall
  refine ⟨c, ?_, hrounds⟩
  show ofFloat? ⟨Float.Model.pack (UnpackedFloat.div Format.binary64 x.toModel.unpack y.toModel.unpack)⟩ = _
  rw [unpack_eq hx, unpack_eq hy, hresult]
  exact ofFloat?_pack hc

/-! ### Square roots -/

/-- The exponent at which a square root is cut to a whole number. -/
def rootExponent (b : Binary64) : ℤ :=
  min (b.exponent.ediv 2) (Format.binary64.targetExponent ((totalExponent b.significand b.exponent + 1).ediv 2))

private theorem rootExponent_eq (b : Binary64) :
    rootExponent b = min (b.exponent / 2) (max ((b.significand.log2 + b.exponent + 2) / 2 - 53) (-1074)) := by
  show min (b.exponent / 2) (max (((b.significand.log2 : ℤ) + 1 + b.exponent + 1) / 2 - (53 : ℕ)) (-1074)) = _
  omega

/-- The number whose whole root is taken: the significand at twice that exponent. -/
def underRoot (b : Binary64) : ℕ := b.significand <<< (b.exponent - 2 * rootExponent b).toNat

private theorem size_eq_underRoot (b : Binary64) :
    b.size = underRoot b * (2 ^ rootExponent b * 2 ^ rootExponent b) := by
  have hexp := rootExponent_eq b
  have htwice : rootExponent b + rootExponent b = 2 * rootExponent b := by omega
  rw [size, underRoot, Nat.shiftLeft_eq, ← zpow_add₀ two_ne_zero, htwice,
    two_zpow_eq (e := 2 * rootExponent b) (k := b.exponent) (by omega), Nat.cast_mul, mul_assoc]

private theorem sqrt_digits {b : Binary64} (hb0 : b.significand ≠ 0) :
    rootExponent b ≤ -1074 ∨ 2 ^ 52 ≤ (underRoot b).sqrt := by
  have hexp := rootExponent_eq b
  refine or_iff_not_imp_left.2 fun hlarge => ?_
  rw [Nat.le_sqrt, underRoot, Nat.shiftLeft_eq, ← Nat.pow_add]
  calc 2 ^ (52 + 52) ≤ 2 ^ (b.significand.log2 + (b.exponent - 2 * rootExponent b).toNat) :=
        Nat.pow_le_pow_right (by decide) (by omega)
    _ = 2 ^ b.significand.log2 * 2 ^ (b.exponent - 2 * rootExponent b).toNat := Nat.pow_add ..
    _ ≤ b.significand * 2 ^ (b.exponent - 2 * rootExponent b).toNat :=
        Nat.mul_le_mul_right _ (Nat.log2_self_le hb0)

theorem Canonical.size_lt {b : Binary64} (hb : b.Canonical) : b.size < 2 ^ (1024 : ℤ) := by
  have hmax := hb.exponent_le
  have hlt : (b.significand : ℚ) < 2 ^ (53 : ℤ) := by exact_mod_cast hb.significand_lt
  calc b.size < 2 ^ (53 : ℤ) * 2 ^ b.exponent := by unfold size; gcongr
    _ = 2 ^ (53 + b.exponent) := (zpow_add₀ two_ne_zero ..).symm
    _ ≤ 2 ^ (1024 : ℤ) := zpow_le_zpow_right₀ one_le_two (by omega)

/-- A result whose exact square is this: it has not passed any power of two on the way. -/
structure RoundsRoot (v : ℚ) (c : Binary64) : Prop where
  le {k : ℤ} (hk : -1074 ≤ k) (h : v < 2 ^ k * 2 ^ k) : c.size ≤ 2 ^ k
  ge {k : ℤ} (hk : -1074 ≤ k) (h : 2 ^ k * 2 ^ k ≤ v) : 2 ^ k ≤ c.size

/-- The square root of a number that is not negative is one, and it is not rounded past a power of two. -/
private theorem sqrt_rounds {b : Binary64} (hb : b.Canonical) (hneg : b.negative = false) :
    ∃ c : Binary64, c.Canonical ∧ c.negative = false ∧
      UnpackedFloat.sqrt Format.binary64 b.unpacked = c.unpacked ∧ RoundsRoot b.size c := by
  by_cases hb0 : b.significand = 0
  · have hzero : b.size = 0 := size_eq_zero.2 hb0
    refine ⟨b, hb, hneg, ?_, fun _ _ => ?_, fun {k} _ h => ?_⟩
    · rw [unpacked_of_eq_zero hb0]
      rfl
    · rw [hzero]
      positivity
    · rw [hzero] at h
      have hpow : (0 : ℚ) < 2 ^ k * 2 ^ k := by positivity
      exact absurd h (not_le.2 hpow)
  · have hdigits := sqrt_digits hb0
    have hpow : (0 : ℚ) < 2 ^ rootExponent b := by positivity
    -- the whole root at its exponent, and the next number after it
    have hle : ((underRoot b).sqrt * 2 ^ rootExponent b : ℚ) * ((underRoot b).sqrt * 2 ^ rootExponent b) ≤ b.size := by
      have hnat : ((underRoot b).sqrt * (underRoot b).sqrt : ℚ) ≤ underRoot b := by
        exact_mod_cast Nat.sqrt_le (underRoot b)
      rw [size_eq_underRoot, mul_mul_mul_comm]
      gcongr
    have hlt : b.size < (((underRoot b).sqrt + 1) * 2 ^ rootExponent b : ℚ) *
        (((underRoot b).sqrt + 1) * 2 ^ rootExponent b) := by
      have hnat : (underRoot b : ℚ) < ((underRoot b).sqrt + 1) * ((underRoot b).sqrt + 1) := by
        exact_mod_cast Nat.lt_succ_sqrt (underRoot b)
      rw [size_eq_underRoot, mul_mul_mul_comm]
      gcongr
    have hbelow {k : ℤ} (h : b.size < 2 ^ k * 2 ^ k) : ((underRoot b).sqrt : ℚ) * 2 ^ rootExponent b < 2 ^ k :=
      lt_of_mul_self_lt_mul_self₀ (by positivity) (hle.trans_lt h)
    have hsmall : b.size < 2 ^ (1023 : ℤ) * 2 ^ (1023 : ℤ) := by
      refine hb.size_lt.trans_le ?_
      rw [← zpow_add₀ two_ne_zero]
      exact zpow_le_zpow_right₀ one_le_two (by norm_num)
    obtain ⟨accuracy, hround⟩ : ∃ accuracy, UnpackedFloat.sqrt Format.binary64 b.unpacked =
        roundWithAccuracy Format.binary64 (signOf false) (underRoot b).sqrt (rootExponent b) accuracy := by
      rw [unpacked_of_ne_zero hb0, hneg]
      exact ⟨_, rfl⟩
    obtain ⟨c, hc, hneg, hresult, hrounds⟩ := roundWithAccuracy_rounds accuracy (le_roundingExponent_of_digits hdigits)
      false (hbelow hsmall)
    refine ⟨c, hc, hneg, hround.trans hresult, fun hk h => hrounds.le hk (hbelow h), fun {k} hk h => ?_⟩
    have habove : (2 : ℚ) ^ k < ((underRoot b).sqrt + 1) * 2 ^ rootExponent b :=
      lt_of_mul_self_lt_mul_self₀ (by positivity) (h.trans_lt hlt)
    exact hrounds.ge hk (two_zpow_le_floor habove hdigits hk le_rfl)

theorem ofFloat?_sqrt {x : Float} {b : Binary64} (hx : ofFloat? x = some b) (hneg : b.negative = false) :
    ∃ c, ofFloat? x.sqrt = some c ∧ c.negative = false ∧ RoundsRoot b.size c := by
  obtain ⟨c, hc, hcneg, hresult, hrounds⟩ := sqrt_rounds (canonical_of_ofFloat? hx) hneg
  refine ⟨c, ?_, hcneg, hrounds⟩
  show ofFloat? ⟨Float.Model.pack (UnpackedFloat.sqrt Format.binary64 x.toModel.unpack)⟩ = _
  rw [unpack_eq hx, hresult]
  exact ofFloat?_pack hc

end EquatorialMount.Binary64
