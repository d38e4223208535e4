import EquatorialMount.Proofs.Binary64.Value

/-!
# Sums of binary64 numbers

A sum or a difference that is the value of some number is computed without rounding (`ofFloat?_add`, `ofFloat?_sub`):
its parts may come at any exponent, and rounding shifts them to the canonical one with nothing lost
(`Canonical.round_eq`).  A positive sum that has to be rounded is rounded to a number that is not negative, if not to
infinity (`add_of_pos`).
-/

namespace EquatorialMount.Binary64

open Float.Model Float.Model.UnpackedFloat

/-! ### Rounding -/

private theorem log2_mul_two_pow {m : Nat} (h0 : m ≠ 0) (k : Nat) : (m * 2 ^ k).log2 = m.log2 + k := by
  have hle := Nat.log2_self_le h0
  have hlt := @Nat.lt_log2_self m
  rw [Nat.log2_eq_iff (by positivity)]
  constructor
  · rw [Nat.pow_add]
    exact Nat.mul_le_mul_right _ hle
  · have h : m.log2 + k + 1 = m.log2 + 1 + k := by omega
    rw [h, Nat.pow_add]
    exact Nat.mul_lt_mul_of_pos_right hlt (Nat.two_pow_pos k)

/-- A mantissa with zeros behind it at a smaller exponent has the same leading bit. -/
theorem totalExponent_mul_two_pow {m : Nat} (h0 : m ≠ 0) (e : Int) (k : Nat) :
    totalExponent (m * 2 ^ k) (e - k) = totalExponent m e := by
  unfold totalExponent
  rw [log2_mul_two_pow h0]
  omega

/-- What stands for a canonical number is rounded at the exponent of that number. -/
private theorem Canonical.targetExponent_eq {c : Binary64} (hc : c.Canonical) {m : Nat} {e : Int} (h0 : m ≠ 0)
    (he : -1074 ≤ e) (h : m * 2 ^ (e + 1074).toNat = c.magnitude) :
    Format.binary64.targetExponent (totalExponent m e) = c.exponent := by
  have hmin := hc.exponent_ge
  have hc0 : c.significand ≠ 0 := by
    rw [Ne, ← magnitude_eq_zero, ← h]
    positivity
  have hlog : m.log2 + (e + 1074).toNat = c.significand.log2 + (c.exponent + 1074).toNat := by
    rw [← log2_mul_two_pow h0, h, magnitude, log2_mul_two_pow hc0]
  have hle : c.significand.log2 ≤ 52 := Nat.lt_succ_iff.1 ((Nat.log2_lt hc0).2 hc.significand_lt)
  have hge : 52 ≤ c.significand.log2 ∨ c.exponent = -1074 := hc.normal.imp_left (Nat.le_log2 hc0).2
  show max ((m.log2 : Int) + 1 + e - (53 : Nat)) (-1074) = c.exponent
  omega

private theorem shiftRight_exact (n k : Nat) :
    ExtendedMantissa.ofMantissaAndAccuracy (n * 2 ^ k) .exact >>> k =
      ExtendedMantissa.ofMantissaAndAccuracy n .exact := by
  show k.repeat ExtendedMantissa.shiftRightOne (ExtendedMantissa.ofMantissaAndAccuracy (n * 2 ^ k) .exact) = _
  induction k generalizing n with
  | zero => simp [Nat.repeat]
  | succ k ih =>
    have h : n * 2 ^ (k + 1) = (n * 2) * 2 ^ k := by ring
    rw [Nat.repeat, h, ih]
    simp [ExtendedMantissa.shiftRightOne, ExtendedMantissa.ofMantissaAndAccuracy]

section Round

variable {c : Binary64} (hc : c.Canonical) (h0 : c.significand ≠ 0)

include hc h0

/-- A mantissa that stands for a canonical one is shifted to that one, with nothing lost. -/
theorem Canonical.shiftToTargetExponent_eq (k : Nat) :
    shiftToTargetExponent Format.binary64 (c.significand * 2 ^ k) (c.exponent - k) .exact =
      (ExtendedMantissa.ofMantissaAndAccuracy c.significand .exact, c.exponent) := by
  have hk : (c.exponent - (c.exponent - k)).toNat = k := by omega
  have ht : Format.binary64.targetExponent (totalExponent c.significand c.exponent) = c.exponent :=
    hc.targetExponent_eq h0 hc.exponent_ge rfl
  simp only [shiftToTargetExponent, totalExponent_mul_two_pow h0, ht, shiftToExponent, hk, shiftRight_exact]
  congr 1
  omega

theorem Canonical.roundWithAccuracy_eq (k : Nat) :
    roundWithAccuracy Format.binary64 (signOf c.negative) (c.significand * 2 ^ k) (c.exponent - k) .exact =
      c.unpacked := by
  have h := hc.shiftToTargetExponent_eq h0 0
  rw [Nat.pow_zero, Nat.mul_one, Int.natCast_zero, sub_zero] at h
  have hround : (ExtendedMantissa.ofMantissaAndAccuracy c.significand .exact).roundedMantissa = c.significand := rfl
  rw [unpacked_of_ne_zero h0, roundWithAccuracy, hc.shiftToTargetExponent_eq h0 k]
  dsimp only
  rw [hround, h]
  exact dif_neg h0

/-- Rounding leaves alone what needs none. -/
theorem Canonical.round_eq {m : Nat} {e : Int} (he : -1074 ≤ e) (h : m * 2 ^ (e + 1074).toNat = c.magnitude) :
    UnpackedFloat.round Format.binary64 (signOf c.negative) m e = c.unpacked := by
  have hm0 : m ≠ 0 := by
    rintro rfl
    rw [Nat.zero_mul] at h
    exact h0 (magnitude_eq_zero.1 h.symm)
  have ht := hc.targetExponent_eq hm0 he h
  simp only [UnpackedFloat.round, ht, decreaseExponent, Nat.shiftLeft_eq]
  by_cases hle : e ≤ c.exponent
  · -- the exponent is too small and is not decreased
    obtain ⟨k, rfl⟩ : ∃ k : Nat, e = c.exponent - k := ⟨(c.exponent - e).toNat, by omega⟩
    have hk : (c.exponent - (c.exponent - k)).toNat = k := by omega
    have hz : (c.exponent - k - c.exponent).toNat = 0 := by omega
    have hm : m = c.significand * 2 ^ k := by
      rw [c.magnitude_eq_mul he hle, hk] at h
      exact Nat.eq_of_mul_eq_mul_right (Nat.two_pow_pos _) h
    rw [hz, Nat.pow_zero, Nat.mul_one, Int.natCast_zero, sub_zero, hm]
    exact hc.roundWithAccuracy_eq h0 k
  · -- the exponent is decreased to that of the number
    have hexp : e - (e - c.exponent).toNat = c.exponent := by omega
    have hm : m * 2 ^ (e - c.exponent).toNat = c.significand := by
      have hsplit := magnitude_eq_mul ⟨false, m, e⟩ hc.exponent_ge (not_le.1 hle).le
      refine Nat.eq_of_mul_eq_mul_right (Nat.two_pow_pos (c.exponent + 1074).toNat) ?_
      exact hsplit.symm.trans h
    rw [hm, hexp]
    simpa using hc.roundWithAccuracy_eq h0 0

end Round

/-! ### Sums -/

private theorem signOf_apply (negative : Bool) (n : Int) : (signOf negative).apply n = if negative then -n else n := by
  cases negative <;> rfl

/-- A mantissa that stands for a canonical number is normalized to it. -/
private theorem Canonical.normalize_eq {c : Binary64} (hc : c.Canonical) (h0 : c.units ≠ 0) {m e : Int} (he : -1074 ≤ e)
    (h : m * 2 ^ (e + 1074).toNat = c.units) : UnpackedFloat.normalize Format.binary64 m e .positive = c.unpacked := by
  have hpow : (0 : Int) < 2 ^ (e + 1074).toNat := by positivity
  have hround := fun m => hc.round_eq (mt units_eq_zero.2 h0) (m := m) he
  unfold UnpackedFloat.normalize
  obtain hm | rfl | hm := lt_trichotomy m 0
  · have hneg : c.negative = true := by
      by_contra hn
      rw [units_of_not_negative (by simpa using hn)] at h
      have := mul_neg_of_neg_of_pos hm hpow
      omega
    rw [units_of_negative hneg] at h
    rw [compare_lt_iff_lt.2 hm, ← hround (-m).toNat (by zify; rw [Int.toNat_of_nonneg (by omega)]; linarith), hneg]
    rfl
  · exact absurd (by simpa using h.symm) h0
  · have hpos : 0 < c.units := h ▸ mul_pos hm hpow
    rw [units_of_not_negative (not_negative_of_pos hpos)] at h
    rw [compare_gt_iff_gt.2 hm, ← hround m.toNat (by zify; rw [Int.toNat_of_nonneg hm.le, h]),
      not_negative_of_pos hpos]
    rfl

/-- The sum of the mantissas of two numbers at the smaller of their exponents. -/
def alignedSum (b c : Binary64) : Int :=
  (signOf b.negative).apply (decreaseExponent b.significand b.exponent (min b.exponent c.exponent)).1 +
    (signOf c.negative).apply (decreaseExponent c.significand c.exponent (min b.exponent c.exponent)).1

private theorem apply_decreaseExponent (b : Binary64) {e : Int} (hmin : -1074 ≤ e) (he : e ≤ b.exponent) :
    (signOf b.negative).apply (decreaseExponent b.significand b.exponent e).1 * 2 ^ (e + 1074).toNat = b.units := by
  rw [units, b.magnitude_eq_mul hmin he, signOf_apply, decreaseExponent, Nat.shiftLeft_eq]
  split <;> push_cast <;> ring

theorem alignedSum_mul (b c : Binary64) (hb : b.Canonical) (hc : c.Canonical) :
    alignedSum b c * 2 ^ (min b.exponent c.exponent + 1074).toNat = b.units + c.units := by
  have h1 := hb.exponent_ge
  have h2 := hc.exponent_ge
  rw [alignedSum, add_mul, apply_decreaseExponent b (by omega) (min_le_left ..),
    apply_decreaseExponent c (by omega) (min_le_right ..)]

theorem add_unpacked_of_ne_zero {b c : Binary64} (hb0 : b.significand ≠ 0) (hc0 : c.significand ≠ 0) :
    UnpackedFloat.add Format.binary64 b.unpacked c.unpacked =
      UnpackedFloat.normalize Format.binary64 (alignedSum b c) (min b.exponent c.exponent) .positive := by
  rw [unpacked_of_ne_zero hb0, unpacked_of_ne_zero hc0]
  rfl

/-- A sum that is a number needs no rounding. -/
private theorem Canonical.add_unpacked {a b c : Binary64} (ha : a.Canonical) (hb : b.Canonical) (hc : c.Canonical)
    (h : a.units + b.units = c.units) (h0 : c.units ≠ 0) :
    UnpackedFloat.add Format.binary64 a.unpacked b.unpacked = c.unpacked := by
  by_cases ha0 : a.significand = 0
  · rw [units_eq_zero.2 ha0, zero_add] at h
    obtain rfl := ext_units hb hc (h ▸ h0) h
    rw [unpacked_of_eq_zero ha0, unpacked_of_ne_zero (mt units_eq_zero.2 h0)]
    rfl
  · by_cases hb0 : b.significand = 0
    · rw [units_eq_zero.2 hb0, add_zero] at h
      obtain rfl := ext_units ha hc (h ▸ h0) h
      rw [unpacked_of_eq_zero hb0, unpacked_of_ne_zero ha0]
      rfl
    · rw [add_unpacked_of_ne_zero ha0 hb0]
      refine hc.normalize_eq h0 ?_ ((alignedSum_mul a b ha hb).trans h)
      have h1 := ha.exponent_ge
      have h2 := hb.exponent_ge
      omega

theorem ofFloat?_add {x y : Float} {a b c : Binary64} (hx : ofFloat? x = some a) (hy : ofFloat? y = some b)
    (hc : c.Canonical) (h : a.units + b.units = c.units) (h0 : c.units ≠ 0) : ofFloat? (x + y) = some c := by
  show ofFloat? ⟨Float.Model.pack (UnpackedFloat.add Format.binary64 x.toModel.unpack y.toModel.unpack)⟩ = _
  rw [unpack_eq hx, unpack_eq hy,
    (canonical_of_ofFloat? hx).add_unpacked (canonical_of_ofFloat? hy) hc h h0]
  exact ofFloat?_pack hc

/-- The number of the other sign. -/
def opposite (b : Binary64) : Binary64 := { b with negative := !b.negative }

theorem Canonical.opposite {b : Binary64} (hb : b.Canonical) : b.opposite.Canonical :=
  ⟨hb.significand_lt, hb.exponent_ge, hb.exponent_le, hb.normal⟩

theorem units_opposite (b : Binary64) : b.opposite.units = -b.units := by
  unfold opposite units magnitude
  cases b.negative <;> simp

theorem sub_unpacked (b c : Binary64) : UnpackedFloat.sub Format.binary64 b.unpacked c.unpacked =
    UnpackedFloat.add Format.binary64 b.unpacked c.opposite.unpacked := by
  have hop : signOf c.opposite.negative = -signOf c.negative := by
    show signOf (!c.negative) = _
    cases c.negative <;> rfl
  by_cases hb0 : b.significand = 0 <;> by_cases hc0 : c.significand = 0
  · rw [unpacked_of_eq_zero hb0, unpacked_of_eq_zero hc0, unpacked_of_eq_zero (b := c.opposite) hc0, hop]
    rfl
  · rw [unpacked_of_eq_zero hb0, unpacked_of_ne_zero hc0, unpacked_of_ne_zero (b := c.opposite) hc0, hop]
    rfl
  · rw [unpacked_of_ne_zero hb0, unpacked_of_eq_zero hc0, unpacked_of_eq_zero (b := c.opposite) hc0]
    rfl
  · have happly (n : Int) : (-signOf c.negative).apply n = -(signOf c.negative).apply n := by
      cases c.negative
      · rfl
      · exact (Int.neg_neg n).symm
    rw [unpacked_of_ne_zero hb0, unpacked_of_ne_zero hc0, unpacked_of_ne_zero (b := c.opposite) hc0, hop]
    refine congrArg (fun m => UnpackedFloat.normalize Format.binary64 m _ .positive) ?_
    rw [happly, ← Int.sub_eq_add_neg]
    rfl

theorem ofFloat?_sub {x y : Float} {a b c : Binary64} (hx : ofFloat? x = some a) (hy : ofFloat? y = some b)
    (hc : c.Canonical) (h : a.units - b.units = c.units) (h0 : c.units ≠ 0) : ofFloat? (x - y) = some c := by
  have hb := (canonical_of_ofFloat? hy).opposite
  show ofFloat? ⟨Float.Model.pack (UnpackedFloat.sub Format.binary64 x.toModel.unpack y.toModel.unpack)⟩ = _
  rw [unpack_eq hx, unpack_eq hy, sub_unpacked, (canonical_of_ofFloat? hx).add_unpacked hb hc
    (by rw [units_opposite]; exact h) h0]
  exact ofFloat?_pack hc

private theorem round_cases (s : Sign) (m : Nat) (e : Int) :
    UnpackedFloat.round Format.binary64 s m e = .zero s ∨
      ∃ m' e' h, UnpackedFloat.round Format.binary64 s m e = .finite s m' e' h := by
  unfold UnpackedFloat.round roundWithAccuracy
  dsimp only
  exact (Decidable.em _).imp (fun h => dif_pos h) fun h => ⟨_, _, Nat.pos_of_ne_zero h, dif_neg h⟩

private theorem unpack_pack_positive (m : Nat) (e : Int) (hm : 0 < m) :
    UnpackedFloat.unpack Format.binary64 (UnpackedFloat.pack Format.binary64 (.finite .positive m e hm)) =
        .infinity .positive ∨
      ∃ c, ofUnpacked? (UnpackedFloat.unpack Format.binary64 (UnpackedFloat.pack Format.binary64
        (.finite .positive m e hm))) = some c ∧ c.negative = false := by
  delta UnpackedFloat.pack
  dsimp only
  split
  · left
    rfl
  · rename_i hfits
    right
    split
    · rw [ofUnpacked?_unpack_packComponents _ _ _ (by
        rw [BitVec.toNat_ofNat]
        change ¬ 2 ^ 11 ≤ _ at hfits
        omega)]
      refine ⟨_, rfl, ?_⟩
      split <;> rfl
    · rw [ofUnpacked?_unpack_packComponents _ _ _ (by decide)]
      refine ⟨_, rfl, ?_⟩
      split <;> rfl

/-- A positive sum is rounded to a number that is not negative, or to infinity. -/
theorem add_of_pos {x y : Float} {a b : Binary64} (hx : ofFloat? x = some a) (hy : ofFloat? y = some b)
    (h : 0 < a.units + b.units) :
    (x + y).toModel.unpack = .infinity .positive ∨ ∃ c, ofFloat? (x + y) = some c ∧ c.negative = false := by
  have ha := canonical_of_ofFloat? hx
  have hb := canonical_of_ofFloat? hy
  by_cases ha0 : a.significand = 0
  · rw [units_eq_zero.2 ha0, zero_add] at h
    exact .inr ⟨b, ofFloat?_add hx hy hb (by rw [units_eq_zero.2 ha0, zero_add]) h.ne', not_negative_of_pos h⟩
  · by_cases hb0 : b.significand = 0
    · rw [units_eq_zero.2 hb0, add_zero] at h
      exact .inr ⟨a, ofFloat?_add hx hy ha (by rw [units_eq_zero.2 hb0, add_zero]) h.ne', not_negative_of_pos h⟩
    · have hsum : 0 < alignedSum a b := by
        rw [← alignedSum_mul a b ha hb] at h
        exact (mul_pos_iff_of_pos_right (by positivity)).1 h
      have hadd : (x + y).toModel = Float.Model.pack (UnpackedFloat.round Format.binary64 .positive
          (alignedSum a b).toNat (min a.exponent b.exponent)) := by
        show Float.Model.pack (UnpackedFloat.add Format.binary64 x.toModel.unpack y.toModel.unpack) = _
        rw [unpack_eq hx, unpack_eq hy, add_unpacked_of_ne_zero ha0 hb0, UnpackedFloat.normalize,
          compare_gt_iff_gt.2 hsum]
      rw [ofFloat?_eq, hadd]
      obtain hz | ⟨m, e, hm, hz⟩ := round_cases .positive (alignedSum a b).toNat (min a.exponent b.exponent)
      · rw [hz]
        exact .inr ⟨⟨false, 0, -1074⟩, by decide, rfl⟩
      · rw [hz]
        exact unpack_pack_positive m e hm

end EquatorialMount.Binary64
