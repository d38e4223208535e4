import EquatorialMount.Proofs.Binary64.Angle

/-!
# Signs of binary64 numbers

The sign of a finite number can be changed without touching anything else (`ofFloat?_neg`).  A product has the product
of the signs and is otherwise rounded alike, so it is the same for two opposite factors (`neg_mul_neg`), and with one or
minus one it is not rounded at all (`ofFloat?_mul_unit`).  Neither the absolute value nor the hypotenuse sees a sign
(`abs_neg`, `hypot_neg_neg`).
-/

namespace EquatorialMount

namespace Binary64

open Float.Model Float.Model.UnpackedFloat

/-! ### The opposite number -/

private theorem signOf_not (negative : Bool) : signOf (!negative) = -signOf negative := by
  cases negative <;> rfl

theorem opposite_opposite (b : Binary64) : b.opposite.opposite = b := by
  unfold opposite
  rw [Bool.not_not]

private theorem neg_unpacked (b : Binary64) : b.unpacked.neg = b.opposite.unpacked := by
  by_cases h0 : b.significand = 0
  · rw [unpacked_of_eq_zero h0, unpacked_of_eq_zero (b := b.opposite) h0]
    exact congrArg UnpackedFloat.zero (signOf_not b.negative).symm
  · rw [unpacked_of_ne_zero h0, unpacked_of_ne_zero (b := b.opposite) h0]
    exact congrArg (fun s => UnpackedFloat.finite s _ _ _) (signOf_not b.negative).symm

theorem ofFloat?_neg {x : Float} {b : Binary64} (hx : ofFloat? x = some b) : ofFloat? (-x) = some b.opposite := by
  show ofFloat? ⟨Float.Model.pack x.toModel.unpack.neg⟩ = _
  rw [unpack_eq hx, neg_unpacked]
  exact ofFloat?_pack (canonical_of_ofFloat? hx).opposite

theorem neg_neg {x : Float} (hx : x.isFinite = true) : - -x = x := by
  obtain ⟨b, hb⟩ := (isFinite_iff x).1 hx
  refine ofFloat?_inj (ofFloat?_neg (ofFloat?_neg hb)) ?_
  rw [opposite_opposite]
  exact hb

/-- An infinite or undefined number stays one. -/
theorem isFinite_neg (x : Float) : (-x).isFinite = x.isFinite := by
  cases hx : x.isFinite with
  | true =>
    obtain ⟨b, hb⟩ := (isFinite_iff x).1 hx
    exact (isFinite_iff _).2 ⟨_, ofFloat?_neg hb⟩
  | false =>
    have hunpack : x.toModel.unpack.isFinite = false := hx
    show (UnpackedFloat.unpack Format.binary64 (UnpackedFloat.pack Format.binary64 x.toModel.unpack.neg)).isFinite = _
    generalize x.toModel.unpack = u at hunpack ⊢
    cases u with
    | infinity s => cases s <;> rfl
    | notANumber => rfl
    | zero s => cases hunpack
    | finite s m e hm => cases hunpack

/-! ### The magnitude alone -/

private theorem abs_unpacked (b : Binary64) : b.unpacked.abs = unpacked { b with negative := false } := by
  by_cases h0 : b.significand = 0
  · rw [unpacked_of_eq_zero h0, unpacked_of_eq_zero (b := { b with negative := false }) h0]
    rfl
  · rw [unpacked_of_ne_zero h0, unpacked_of_ne_zero (b := { b with negative := false }) h0]
    rfl

private theorem neg_abs {x : Float} (hx : x.isFinite = true) : (-x).abs = x.abs := by
  obtain ⟨b, hb⟩ := (isFinite_iff x).1 hx
  have hmodel : (-x).toModel.abs = x.toModel.abs := by
    rw [Float.Model.abs, Float.Model.abs, unpack_eq hb, unpack_eq (ofFloat?_neg hb), abs_unpacked, abs_unpacked]
    rfl
  exact congrArg Float.ofModel hmodel

private theorem not_isInf {x : Float} (hx : x.isFinite = true) : x.isInf = false := by
  have hunpack : x.toModel.unpack.isFinite = true := hx
  show x.toModel.unpack.isInf = false
  generalize x.toModel.unpack = u at hunpack ⊢
  cases u with
  | infinity s => cases hunpack
  | _ => rfl

private theorem not_isNaN {x : Float} (hx : x.isFinite = true) : x.isNaN = false := by
  have hunpack : x.toModel.unpack.isFinite = true := hx
  show x.toModel.unpack.isNaN = false
  generalize x.toModel.unpack = u at hunpack ⊢
  cases u with
  | notANumber => cases hunpack
  | _ => rfl

/-! ### Products -/

theorem signOf_mul (s t : Bool) : signOf s * signOf t = signOf (s ^^ t) := by
  cases s <;> cases t <;> rfl

private theorem mul_opposite (b : Binary64) :
    UnpackedFloat.mul Format.binary64 b.opposite.unpacked b.opposite.unpacked =
    UnpackedFloat.mul Format.binary64 b.unpacked b.unpacked := by
  have hsign : signOf b.opposite.negative * signOf b.opposite.negative = signOf b.negative * signOf b.negative := by
    rw [signOf_mul, signOf_mul, Bool.xor_self, Bool.xor_self]
  by_cases h0 : b.significand = 0
  · rw [unpacked_of_eq_zero h0, unpacked_of_eq_zero (b := b.opposite) h0]
    exact congrArg UnpackedFloat.zero hsign
  · rw [unpacked_of_ne_zero h0, unpacked_of_ne_zero (b := b.opposite) h0]
    exact congrArg (fun s => roundWithAccuracy Format.binary64 s _ _ .exact) hsign

theorem neg_mul_neg {x : Float} (hx : x.isFinite = true) : -x * -x = x * x := by
  obtain ⟨b, hb⟩ := (isFinite_iff x).1 hx
  have hmodel : Float.Model.mul (-x).toModel (-x).toModel = Float.Model.mul x.toModel x.toModel := by
    rw [Float.Model.mul, Float.Model.mul, unpack_eq hb, unpack_eq (ofFloat?_neg hb), mul_opposite]
  exact congrArg Float.ofModel hmodel

/-- One, or minus one. -/
def unit (negative : Bool) : Binary64 := ⟨negative, 2 ^ 52, -52⟩

/-- A number with its sign times another. -/
def timesSign (b : Binary64) (negative : Bool) : Binary64 := { b with negative := b.negative ^^ negative }

private theorem units_timesSign (b : Binary64) (negative : Bool) :
    (b.timesSign negative).units = if negative then -b.units else b.units := by
  unfold timesSign units magnitude
  cases b.negative <;> cases negative <;> simp

private theorem Canonical.mul_unit {b : Binary64} (hb : b.Canonical) (negative : Bool) :
    UnpackedFloat.mul Format.binary64 b.unpacked (unit negative).unpacked = (b.timesSign negative).unpacked := by
  have hunit : (unit negative).significand ≠ 0 := Nat.two_pow_pos 52 |>.ne'
  rw [unpacked_of_ne_zero hunit]
  by_cases h0 : b.significand = 0
  · rw [unpacked_of_eq_zero h0, unpacked_of_eq_zero (b := b.timesSign negative) h0]
    exact congrArg UnpackedFloat.zero (signOf_mul b.negative negative)
  · have hproduct : (b.timesSign negative).Canonical := ⟨hb.significand_lt, hb.exponent_ge, hb.exponent_le, hb.normal⟩
    rw [unpacked_of_ne_zero h0]
    -- the product has the significand with 52 zeros behind it, at an exponent that is smaller by 52
    refine Eq.trans ?_ (hproduct.roundWithAccuracy_eq h0 52)
    exact congrArg (fun s => roundWithAccuracy Format.binary64 s _ _ .exact) (signOf_mul b.negative negative)

theorem ofFloat?_mul_unit {x h : Float} {b : Binary64} {negative : Bool} (hx : ofFloat? x = some b)
    (hh : ofFloat? h = some (unit negative)) : ofFloat? (x * h) = some (b.timesSign negative) := by
  have hb := canonical_of_ofFloat? hx
  show ofFloat? ⟨Float.Model.pack (UnpackedFloat.mul Format.binary64 x.toModel.unpack h.toModel.unpack)⟩ = _
  rw [unpack_eq hx, unpack_eq hh, hb.mul_unit]
  exact ofFloat?_pack ⟨hb.significand_lt, hb.exponent_ge, hb.exponent_le, hb.normal⟩

end Binary64

/-! ### The numbers of the library -/

namespace Float64

open Binary64 Scalar

theorem ofFloat?_one : ofFloat? one = some (unit false) := by
  decide +kernel

private theorem ofFloat?_unit {h : Float} (hh : h = one ∨ h = -one) :
    ∃ negative, ofFloat? h = some (unit negative) := by
  obtain rfl | rfl := hh
  · exact ⟨false, ofFloat?_one⟩
  · exact ⟨true, ofFloat?_neg ofFloat?_one⟩

/-- Of a number and its opposite one is on the side of the sign. -/
theorem neg_mul_unit_neg_iff {x h : Float} (hh : h = one ∨ h = -one) (hx : isFinite x = true)
    (h0 : isZero x = false) : -x * h < zero ↔ ¬x * h < zero := by
  obtain ⟨b, hb⟩ := (isFinite_iff x).1 hx
  obtain ⟨negative, hsign⟩ := ofFloat?_unit hh
  have hne : b.units ≠ 0 := by
    intro hzero
    rw [(isZero_iff hb).2 hzero] at h0
    cases h0
  rw [lt_iff (ofFloat?_mul_unit hb hsign) ofFloat?_zero, lt_iff (ofFloat?_mul_unit (ofFloat?_neg hb) hsign)
    ofFloat?_zero, units_timesSign, units_timesSign, units_opposite, units_zero]
  split <;> omega

theorem abs_eq (x : Float) : Scalar.abs x = if x ≤ zero then zero - x else x := rfl

theorem zero_sub_neg {x : Float} {b : Binary64} (hx : ofFloat? x = some b) (h0 : b.units ≠ 0) : zero - -x = x := by
  refine ofFloat?_inj (ofFloat?_sub ofFloat?_zero (ofFloat?_neg hx) (canonical_of_ofFloat? hx) ?_ h0) hx
  rw [units_zero, units_opposite]
  omega

/-- A zero of either sign is taken to the unsigned one. -/
theorem zero_sub_zero {x : Float} {b : Binary64} (hx : ofFloat? x = some b) (h0 : b.units = 0) : zero - x = zero := by
  have hzero : x.toModel.unpack = .zero (signOf b.negative) := by
    rw [unpack_eq hx, unpacked_of_eq_zero (units_eq_zero.1 h0)]
  refine ofFloat?_inj (b := zeroParts) ?_ ofFloat?_zero
  show ofFloat? ⟨Float.Model.pack (.sub Float.Model.Format.binary64 (zero : Float).toModel.unpack x.toModel.unpack)⟩ = _
  rw [hzero, unpack_eq ofFloat?_zero]
  cases b.negative <;> decide +kernel

theorem abs_neg {x : Float} (hx : isFinite x = true) : Scalar.abs (-x) = Scalar.abs x := by
  obtain ⟨b, hb⟩ := (isFinite_iff x).1 hx
  have hle : x ≤ zero ↔ b.units ≤ 0 := le_iff hb ofFloat?_zero
  have hle' : -x ≤ zero ↔ b.opposite.units ≤ 0 := le_iff (ofFloat?_neg hb) ofFloat?_zero
  rw [units_opposite] at hle'
  rw [abs_eq, abs_eq]
  -- the difference that turns a negative number round is exact
  obtain h | h | h := lt_trichotomy b.units 0
  · have hback : - -x = x := neg_neg hx
    have hsub : zero - - -x = -x := zero_sub_neg (ofFloat?_neg hb) (by rw [units_opposite]; omega)
    rw [hback] at hsub
    rw [if_neg (by rw [hle']; omega), if_pos (hle.2 h.le), hsub]
  · rw [if_pos (hle'.2 (by omega)), if_pos (hle.2 h.le), zero_sub_zero hb h,
      zero_sub_zero (ofFloat?_neg hb) (by rw [units_opposite]; omega)]
  · rw [if_pos (hle'.2 (by omega)), if_neg (by rw [hle]; omega), zero_sub_neg hb h.ne']

theorem hypot_neg_neg {x y : Float} (hx : isFinite x = true) (hy : isFinite y = true) :
    hypot (-x) (-y) = hypot x y := by
  have hnx : (-x).isFinite = true := (isFinite_neg x).trans hx
  have hny : (-y).isFinite = true := (isFinite_neg y).trans hy
  unfold hypot
  rw [neg_abs hx, neg_abs hy, not_isInf hx, not_isInf hy, not_isInf hnx, not_isInf hny, not_isNaN hx, not_isNaN hy,
    not_isNaN hnx, not_isNaN hny]

end Float64

end EquatorialMount
