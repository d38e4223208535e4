import EquatorialMount.Proofs.Binary64.Parts

/-!
# The values of binary64 numbers

Every finite number is a whole multiple of the least positive one, so its value is an integer, `units`.  The parts of a
number can be told from its value, up to the sign of a zero (`ext_units`), and numbers are compared as their values are
(`lt_iff`, `le_iff`).  A remainder is never rounded: its value is the remainder of the values (`ofFloat?_truncRem`).
-/

namespace EquatorialMount.Binary64

open Float.Model Float.Model.UnpackedFloat

/-! ### Values -/

/-- The magnitude of a number in units of the least positive one. -/
def magnitude (b : Binary64) : Nat := b.significand * 2 ^ (b.exponent + 1074).toNat

/-- The value of a number in units of the least positive one. -/
def units (b : Binary64) : Int := if b.negative then -b.magnitude else b.magnitude

@[simp] theorem magnitude_eq_zero {b : Binary64} : b.magnitude = 0 ↔ b.significand = 0 := by
  simp [magnitude]

theorem units_eq_zero {b : Binary64} : b.units = 0 ↔ b.significand = 0 := by
  unfold units
  split <;> simp

theorem units_eq (b : Binary64) : b.units = if b.negative then -(b.magnitude : Int) else b.magnitude := rfl

theorem units_of_not_negative {b : Binary64} (h : b.negative = false) : b.units = b.magnitude := by
  simp [units, h]

theorem units_of_negative {b : Binary64} (h : b.negative = true) : b.units = -b.magnitude := by
  simp [units, h]

theorem not_negative_of_pos {b : Binary64} (h : 0 < b.units) : b.negative = false := by
  by_contra hneg
  rw [units_of_negative (by simpa using hneg)] at h
  omega

/-- A significand at a smaller exponent is so much greater. -/
theorem magnitude_eq_mul (b : Binary64) {e : Int} (hmin : -1074 ≤ e) (he : e ≤ b.exponent) :
    b.magnitude = b.significand * 2 ^ (b.exponent - e).toNat * 2 ^ (e + 1074).toNat := by
  have h : (b.exponent + 1074).toNat = (b.exponent - e).toNat + (e + 1074).toNat := by omega
  rw [magnitude, h, Nat.pow_add, Nat.mul_assoc]

/-! ### Order of the values -/

/-- The greater exponent makes the greater number, as its leading bit is set. -/
theorem magnitude_lt {b c : Binary64} (hb : b.Canonical) (hc : c.Canonical) (h : b.exponent < c.exponent) :
    b.magnitude < c.magnitude := by
  have hmin := hb.exponent_ge
  have hm : 2 ^ 52 ≤ c.significand := hc.normal.resolve_right (by omega)
  rw [c.magnitude_eq_mul hmin h.le]
  refine Nat.mul_lt_mul_of_pos_right ?_ (Nat.two_pow_pos _)
  calc b.significand < 2 ^ 53 := hb.significand_lt
    _ = 2 ^ 52 * 2 ^ 1 := by rfl
    _ ≤ c.significand * 2 ^ (c.exponent - b.exponent).toNat :=
        Nat.mul_le_mul hm (Nat.pow_le_pow_right (by decide) (by omega))

private theorem magnitude_lt_iff {b c : Binary64} (hb : b.Canonical) (hc : c.Canonical) :
    b.magnitude < c.magnitude ↔
      b.exponent < c.exponent ∨ b.exponent = c.exponent ∧ b.significand < c.significand := by
  obtain h | h | h := lt_trichotomy b.exponent c.exponent
  · simp [h, magnitude_lt hb hc h]
  · simp [h, magnitude, Nat.mul_lt_mul_right (Nat.two_pow_pos _)]
  · have := magnitude_lt hc hb h
    constructor
    · omega
    · omega

theorem ext_magnitude {b c : Binary64} (hb : b.Canonical) (hc : c.Canonical) (hneg : b.negative = c.negative)
    (h : b.magnitude = c.magnitude) : b = c := by
  have h1 := (magnitude_lt_iff hb hc).not.1 h.not_lt
  have h2 := (magnitude_lt_iff hc hb).not.1 h.symm.not_lt
  obtain ⟨n, m, e⟩ := b
  obtain ⟨n', m', e'⟩ := c
  simp only at *
  simp only [mk.injEq, hneg, true_and]
  omega

theorem ext_units {b c : Binary64} (hb : b.Canonical) (hc : c.Canonical) (h0 : c.units ≠ 0)
    (h : b.units = c.units) : b = c := by
  unfold units at h h0
  refine ext_magnitude hb hc ?_ ?_
  · cases hn : b.negative <;> cases hn' : c.negative <;> simp [hn, hn'] at h h0 ⊢ <;> omega
  · split_ifs at h <;> omega

theorem eq_zero_of_units {x y : Float} {a b : Binary64} (hx : ofFloat? x = some a) (hy : ofFloat? y = some b)
    (hneg : a.negative = b.negative) (ha : a.units = 0) (hb : b.units = 0) : x = y := by
  have h : a = b := by
    refine ext_magnitude (canonical_of_ofFloat? hx) (canonical_of_ofFloat? hy) hneg ?_
    rw [magnitude_eq_zero.2 (units_eq_zero.1 ha), magnitude_eq_zero.2 (units_eq_zero.1 hb)]
  exact ofFloat?_inj (h ▸ hx) hy

private theorem compare_magnitude {b c : Binary64} (hb : b.Canonical) (hc : c.Canonical) :
    (compare b.exponent c.exponent).then (compare b.significand c.significand) = compare b.magnitude c.magnitude := by
  obtain h | h | h := lt_trichotomy b.exponent c.exponent
  · rw [compare_lt_iff_lt.2 h, compare_lt_iff_lt.2 (magnitude_lt hb hc h)]
    rfl
  · rw [compare_eq_iff_eq.2 h, magnitude, magnitude, h]
    show compare b.significand c.significand = _
    obtain h' | h' | h' := lt_trichotomy b.significand c.significand
    · rw [compare_lt_iff_lt.2 h', compare_lt_iff_lt.2 (Nat.mul_lt_mul_of_pos_right h' (Nat.two_pow_pos _))]
    · rw [h', compare_eq_iff_eq.2 rfl, compare_eq_iff_eq.2 rfl]
    · rw [compare_gt_iff_gt.2 h', compare_gt_iff_gt.2 (Nat.mul_lt_mul_of_pos_right h' (Nat.two_pow_pos _))]
  · rw [compare_gt_iff_gt.2 h, compare_gt_iff_gt.2 (magnitude_lt hc hb h)]
    rfl

/-- Two pairs that are ordered alike compare alike. -/
private theorem compare_eq_compare {α β : Type} [LinearOrder α] [LinearOrder β] {a b : α} {c d : β}
    (hlt : a < b ↔ c < d) (hgt : b < a ↔ d < c) : compare a b = compare c d := by
  obtain h | h | h := lt_trichotomy a b
  · rw [compare_lt_iff_lt.2 h, compare_lt_iff_lt.2 (hlt.1 h)]
  · have h' : c = d := le_antisymm (not_lt.1 fun h' => (h ▸ hgt.2 h').false) (not_lt.1 fun h' => (h ▸ hlt.2 h').false)
    rw [compare_eq_iff_eq.2 h, compare_eq_iff_eq.2 h']
  · rw [compare_gt_iff_gt.2 h, compare_gt_iff_gt.2 (hgt.1 h)]

/-- Numbers are compared by sign, exponent and significand, which is to compare their values. -/
private theorem compare_unpacked {b c : Binary64} (hb : b.Canonical) (hc : c.Canonical) :
    b.unpacked.compare c.unpacked = some (compare b.units c.units) := by
  have hpos {d : Binary64} (h : d.significand ≠ 0) : (0 : Int) < d.magnitude :=
    Int.natCast_pos.2 (Nat.pos_of_ne_zero (mt magnitude_eq_zero.1 h))
  have hswap : compare (-b.magnitude : Int) (-c.magnitude) = (compare b.magnitude c.magnitude).swap := by
    rw [← Std.OrientedOrd.eq_swap]
    exact compare_eq_compare (by omega) (by omega)
  unfold units
  by_cases hb0 : b.significand = 0 <;> by_cases hc0 : c.significand = 0
  · rw [unpacked_of_eq_zero hb0, unpacked_of_eq_zero hc0, magnitude_eq_zero.2 hb0, magnitude_eq_zero.2 hc0]
    cases b.negative <;> cases c.negative <;> rfl
  · have := hpos hc0
    rw [unpacked_of_eq_zero hb0, unpacked_of_ne_zero hc0, magnitude_eq_zero.2 hb0]
    cases c.negative
    · exact congrArg some (compare_lt_iff_lt.2 (by simpa using this)).symm
    · exact congrArg some (compare_gt_iff_gt.2 (by simpa using this)).symm
  · have := hpos hb0
    rw [unpacked_of_ne_zero hb0, unpacked_of_eq_zero hc0, magnitude_eq_zero.2 hc0]
    cases b.negative
    · exact congrArg some (compare_gt_iff_gt.2 (by simpa using this)).symm
    · exact congrArg some (compare_lt_iff_lt.2 (by simpa using this)).symm
  · have h1 := hpos hb0
    have h2 := hpos hc0
    rw [unpacked_of_ne_zero hb0, unpacked_of_ne_zero hc0]
    cases b.negative <;> cases c.negative
    · exact congrArg some ((compare_magnitude hb hc).trans (compare_eq_compare (by simp) (by simp)))
    · exact congrArg some (compare_gt_iff_gt.2 (by simp; omega)).symm
    · exact congrArg some (compare_lt_iff_lt.2 (by simp; omega)).symm
    · exact congrArg some ((congrArg Ordering.swap (compare_magnitude hb hc)).trans hswap.symm)

theorem lt_iff {x y : Float} {a b : Binary64} (hx : ofFloat? x = some a) (hy : ofFloat? y = some b) :
    x < y ↔ a.units < b.units := by
  have h : x < y ↔ x.toModel.unpack.lt y.toModel.unpack = true := by
    show Float.lt x y = true ↔ _
    exact decide_eq_true_iff
  rw [h, unpack_eq hx, unpack_eq hy, UnpackedFloat.lt,
    compare_unpacked (canonical_of_ofFloat? hx) (canonical_of_ofFloat? hy)]
  simp [compare_lt_iff_lt]

theorem le_iff {x y : Float} {a b : Binary64} (hx : ofFloat? x = some a) (hy : ofFloat? y = some b) :
    x ≤ y ↔ a.units ≤ b.units := by
  have h : x ≤ y ↔ x.toModel.unpack.le y.toModel.unpack = true := by
    show Float.le x y = true ↔ _
    exact decide_eq_true_iff
  rw [h, unpack_eq hx, unpack_eq hy, UnpackedFloat.le,
    compare_unpacked (canonical_of_ofFloat? hx) (canonical_of_ofFloat? hy)]
  simp [Std.isLE_compare]

/-- Every finite number is below infinity. -/
theorem le_of_infinite {x y : Float} {a : Binary64} (hx : ofFloat? x = some a)
    (hy : y.toModel.unpack = .infinity .positive) : x ≤ y := by
  show Float.le x y = true
  refine decide_eq_true ?_
  show x.toModel.unpack.le y.toModel.unpack = true
  rw [unpack_eq hx, hy]
  by_cases h0 : a.significand = 0
  · rw [unpacked_of_eq_zero h0]
    rfl
  · rw [unpacked_of_ne_zero h0]
    cases a.negative <;> rfl

/-! ### Numbers from parts -/

/-- The parts that `toFloat` packs. -/
def aligned (b : Binary64) : Binary64 :=
  let exponent := max (b.exponent + b.significand.log2 - 52) (-1074)
  { b with
    significand := b.significand <<< (b.exponent - exponent).toNat >>> (exponent - b.exponent).toNat
    exponent }

private theorem toFloat_eq (b : Binary64) : b.toFloat = Float.ofBits (UInt64.ofNat b.aligned.bits) := rfl

section Aligned

variable {b : Binary64} (h0 : b.significand ≠ 0) (hlt : b.significand < 2 ^ 53) (hmin : -1074 ≤ b.exponent)

include h0 hlt hmin

private theorem aligned_eq : ∃ k : Nat,
    b.aligned = { b with significand := b.significand * 2 ^ k, exponent := b.exponent - k } ∧
      -1074 ≤ b.exponent - k ∧ b.significand.log2 + k ≤ 52 ∧
        (b.significand.log2 + k = 52 ∨ b.exponent - k = -1074) := by
  have hlog : b.significand.log2 ≤ 52 := Nat.lt_succ_iff.1 ((Nat.log2_lt h0).2 hlt)
  obtain ⟨k, hk⟩ : ∃ k : Nat, max (b.exponent + b.significand.log2 - 52) (-1074) = b.exponent - k :=
    ⟨(b.exponent - max (b.exponent + b.significand.log2 - 52) (-1074)).toNat, by omega⟩
  refine ⟨k, ?_, by omega, by omega, by omega⟩
  have h1 : (b.exponent - (b.exponent - k)).toNat = k := by omega
  have h2 : (b.exponent - k - b.exponent).toNat = 0 := by omega
  simp only [aligned, hk, h1, h2, Nat.shiftRight_zero, Nat.shiftLeft_eq]

private theorem aligned_canonical (hmax : b.exponent ≤ 971) : b.aligned.Canonical := by
  obtain ⟨k, heq, hexp, hle, hcases⟩ := aligned_eq h0 hlt hmin
  rw [heq]
  constructor
  · calc b.significand * 2 ^ k < 2 ^ (b.significand.log2 + 1) * 2 ^ k :=
          Nat.mul_lt_mul_of_pos_right Nat.lt_log2_self (Nat.two_pow_pos k)
      _ = 2 ^ (b.significand.log2 + 1 + k) := (Nat.pow_add ..).symm
      _ ≤ 2 ^ 53 := Nat.pow_le_pow_right (by decide) (by omega)
  · exact hexp
  · show b.exponent - k ≤ 971
    omega
  · refine hcases.imp_left fun h => ?_
    calc 2 ^ 52 = 2 ^ b.significand.log2 * 2 ^ k := by rw [← Nat.pow_add, h]
      _ ≤ b.significand * 2 ^ k := Nat.mul_le_mul_right _ (Nat.log2_self_le h0)

private theorem magnitude_aligned : b.aligned.magnitude = b.magnitude := by
  obtain ⟨k, heq, hexp, -, -⟩ := aligned_eq h0 hlt hmin
  have hk : (b.exponent - (b.exponent - k)).toNat = k := by omega
  rw [heq, b.magnitude_eq_mul hexp (by omega), hk]
  rfl

end Aligned

/-- Parts of at most 53 bits are those of a number, up to their alignment. -/
theorem ofFloat?_toFloat {b : Binary64} (hlt : b.significand < 2 ^ 53) (hmin : -1074 ≤ b.exponent)
    (hmax : b.exponent ≤ 971) :
    ∃ c, ofFloat? b.toFloat = some c ∧ c.negative = b.negative ∧ c.magnitude = b.magnitude := by
  rw [toFloat_eq]
  by_cases h0 : b.significand = 0
  · refine ⟨⟨b.negative, 0, -1074⟩, ?_, rfl, ?_⟩
    · have hbits : b.aligned.bits = bits ⟨b.negative, 0, -1074⟩ := by
        simp [aligned, bits_eq, h0]
      rw [hbits]
      exact ofFloat?_ofBits ⟨Nat.two_pow_pos 53, le_rfl, (by decide : (-1074 : Int) ≤ 971), .inr rfl⟩
    · rw [magnitude_eq_zero.2 h0, magnitude_eq_zero.2 rfl]
  · exact ⟨b.aligned, ofFloat?_ofBits (aligned_canonical h0 hlt hmin hmax), rfl, magnitude_aligned h0 hlt hmin⟩

/-- The remainder is exact: it is a multiple of the smaller of two powers and has at most the digits of one of the
operands. -/
theorem ofFloat?_truncRem {x m : Float} {a b : Binary64} (hx : ofFloat? x = some a) (hm : ofFloat? m = some b)
    (h0 : b.significand ≠ 0) :
    ∃ c, ofFloat? (Float64.truncRem x m) = some c ∧ c.negative = a.negative ∧
      c.magnitude = a.magnitude % b.magnitude := by
  have ha := canonical_of_ofFloat? hx
  have hb := canonical_of_ofFloat? hm
  have hmin : -1074 ≤ min a.exponent b.exponent := le_min ha.exponent_ge hb.exponent_ge
  have hmax : min a.exponent b.exponent ≤ 971 := (min_le_left ..).trans ha.exponent_le
  have hrem : Float64.truncRem x m = (a.rem b).toFloat := by
    simp only [Float64.truncRem, hx, hm, if_neg h0]
  have hlt : (a.rem b).significand < 2 ^ 53 := by
    simp only [rem]
    obtain h | h := le_total a.exponent b.exponent
    · rw [min_eq_left h, sub_self]
      exact (Nat.mod_le _ _).trans_lt ha.significand_lt
    · rw [min_eq_right h, sub_self]
      exact (Nat.mod_lt _ (Nat.pos_of_ne_zero h0)).trans hb.significand_lt
  obtain ⟨c, hc, hneg, hmag⟩ := ofFloat?_toFloat hlt hmin hmax
  refine ⟨c, hrem ▸ hc, hneg, hmag.trans ?_⟩
  rw [a.magnitude_eq_mul hmin (min_le_left ..), b.magnitude_eq_mul hmin (min_le_right ..), Nat.mul_mod_mul_right]
  simp only [rem, magnitude, Nat.shiftLeft_eq]

end EquatorialMount.Binary64
