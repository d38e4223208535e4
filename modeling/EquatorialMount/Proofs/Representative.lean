import EquatorialMount.Proofs.Angle
import EquatorialMount.Proofs.Binary64.Bounds
import EquatorialMount.Proofs.Rounded

/-!
# The representative of an angle

An exact angle has one representative in `[0, 360)` and one in `(-180, 180]`, and wrapping finds it.  Where sums are
rounded it may be missed: a negative remainder close to zero becomes the whole turn.  Any monotone rounding that leaves
zero and the whole turn alone takes the remainder no further than that, and then the whole turn is zero again
(`Rounded.KeepsEnds.circular_mem`).  The position angle is in its range if nothing is rounded when the whole turn is
taken off (`Rounded.IsFormat.signed_mem`), and in binary64 nothing is (`Float64.value_sub_fullTurn`).
-/

namespace EquatorialMount

open AddCommGroup Angle Scalar

/-! ### Rounded numbers -/

namespace Rounded

variable {rnd : ℝ → ℝ}

/-- Only the sum with a negative remainder is rounded. -/
private theorem value_floorRem (x : Rounded rnd) : (floorRem x fullTurn).value =
    if truncRem x.value 360 < 0 then rnd (truncRem x.value 360 + 360) else truncRem x.value 360 := by
  have hrem : (truncRem x fullTurn).value = truncRem x.value 360 := congrArg (truncRem x.value) (value_fullTurn rnd)
  have hneg : truncRem x fullTurn < zero ↔ truncRem x.value 360 < 0 := by
    rw [← hrem, ← value_zero rnd]
    rfl
  have hsum : (truncRem x fullTurn + fullTurn).value = rnd (truncRem x.value 360 + 360) := by
    rw [← hrem, ← value_fullTurn rnd]
    rfl
  unfold floorRem
  by_cases h0 : truncRem x.value 360 = 0
  · rw [if_pos ((isZero_iff _).2 (hrem.trans h0)), value_zero, h0, if_neg (lt_irrefl 0)]
  · rw [if_neg (by rwa [isZero_iff, hrem])]
    by_cases h : truncRem x.value 360 < 0
    · rw [if_pos (hneg.2 h), if_pos h, hsum]
    · rw [if_neg (mt hneg.1 h), if_neg h, hrem]

private theorem value_circular (x : Rounded rnd) : (circular x).value =
    if 360 ≤ (floorRem x fullTurn).value then 0 else (floorRem x fullTurn).value := by
  rw [← value_zero rnd, ← apply_ite value, ← value_fullTurn rnd]
  rfl

private theorem value_signed (x : Rounded rnd) : (signed x).value =
    if 180 < (circular x).value then rnd ((circular x).value - 360) else (circular x).value := by
  rw [← value_halfTurn rnd, ← value_fullTurn rnd]
  exact apply_ite value _ _ _

/-! ### The circular angle -/

/-- A monotone rounding that leaves the two ends of the whole turn alone. -/
structure KeepsEnds (rnd : ℝ → ℝ) : Prop where
  mono : Monotone rnd
  map_zero : rnd 0 = 0
  map_fullTurn : rnd 360 = 360

section Circular

variable (h : KeepsEnds rnd) (x : Rounded rnd)

include h

/-- The remainder may be rounded up to the whole turn, but no further. -/
private theorem KeepsEnds.floorRem_mem : (floorRem x fullTurn).value ∈ Set.Icc 0 360 := by
  obtain ⟨hlo, hhi⟩ := abs_lt.1 (abs_truncRem_lt x.value turn_pos)
  rw [value_floorRem]
  split
  · rename_i hneg
    constructor
    · calc 0 = rnd 0 := h.map_zero.symm
        _ ≤ rnd (truncRem x.value 360 + 360) := h.mono (by linarith)
    · calc rnd (truncRem x.value 360 + 360) ≤ rnd 360 := h.mono (by linarith)
        _ = 360 := h.map_fullTurn
  · exact ⟨not_lt.1 ‹_›, hhi.le⟩

theorem KeepsEnds.circular_mem : (circular x).value ∈ Set.Ico 0 360 := by
  rw [value_circular]
  split
  · exact ⟨le_rfl, turn_pos⟩
  · exact ⟨(h.floorRem_mem x).1, not_le.1 ‹_›⟩

theorem KeepsEnds.circular_modEq : (circular x).value ≡ (floorRem x fullTurn).value [PMOD 360] := by
  rw [value_circular]
  split
  · -- only the whole turn itself is replaced
    have hturn : (floorRem x fullTurn).value = 360 := le_antisymm (h.floorRem_mem x).2 ‹_›
    rw [hturn]
    exact modEq_iff.2 ⟨-1, by norm_num⟩
  · rfl

end Circular

/-! ### The position angle -/

/-- A set of representable numbers, as far as wrapping depends on it: what is rounded is one of them, so is the
remainder of each, and from those above 180 the whole turn is taken off without rounding. -/
structure IsFormat (rnd : ℝ → ℝ) (R : Set ℝ) : Prop where
  round_mem (v : ℝ) : rnd v ∈ R
  truncRem_mem {v : ℝ} (h : v ∈ R) : truncRem v 360 ∈ R
  round_sub {v : ℝ} (h : v ∈ R) (hlo : 180 < v) (hhi : v < 360) : rnd (v - 360) = v - 360

section Signed

variable {R : Set ℝ} (hR : IsFormat rnd R) (h : KeepsEnds rnd) {x : Rounded rnd} (hx : x.value ∈ R)

include hR h hx

theorem IsFormat.circular_mem : (circular x).value ∈ R := by
  have hrem : (floorRem x fullTurn).value ∈ R := by
    rw [value_floorRem]
    split
    · exact hR.round_mem _
    · exact hR.truncRem_mem hx
  rw [value_circular]
  split
  · exact h.map_zero ▸ hR.round_mem 0
  · exact hrem

/-- The position angle is the folded circular angle, without any rounding. -/
private theorem IsFormat.value_signed : (signed x).value = fold (circular x).value := by
  rw [Rounded.value_signed, fold_eq]
  split
  · exact hR.round_sub (hR.circular_mem h hx) ‹_› (h.circular_mem x).2
  · rfl

theorem IsFormat.signed_mem : (signed x).value ∈ Set.Ioc (-180) 180 := by
  obtain ⟨hlo, hhi⟩ := h.circular_mem x
  rw [hR.value_signed h hx, fold_eq]
  split
  · constructor <;> linarith
  · constructor <;> linarith

theorem IsFormat.signed_modEq : (signed x).value ≡ (floorRem x fullTurn).value [PMOD 360] := by
  rw [hR.value_signed h hx]
  exact (fold_modEq _).trans (h.circular_modEq x)

end Signed

/-! ### A coarse rounding -/

/-- Rounding up to whole numbers, but only from one on. -/
noncomputable def ceilFromOne (v : ℝ) : ℝ := if |v| < 1 then v else ⌈v⌉

/-- The numbers that are left alone. -/
def WholeFromOne : Set ℝ := {v | |v| < 1 ∨ ∃ n : ℤ, v = n}

private theorem ceilFromOne_intCast (n : ℤ) : ceilFromOne n = n := by
  unfold ceilFromOne
  split
  · rfl
  · rw [Int.ceil_intCast]

private theorem ceilFromOne_mono : Monotone ceilFromOne := by
  intro v w hvw
  unfold ceilFromOne
  split_ifs with hv hw hw
  · exact hvw
  · have hone : 1 ≤ w := (le_abs.1 (not_lt.1 hw)).resolve_right (by linarith [(abs_lt.1 hv).1])
    linarith [Int.le_ceil w, (abs_lt.1 hv).2]
  · have hone : 1 ≤ -v := (le_abs.1 (not_lt.1 hv)).resolve_left (by linarith [(abs_lt.1 hw).2])
    have hceil : (⌈v⌉ : ℝ) ≤ (-1 : ℤ) := Int.cast_le.2 (Int.ceil_le.2 (by push_cast; linarith))
    push_cast at hceil
    linarith [(abs_lt.1 hw).1]
  · exact Int.cast_le.2 (Int.ceil_mono hvw)

private theorem isFormat_wholeFromOne : IsFormat ceilFromOne WholeFromOne where
  round_mem v := by
    unfold ceilFromOne
    split
    · exact .inl ‹_›
    · exact .inr ⟨_, rfl⟩
  truncRem_mem {v} h := by
    obtain h | ⟨n, rfl⟩ := h
    · left
      rwa [truncRem_of_lt turn_pos (h.trans (by norm_num))]
    · obtain ⟨k, hk⟩ := modEq_iff.1 (truncRem_modEq (n : ℝ) 360)
      exact .inr ⟨n + k * 360, by rw [hk]; push_cast; rfl⟩
  round_sub {v} h hlo hhi := by
    obtain h | ⟨n, rfl⟩ := h
    · linarith [(abs_lt.1 h).2]
    · exact_mod_cast ceilFromOne_intCast (n - 360)

end Rounded

/-! ### Binary64 -/

namespace Float64

open Binary64

theorem value_fullTurn : fullTurnParts.value = 360 := by
  norm_num [value, Binary64.size, fullTurnParts]

/-- The remainder of a whole turn is never rounded. -/
private theorem value_truncRem {x : Float} (hx : isFinite x = true) :
    (parts (Scalar.truncRem x fullTurn)).value = Scalar.truncRem (parts x).value 360 := by
  have hparts := ofFloat?_parts hx
  obtain ⟨c, hc, hneg, hmag⟩ := truncRem_parts hparts
  have hrem : parts (Scalar.truncRem x fullTurn) = c := parts_of_ofFloat? hc
  have hfull : fullTurnParts.magnitude * 2 ^ (-1074 : ℤ) = (360 : ℚ) := by
    rw [← (canonical_of_ofFloat? ofFloat?_fullTurn).size_eq, ← value_fullTurn]
    rfl
  have hsize : c.size = Scalar.truncRem (parts x).size 360 := by
    rw [(canonical_of_ofFloat? hc).size_eq, (canonical_of_ofFloat? hparts).size_eq, ← hfull,
      truncRem_natCast_mul _ _ (by positivity), hmag]
  rw [hrem]
  unfold value
  rw [hneg, hsize]
  split
  · rw [truncRem_neg]
  · rfl

theorem value_sub_fullTurn {x : Float} (hx : isFinite x = true) (hlo : 180 < x) (hhi : x < 360) :
    (parts (x - 360)).value = (parts x).value - 360 := by
  have hparts := ofFloat?_parts hx
  obtain ⟨c, hc, hunits⟩ := ofFloat?_sub_fullTurn hparts ((lt_iff ofFloat?_halfTurn hparts).1 hlo)
    ((lt_iff hparts ofFloat?_fullTurn).1 hhi)
  have hsub : parts (x - 360) = c := parts_of_ofFloat? hc
  rw [hsub, (canonical_of_ofFloat? hc).value_eq, hunits, Int.cast_sub, sub_mul,
    ← (canonical_of_ofFloat? hparts).value_eq, ← (canonical_of_ofFloat? ofFloat?_fullTurn).value_eq, value_fullTurn]

theorem circular_mem {x : Float} (hx : isFinite x = true) : 0 ≤ circular x ∧ circular x < 360 := by
  obtain ⟨c, hc, hneg, hlt⟩ := circular_isCircular hx
  refine ⟨(le_iff ofFloat?_zero hc).2 ?_, (lt_iff hc ofFloat?_fullTurn).2 hlt⟩
  rw [units_zero, units_of_not_negative hneg]
  exact Int.natCast_nonneg _

end Float64

/-! ### Exact, rounded and in binary64 -/

namespace Angle

/-- Wrapping finds the one representative of an exact angle in either range; so of two wraps only the last one counts,
and two angles are wrapped alike exactly if they are whole turns apart.  If sums are rounded, by any monotone function
that leaves zero and the whole turn alone, a circular angle is in its range all the same and a representative of the
rounded remainder.  So is a position angle, if it is that of a representable number and the whole turn is taken off such
numbers without rounding.  In binary64 neither a remainder nor that difference is rounded, and both ranges are kept. -/
theorem wrapped_representative :
    (∀ x : ℚ,
        (∀ y, y = circular x ↔ y ∈ Set.Ico 0 360 ∧ y ≡ x [PMOD 360]) ∧
        (∀ y, y = signed x ↔ y ∈ Set.Ioc (-180) 180 ∧ y ≡ x [PMOD 360]) ∧
        circular (circular x) = circular x ∧ signed (signed x) = signed x ∧
        signed (circular x) = signed x ∧ circular (signed x) = circular x ∧
        ∀ y, (circular x = circular y ↔ ∃ n : ℤ, x - y = n * 360) ∧
          (signed x = signed y ↔ ∃ n : ℤ, x - y = n * 360)) ∧
      (∀ rnd : ℝ → ℝ, Monotone rnd → rnd 0 = 0 → rnd 360 = 360 →
        (∀ x : Rounded rnd,
          (floorRem x fullTurn).value =
            (if truncRem x.value 360 < 0 then rnd (truncRem x.value 360 + 360) else truncRem x.value 360) ∧
          (circular x).value ∈ Set.Ico 0 360 ∧ (circular x).value ≡ (floorRem x fullTurn).value [PMOD 360]) ∧
        ∀ R, Rounded.IsFormat rnd R → ∀ x : Rounded rnd, x.value ∈ R →
          (signed x).value ∈ Set.Ioc (-180) 180 ∧ (signed x).value ≡ (floorRem x fullTurn).value [PMOD 360]) ∧
      ∀ x : Float, isFinite x = true →
        (Float64.parts (truncRem x fullTurn)).value = truncRem (Float64.parts x).value 360 ∧
        (0 ≤ circular x ∧ circular x < 360) ∧ (-180 < signed x ∧ signed x ≤ 180) ∧
        (180 < x → x < 360 → (Float64.parts (x - 360)).value = (Float64.parts x).value - 360) := by
  have hmultiple (x y : ℚ) : (∃ n : ℤ, x - y = n * 360) ↔ x ≡ y [PMOD 360] := by
    simp only [modEq_iff, sub_eq_iff_eq_add']
  refine ⟨fun x => ⟨fun y => eq_circular_iff, fun y => eq_signed_iff, ?_, ?_, ?_, ?_, fun y => ⟨?_, ?_⟩⟩,
    fun rnd hmono hzero hfull => ⟨fun x => ⟨x.value_floorRem, ?_, ?_⟩, fun R hR x hx => ?_⟩,
    fun x hx => ⟨Float64.value_truncRem hx, Float64.circular_mem hx, ?_, Float64.value_sub_fullTurn hx⟩⟩
  · exact circular_inj.2 (circular_modEq x)
  · exact signed_inj.2 (signed_modEq x)
  · exact signed_inj.2 (circular_modEq x)
  · exact circular_inj.2 (signed_modEq x)
  · rw [hmultiple, circular_inj]
  · rw [hmultiple, signed_inj]
  · exact Rounded.KeepsEnds.circular_mem ⟨hmono, hzero, hfull⟩ x
  · exact Rounded.KeepsEnds.circular_modEq ⟨hmono, hzero, hfull⟩ x
  · exact ⟨hR.signed_mem ⟨hmono, hzero, hfull⟩ hx, hR.signed_modEq ⟨hmono, hzero, hfull⟩ hx⟩
  · have h := Float64.signed_isPosition hx
    exact ⟨h.neg_lt, h.le⟩

/-- Just below zero: of the angle itself the rounded sum with the whole turn shows nothing. -/
theorem wrapped_representative_belowZero :
    Rounded.ceilFromOne (-1 / 10 ^ 20 + 360) = 360 ∧
      (circular (⟨-1 / 10 ^ 20⟩ : Rounded Rounded.ceilFromOne)).value ∈ Set.Ico 0 360 ∧
      (signed (⟨-1 / 10 ^ 20⟩ : Rounded Rounded.ceilFromOne)).value ∈ Set.Ioc (-180) 180 ∧
      (-1e-20 + 360 : Float) = 360 ∧ isFinite (-1e-20 : Float) = true ∧
      (0 ≤ circular (-1e-20 : Float) ∧ circular (-1e-20 : Float) < 360) ∧
      (-180 < signed (-1e-20 : Float) ∧ signed (-1e-20 : Float) ≤ 180) ∧
      (180 < (270 : Float) ∧ (270 : Float) < 360) ∧
      (Float64.parts (270 - 360)).value = (Float64.parts 270).value - 360 := by
  have hsum : Rounded.ceilFromOne (-1 / 10 ^ 20 + 360) = 360 := by
    have hceil : ⌈(-1 / 10 ^ 20 + 360 : ℝ)⌉ = 360 := by
      rw [Int.ceil_eq_iff]
      constructor <;> norm_num
    rw [Rounded.ceilFromOne, if_neg (by norm_num [abs_of_pos]), hceil, Int.cast_ofNat]
  have hfinite : isFinite (-1e-20 : Float) = true := by decide +kernel
  have hfinite' : isFinite (270 : Float) = true := by decide +kernel
  have hrange : 180 < (270 : Float) ∧ (270 : Float) < 360 := by decide +kernel
  obtain ⟨-, hrounded, hfloat⟩ := wrapped_representative
  obtain ⟨hcircular, hsigned⟩ := hrounded Rounded.ceilFromOne Rounded.ceilFromOne_mono
    (by exact_mod_cast Rounded.ceilFromOne_intCast 0) (by exact_mod_cast Rounded.ceilFromOne_intCast 360)
  obtain ⟨-, hbelow, hbelow', -⟩ := hfloat _ hfinite
  exact ⟨hsum, (hcircular _).2.1,
    (hsigned _ Rounded.isFormat_wholeFromOne ⟨-1 / 10 ^ 20⟩ (.inl (by norm_num [abs_lt]))).1,
    by decide +kernel, hfinite, hbelow, hbelow', hrange, (hfloat _ hfinite').2.2.2 hrange.1 hrange.2⟩

end Angle

end EquatorialMount
