import Mathlib.Analysis.SpecialFunctions.Trigonometric.Angle
import EquatorialMount.Proofs.Horizontal.Ends
import EquatorialMount.Proofs.Horizontal.Frame
import EquatorialMount.Proofs.Sphere.PlaneNormal
import EquatorialMount.Proofs.Sphere.Symmetry

/-!
# Which end of the axis

The three samples single out a line, and their order says which end of it the axis vector points to.  Two neighbours
that change places turn the vector round, so any order of the same samples gives the vector or its opposite
(`rotationAxis_perm`).  The other end can also be found through the angle pair, which is turned by half a turn and
taken to the opposite declination (`direction_opposite`); away from the poles that is the pair of the opposite vector
(`opposite_ofDirection`).
-/

namespace EquatorialMount

open AddCommGroup Trig Vec3

/-! ### The order of the samples -/

namespace Samples

variable {n : Vec3 ℝ} {s s' : Samples ℝ}

/-- The samples in another order have the same axis, up to its sense. -/
theorem rotationAxis_perm (h : s'.toList.Perm s.toList) :
    s'.rotationAxis = s.rotationAxis ∨ s'.rotationAxis = s.rotationAxis.neg :=
  planeNormal_perm (h.map AnglePair.direction)

theorem rotationAxis?_perm (hperm : s'.toList.Perm s.toList) (h : s.rotationAxis? = .ok n) :
    ∃ n', s'.rotationAxis? = .ok n' ∧ (n' = n ∨ n' = n.neg) := by
  obtain rfl : s.rotationAxis = n := Except.ok.inj h
  exact ⟨s'.rotationAxis, rfl, rotationAxis_perm hperm⟩

theorem dot_self_axis (h : s.rotationAxis? = .ok n) (hz : n.z ≠ 0) : n.dot n = 1 := by
  obtain rfl : s.rotationAxis = n := Except.ok.inj h
  obtain hzero | hunit := planeNormal_eq_zero_or s.first.direction s.second.direction s.third.direction
  · rw [Samples.rotationAxis, hzero, zero_eq] at hz
    exact absurd rfl hz
  · exact hunit

/-- The same samples, the last one first. -/
def reversed {α : Type} (s : Samples α) : Samples α := ⟨s.third, s.second, s.first⟩

theorem reversed_perm {α : Type} (s : Samples α) : s.reversed.toList.Perm s.toList := List.reverse_perm s.toList

/-- Samples in three directions at right angles to each other. -/
noncomputable def corner : Samples ℝ := ⟨⟨0, 0⟩, ⟨90, 0⟩, ⟨0, -90⟩⟩

theorem direction_corner : corner.first.direction = ⟨1, 0, 0⟩ ∧ corner.second.direction = ⟨0, 1, 0⟩ ∧
    corner.third.direction = ⟨0, 0, -1⟩ := by
  simp [corner, AnglePair.direction_eq, radians_neg]

theorem rotationAxis?_corner : corner.rotationAxis? = .ok ⟨-(1 / √3), -(1 / √3), 1 / √3⟩ := by
  have h3 : √3 * √3 = (3 : ℝ) := Real.mul_self_sqrt (by norm_num)
  have hn : dot (⟨-(1 / √3), -(1 / √3), 1 / √3⟩ : Vec3 ℝ) ⟨-(1 / √3), -(1 / √3), 1 / √3⟩ = 1 := by
    simp only [dot_eq, neg_mul_neg, div_mul_div_comm, h3]
    norm_num
  obtain ⟨hx, hy, hz⟩ := direction_corner
  have hspanned : spannedNormal (⟨1, 0, 0⟩ : Vec3 ℝ) ⟨0, 1, 0⟩ ⟨0, 0, -1⟩ =
      scale (√3) ⟨-(1 / √3), -(1 / √3), 1 / √3⟩ := by
    simp [spannedNormal, sub_eq, cross_eq, scale_eq]
  rw [rotationAxis?_eq, hx, hy, hz, planeNormal_of_spannedNormal hn hspanned, inSense_of_pos (by positivity)]

end Samples

/-! ### The northern end -/

namespace Vec3

variable {n : Vec3 ℝ}

/-- The end of an axis on the northern side of the celestial equator. -/
noncomputable def northernEnd (n : Vec3 ℝ) : Vec3 ℝ := if 0 < n.z then n else n.neg

theorem northernEnd_of_pos (h : 0 < n.z) : n.northernEnd = n := if_pos h

theorem northernEnd_of_neg (h : n.z < 0) : n.northernEnd = n.neg := if_neg h.not_gt

theorem northernEnd_eq_or (n : Vec3 ℝ) : n.northernEnd = n ∨ n.northernEnd = n.neg := by
  unfold northernEnd
  split
  · exact .inl rfl
  · exact .inr rfl

theorem northernEnd_z_pos (h : n.z ≠ 0) : 0 < n.northernEnd.z := by
  obtain hz | hz := lt_or_gt_of_ne h
  · rw [northernEnd_of_neg hz]
    exact neg_pos.2 hz
  · rw [northernEnd_of_pos hz]
    exact hz

private theorem northernEnd_neg (h : n.z ≠ 0) : n.neg.northernEnd = n.northernEnd := by
  have hneg : n.neg.z = -n.z := rfl
  obtain hz | hz := lt_or_gt_of_ne h
  · rw [northernEnd_of_neg hz, northernEnd_of_pos (by rw [hneg]; linarith)]
  · rw [northernEnd_of_pos hz, northernEnd_of_neg (by rw [hneg]; linarith), Vec3.neg_neg rfl]

theorem z_ne_zero_of_eq_or {n' : Vec3 ℝ} (h : n' = n ∨ n' = n.neg) (hz : n.z ≠ 0) : n'.z ≠ 0 := by
  obtain rfl | rfl := h
  · exact hz
  · exact neg_ne_zero.2 hz

theorem northernEnd_of_eq_or {n' : Vec3 ℝ} (h : n' = n ∨ n' = n.neg) (hz : n.z ≠ 0) :
    n'.northernEnd = n.northernEnd := by
  obtain rfl | rfl := h
  · rfl
  · exact northernEnd_neg hz

end Vec3

/-! ### The opposite pair -/

namespace Vec3

variable {n : Vec3 ℝ}

/-- Whether a direction is off the line of the poles, where its hour angle is arbitrary. -/
def HasHourAngle (v : Vec3 ℝ) : Prop := v.x ≠ 0 ∨ v.y ≠ 0

theorem HasHourAngle.of_eq_or {n' : Vec3 ℝ} (hn : n.HasHourAngle) (h : n' = n ∨ n' = n.neg) : n'.HasHourAngle := by
  obtain rfl | rfl := h
  · exact hn
  · exact hn.imp neg_ne_zero.2 neg_ne_zero.2

theorem hasHourAngle_of_ne_pole (hn : n.dot n = 1) (hup : n ≠ ⟨0, 0, 1⟩) (hdown : n ≠ ⟨0, 0, -1⟩) :
    n.HasHourAngle := by
  by_contra h
  rw [HasHourAngle, not_or, not_not, not_not] at h
  obtain ⟨hx, hy⟩ := h
  rw [dot_eq, hx, hy, mul_zero, zero_add, zero_add] at hn
  obtain hz | hz := mul_self_eq_one_iff.1 hn
  · exact hup (Vec3.ext hx hy hz)
  · exact hdown (Vec3.ext hx hy hz)

end Vec3

namespace Trig

theorem modEq_of_coe_eq {x y : ℝ} (h : (↑(radians x) : Real.Angle) = ↑(radians y)) : x ≡ y [PMOD 360] := by
  obtain ⟨k, hk⟩ := Real.Angle.angle_eq_iff_two_pi_dvd_sub.1 h
  refine Angle.modEq_iff.2 ⟨k, ?_⟩
  have hpi := Real.pi_pos
  rw [← radians_sub, radians_eq] at hk
  have hdiff : (x - y) * Real.pi = k * 360 * Real.pi := by linarith
  linarith [mul_right_cancel₀ hpi.ne' hdiff]

end Trig

namespace AnglePair

theorem opposite_primary_eq (p : AnglePair ℝ) : p.opposite.primary = Angle.signed (p.primary + 180) := by
  have hle := Int.le_ceil ((p.primary + 180 - 180) / 360 : ℝ)
  have hlt := Int.ceil_lt_add_one ((p.primary + 180 - 180) / 360 : ℝ)
  have hprimary : p.opposite.primary = p.primary + 180 - 360 * ⌈(p.primary + 180 - 180) / 360⌉ := by
    rw [← Scalar.halfTurn_eq, ← Scalar.fullTurn_eq]
    rfl
  rw [Angle.eq_signed_iff, hprimary]
  constructor
  · constructor
    · linarith
    · linarith
  · exact Angle.modEq_iff.2 ⟨-⌈(p.primary + 180 - 180) / 360⌉, by push_cast; ring⟩

/-- The opposite pair is that of the other end. -/
theorem direction_opposite (p : AnglePair ℝ) : p.opposite.direction = p.direction.neg := by
  have hturn : p.opposite.primary ≡ p.primary + 180 [PMOD 360] := by
    rw [opposite_primary_eq]
    exact Angle.signed_modEq _
  have hsecondary : p.opposite.secondary = -p.secondary := rfl
  rw [direction_eq, direction_eq, cos_radians_of_modEq hturn, sin_radians_of_modEq hturn, hsecondary, radians_neg,
    radians_add_halfTurn, Real.cos_add_pi, Real.sin_add_pi, Real.cos_neg, Real.sin_neg, neg_eq]
  simp only [mul_neg]

theorem secondary_opposite_ofDirection {v : Vec3 ℝ} (hv : v.dot v = 1) :
    (ofDirection v).opposite.secondary = (ofDirection v.neg).secondary := by
  have hneg : v.neg.z = -v.z := rfl
  rw [secondary_ofDirection ((dot_self_neg v).trans hv), hneg, Real.arcsin_neg, degrees_neg,
    ← secondary_ofDirection hv]
  rfl

/-- Away from the poles the opposite of a pair is the pair of the opposite direction. -/
theorem opposite_ofDirection {v : Vec3 ℝ} (hv : v.dot v = 1) (hhour : v.HasHourAngle) :
    (ofDirection v).opposite = ofDirection v.neg := by
  have hne : (⟨v.x, v.y⟩ : ℂ) ≠ 0 := by
    rw [Ne, Complex.ext_iff]
    exact not_and_or.2 hhour
  have hturn : (ofDirection v.neg).primary ≡ (ofDirection v).primary + 180 [PMOD 360] := by
    apply modEq_of_coe_eq
    rw [radians_add_halfTurn, primary_ofDirection, primary_ofDirection, radians_degrees, radians_degrees,
      Real.Angle.coe_add]
    exact Complex.arg_neg_coe_angle hne
  have hprimary : (ofDirection v).opposite.primary = (ofDirection v.neg).primary := by
    rw [opposite_primary_eq, eq_comm, Angle.eq_signed_iff]
    exact ⟨primary_ofDirection_mem _, hturn⟩
  exact congrArg₂ AnglePair.mk hprimary (secondary_opposite_ofDirection hv)

end AnglePair

end EquatorialMount
