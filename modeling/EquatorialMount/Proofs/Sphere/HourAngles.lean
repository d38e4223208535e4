import EquatorialMount.Proofs.Angle
import EquatorialMount.Proofs.Sphere.PlaneNormal

/-!
# The sense of rotation

Samples at one declination lie on a circle about the pole, so the axis is one of the two ends of the polar axis or
none.  Which one it is, is the sign of a product of sines of half differences of the hour angles (`halfSines`), by the
identity `sin 2x + sin 2y - sin 2(x + y) = 4 sin x sin y sin (x + y)`.
-/

namespace EquatorialMount

open AddCommGroup Trig Vec3

/-! ### Sines of half differences -/

private theorem sin_add_sin_sub_sin (x y : ℝ) :
    Real.sin (2 * x) + Real.sin (2 * y) - Real.sin (2 * (x + y)) =
      4 * (Real.sin x * Real.sin y * Real.sin (x + y)) := by
  have hx := Real.sin_sq_add_cos_sq x
  have hy := Real.sin_sq_add_cos_sq y
  rw [Real.sin_two_mul, Real.sin_two_mul, Real.sin_two_mul, Real.sin_add, Real.cos_add]
  linear_combination (-2 * Real.sin x * Real.cos x) * hy + (-2 * Real.sin y * Real.cos y) * hx

/-- The product of sines that tells in which sense three hour angles follow each other. -/
noncomputable def halfSines (h₁ h₂ h₃ : ℝ) : ℝ :=
  Real.sin (radians ((h₂ - h₁) / 2)) * Real.sin (radians ((h₃ - h₂) / 2)) * Real.sin (radians ((h₃ - h₁) / 2))

variable {d h₁ h₂ h₃ : ℝ}

private theorem halfSines_pos (h12 : h₁ < h₂) (h23 : h₂ < h₃) (h31 : h₃ < h₁ + 360) : 0 < halfSines h₁ h₂ h₃ := by
  have s12 := sin_half_pos (x := h₂ - h₁) (by linarith) (by linarith)
  have s23 := sin_half_pos (x := h₃ - h₂) (by linarith) (by linarith)
  have s13 := sin_half_pos (x := h₃ - h₁) (by linarith) (by linarith)
  exact mul_pos (mul_pos s12 s23) s13

private theorem halfSines_reverse (h₁ h₂ h₃ : ℝ) : halfSines h₃ h₂ h₁ = -halfSines h₁ h₂ h₃ := by
  have hneg (a b : ℝ) : Real.sin (radians ((a - b) / 2)) = -Real.sin (radians ((b - a) / 2)) := by
    rw [← Real.sin_neg, ← radians_neg]
    ring_nf
  rw [halfSines, halfSines, hneg h₂ h₃, hneg h₁ h₂, hneg h₁ h₃]
  ring

private theorem sin_half_sub_eq_zero_iff {a b : ℝ} : Real.sin (radians ((b - a) / 2)) = 0 ↔ a ≡ b [PMOD 360] := by
  rw [sin_half_eq_zero_iff, modEq_comm, Angle.modEq_iff]
  simp only [sub_eq_iff_eq_add']

private theorem halfSines_eq_zero_iff :
    halfSines h₁ h₂ h₃ = 0 ↔ h₁ ≡ h₂ [PMOD 360] ∨ h₂ ≡ h₃ [PMOD 360] ∨ h₁ ≡ h₃ [PMOD 360] := by
  rw [halfSines, mul_eq_zero, mul_eq_zero, sin_half_sub_eq_zero_iff, sin_half_sub_eq_zero_iff,
    sin_half_sub_eq_zero_iff, or_assoc]

/-! ### The polar axis -/

private theorem inSense_pole (t : ℝ) : (⟨0, 0, 1⟩ : Vec3 ℝ).inSense t = ⟨0, 0, (SignType.sign t : ℝ)⟩ := by
  rcases lt_trichotomy t 0 with h | rfl | h
  · rw [inSense_of_neg h, sign_neg h, neg_eq]
    simp
  · rw [inSense_zero, sign_zero, zero_eq]
    rfl
  · rw [inSense_of_pos h, sign_pos h]
    rfl

/-- The part along the pole of the normal that three points at one declination span. -/
private theorem pole_dot_spannedNormal (d h₁ h₂ h₃ : ℝ) :
    dot ⟨0, 0, 1⟩ (spannedNormal (AnglePair.mk h₁ d).direction (AnglePair.mk h₂ d).direction
        (AnglePair.mk h₃ d).direction) =
      4 * Real.cos (radians d) ^ 2 * halfSines h₁ h₂ h₃ := by
  have h12 : radians h₂ - radians h₁ = 2 * radians ((h₂ - h₁) / 2) := by
    rw [two_mul_radians_half, radians_sub]
  have h23 : radians h₃ - radians h₂ = 2 * radians ((h₃ - h₂) / 2) := by
    rw [two_mul_radians_half, radians_sub]
  have h13 : radians ((h₃ - h₁) / 2) = radians ((h₂ - h₁) / 2) + radians ((h₃ - h₂) / 2) := by
    rw [← radians_add]
    ring_nf
  have hsum : radians h₃ - radians h₁ = 2 * (radians ((h₂ - h₁) / 2) + radians ((h₃ - h₂) / 2)) := by
    rw [← h13, two_mul_radians_half, radians_sub]
  calc dot ⟨0, 0, 1⟩ (spannedNormal (AnglePair.mk h₁ d).direction (AnglePair.mk h₂ d).direction
          (AnglePair.mk h₃ d).direction)
      = Real.cos (radians d) ^ 2 * (Real.sin (radians h₂ - radians h₁) + Real.sin (radians h₃ - radians h₂) -
          Real.sin (radians h₃ - radians h₁)) := by
        simp only [spannedNormal, AnglePair.direction, AnglePair.toRadians, dot_eq, cross_eq, sub_eq, sin_eq, cos_eq,
          Real.sin_sub]
        ring
    _ = 4 * Real.cos (radians d) ^ 2 * halfSines h₁ h₂ h₃ := by
        rw [h12, h23, hsum, sin_add_sin_sub_sin, halfSines, h13]
        ring

namespace Samples

/-- Three samples at one declination. -/
def atDeclination {α : Type} (d h₁ h₂ h₃ : α) : Samples α := ⟨⟨h₁, d⟩, ⟨h₂, d⟩, ⟨h₃, d⟩⟩

theorem rotationAxis?_atDeclination (d h₁ h₂ h₃ : ℝ) :
    (atDeclination d h₁ h₂ h₃).rotationAxis? =
      .ok ((⟨0, 0, 1⟩ : Vec3 ℝ).inSense (4 * Real.cos (radians d) ^ 2 * halfSines h₁ h₂ h₃)) := by
  have hpole (h : ℝ) : dot (⟨0, 0, 1⟩ : Vec3 ℝ) (AnglePair.mk h d).direction = Real.sin (radians d) := by
    simp [dot_eq, AnglePair.direction, AnglePair.toRadians]
  rw [rotationAxis?_eq, ← pole_dot_spannedNormal]
  exact congrArg Except.ok (planeNormal_of_mem_circle (by simp [dot_eq]) (hpole h₁) (hpole h₂) (hpole h₃))

/-- Between the poles the axis of samples at one declination points along the polar axis by the sense of rotation:
one way if the hour angles rise within a turn, the other way if they fall, and no way exactly if two of them are the
same.  At a pole there is no axis. -/
theorem axis_atDeclination (d h₁ h₂ h₃ : ℝ) :
    (Real.cos (radians d) ≠ 0 →
        (atDeclination d h₁ h₂ h₃).rotationAxis? = .ok ⟨0, 0, (SignType.sign (halfSines h₁ h₂ h₃) : ℝ)⟩ ∧
        (h₁ < h₂ → h₂ < h₃ → h₃ < h₁ + 360 → (atDeclination d h₁ h₂ h₃).rotationAxis? = .ok ⟨0, 0, 1⟩) ∧
        (h₃ < h₂ → h₂ < h₁ → h₁ < h₃ + 360 → (atDeclination d h₁ h₂ h₃).rotationAxis? = .ok ⟨0, 0, -1⟩) ∧
        ((atDeclination d h₁ h₂ h₃).rotationAxis? = .ok zero ↔
          h₁ ≡ h₂ [PMOD 360] ∨ h₂ ≡ h₃ [PMOD 360] ∨ h₁ ≡ h₃ [PMOD 360])) ∧
      (Real.cos (radians d) = 0 → (atDeclination d h₁ h₂ h₃).rotationAxis? = .ok zero) := by
  refine ⟨fun hd => ?_, fun hd => ?_⟩
  · have haxis : (atDeclination d h₁ h₂ h₃).rotationAxis? =
        .ok ((⟨0, 0, 1⟩ : Vec3 ℝ).inSense (halfSines h₁ h₂ h₃)) := by
      rw [rotationAxis?_atDeclination, inSense_mul (by positivity)]
    refine ⟨by rw [haxis, inSense_pole], fun h12 h23 h31 => ?_, fun h32 h21 h13 => ?_, ?_⟩
    · rw [haxis, inSense_of_pos (halfSines_pos h12 h23 h31)]
    · have hneg : halfSines h₁ h₂ h₃ < 0 := by
        rw [halfSines_reverse, neg_neg_iff_pos]
        exact halfSines_pos h32 h21 h13
      rw [haxis, inSense_of_neg hneg, neg_eq, neg_zero]
    · rw [haxis, Except.ok.injEq, inSense_eq_zero_iff (by simp [dot_eq])]
      exact halfSines_eq_zero_iff
  · rw [rotationAxis?_atDeclination, hd]
    simp

/-- On the celestial equator: up, down, and back where it started; and at the pole. -/
theorem axis_atDeclination_equator :
    (atDeclination (0 : ℝ) 0 60 120).rotationAxis? = .ok ⟨0, 0, 1⟩ ∧
      (atDeclination (0 : ℝ) 120 60 0).rotationAxis? = .ok ⟨0, 0, -1⟩ ∧
      (atDeclination (0 : ℝ) 0 60 360).rotationAxis? = .ok zero ∧
      (atDeclination (90 : ℝ) 0 60 120).rotationAxis? = .ok zero := by
  have hequator : Real.cos (radians 0) ≠ 0 := by simp
  have hpole : Real.cos (radians 90) = 0 := by simp
  obtain ⟨-, hup, -, -⟩ := (axis_atDeclination 0 0 60 120).1 hequator
  obtain ⟨-, -, hdown, -⟩ := (axis_atDeclination 0 120 60 0).1 hequator
  obtain ⟨-, -, -, hround⟩ := (axis_atDeclination 0 0 60 360).1 hequator
  refine ⟨?_, ?_, ?_, (axis_atDeclination 90 0 60 120).2 hpole⟩
  · exact hup (by norm_num) (by norm_num) (by norm_num)
  · exact hdown (by norm_num) (by norm_num) (by norm_num)
  · exact hround.2 (.inr (.inr (Angle.modEq_iff.2 ⟨-1, by norm_num⟩)))

end Samples

end EquatorialMount
