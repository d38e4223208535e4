import EquatorialMount.Proofs.Sphere.AnglePair
import EquatorialMount.Proofs.Sphere.Unit

/-!
# The axis of a circle

The samples of a mount lie on one circle about its axis: all three have the same component along it.  So the spanned
normal is a multiple of the axis, and scaling it to length one leaves the axis itself or its opposite, by the sense in
which the three points follow each other (`planeNormal_of_mem_circle`).
-/

namespace EquatorialMount

namespace Vec3

/-- A vector, its opposite or neither, by the sign of a number. -/
noncomputable def inSense (n : Vec3 ℝ) (t : ℝ) : Vec3 ℝ :=
  if 0 < t then n else if t < 0 then n.neg else zero

variable {n : Vec3 ℝ} {t : ℝ}

theorem inSense_of_pos (h : 0 < t) : n.inSense t = n := if_pos h

theorem inSense_of_neg (h : t < 0) : n.inSense t = n.neg := by
  rw [inSense, if_neg h.not_gt, if_pos h]

@[simp] theorem inSense_zero : n.inSense 0 = zero := by
  simp [inSense]

/-- Only the sign counts. -/
theorem inSense_mul {k : ℝ} (hk : 0 < k) : n.inSense (k * t) = n.inSense t := by
  rcases lt_trichotomy t 0 with h | rfl | h
  · rw [inSense_of_neg h, inSense_of_neg (mul_neg_of_pos_of_neg hk h)]
  · rw [mul_zero]
  · rw [inSense_of_pos h, inSense_of_pos (mul_pos hk h)]

private theorem dot_self_inSense (hn : n.dot n = 1) (ht : t ≠ 0) : (n.inSense t).dot (n.inSense t) = 1 := by
  rcases lt_or_gt_of_ne ht with h | h
  · rw [inSense_of_neg h, dot_self_neg, hn]
  · rw [inSense_of_pos h, hn]

theorem inSense_eq_zero_iff (hn : n.dot n = 1) : n.inSense t = zero ↔ t = 0 := by
  refine ⟨fun h => ?_, fun h => by rw [h, inSense_zero]⟩
  by_contra ht
  have hunit := dot_self_inSense hn ht
  rw [h] at hunit
  simp [dot_eq, zero_eq] at hunit

/-- Scaling a multiple of a unit vector to length one leaves the sign of the factor. -/
private theorem unit_scale (hn : n.dot n = 1) : (scale t n).unit = n.inSense t := by
  by_cases ht : t = 0
  · rw [ht, zero_scale, unit_zero, inSense_zero]
  · have hlength : (scale t n).length = |t| := by rw [length_scale, length_of_unit hn, mul_one]
    have hne : scale t n ≠ zero := ne_zero_of_length_pos (hlength ▸ abs_pos.2 ht)
    rw [unit_of_ne hne, hlength, scale_scale]
    rcases lt_or_gt_of_ne ht with h | h
    · rw [abs_of_neg h, inSense_of_neg h, neg_eq_scale, inv_neg, neg_mul, inv_mul_cancel₀ ht]
    · rw [abs_of_pos h, inSense_of_pos h, inv_mul_cancel₀ ht, one_scale]

end Vec3

open Vec3

variable {n a b c : Vec3 ℝ}

theorem planeNormal_of_spannedNormal {t : ℝ} (hn : n.dot n = 1) (h : spannedNormal a b c = scale t n) :
    planeNormal a b c = n.inSense t := by
  rw [planeNormal_eq_unit, h, unit_scale hn]

/-- Chords of a circle are orthogonal to its axis, so the plane of the circle is spanned by them. -/
private theorem spannedNormal_of_mem_circle {k : ℝ} (hn : n.dot n = 1) (ha : n.dot a = k) (hb : n.dot b = k)
    (hc : n.dot c = k) : spannedNormal a b c = scale (n.dot (spannedNormal a b c)) n := by
  have hab : n.dot (b.sub a) = 0 := by rw [dot_sub, ha, hb, sub_self]
  have hbc : n.dot (c.sub b) = 0 := by rw [dot_sub, hb, hc, sub_self]
  exact cross_eq_scale hn hab hbc

theorem planeNormal_of_mem_circle {k : ℝ} (hn : n.dot n = 1) (ha : n.dot a = k) (hb : n.dot b = k)
    (hc : n.dot c = k) : planeNormal a b c = n.inSense (n.dot (spannedNormal a b c)) :=
  planeNormal_of_spannedNormal hn (spannedNormal_of_mem_circle hn ha hb hc)

namespace Samples

@[simp] theorem rotationAxis?_eq (s : Samples ℝ) :
    s.rotationAxis? = .ok (planeNormal s.first.direction s.second.direction s.third.direction) := rfl

/-- The solver finds the mechanical axis: for three points of one circle about a unit vector the normal of their plane
is that vector, its opposite or neither, by the sense in which they follow each other, and the same holds of the axis
of samples that point there. -/
theorem axis_of_mem_circle {v₁ v₂ v₃ : Vec3 ℝ} {k t : ℝ} (hn : n.dot n = 1) (h₁ : n.dot v₁ = k)
    (h₂ : n.dot v₂ = k) (h₃ : n.dot v₃ = k) (ht : t = n.dot ((v₂.sub v₁).cross (v₃.sub v₂))) :
    ((0 < t → planeNormal v₁ v₂ v₃ = n) ∧ (t < 0 → planeNormal v₁ v₂ v₃ = n.neg) ∧
        (t = 0 → planeNormal v₁ v₂ v₃ = zero)) ∧
      ∀ s : Samples ℝ, s.first.direction? = .ok v₁ → s.second.direction? = .ok v₂ → s.third.direction? = .ok v₃ →
        (0 < t → s.rotationAxis? = .ok n) ∧ (t < 0 → s.rotationAxis? = .ok n.neg) ∧
          (t = 0 → s.rotationAxis? = .ok zero) := by
  have hplane : planeNormal v₁ v₂ v₃ = n.inSense t := by
    rw [ht]
    exact planeNormal_of_mem_circle hn h₁ h₂ h₃
  refine ⟨⟨fun h => ?_, fun h => ?_, fun h => ?_⟩, fun s e₁ e₂ e₃ => ?_⟩
  · rw [hplane, inSense_of_pos h]
  · rw [hplane, inSense_of_neg h]
  · rw [hplane, h, inSense_zero]
  · rw [AnglePair.direction?_eq, Except.ok.injEq] at e₁ e₂ e₃
    rw [rotationAxis?_eq, e₁, e₂, e₃, hplane]
    exact ⟨fun h => by rw [inSense_of_pos h], fun h => by rw [inSense_of_neg h], fun h => by rw [h, inSense_zero]⟩

/-- The axis that is equally far from the three axes of the frame, found from a sample on each of these. -/
theorem axis_of_mem_circle_diagonal :
    (⟨⟨0, 0⟩, ⟨90, 0⟩, ⟨0, 90⟩⟩ : Samples ℝ).rotationAxis? = .ok ⟨1 / √3, 1 / √3, 1 / √3⟩ := by
  have h3 : √3 * √3 = (3 : ℝ) := Real.mul_self_sqrt (by norm_num)
  have hn : dot (⟨1 / √3, 1 / √3, 1 / √3⟩ : Vec3 ℝ) ⟨1 / √3, 1 / √3, 1 / √3⟩ = 1 := by
    simp only [dot_eq, div_mul_div_comm, h3]
    norm_num
  have hx : dot (⟨1 / √3, 1 / √3, 1 / √3⟩ : Vec3 ℝ) ⟨1, 0, 0⟩ = 1 / √3 := by simp [dot_eq]
  have hy : dot (⟨1 / √3, 1 / √3, 1 / √3⟩ : Vec3 ℝ) ⟨0, 1, 0⟩ = 1 / √3 := by simp [dot_eq]
  have hz : dot (⟨1 / √3, 1 / √3, 1 / √3⟩ : Vec3 ℝ) ⟨0, 0, 1⟩ = 1 / √3 := by simp [dot_eq]
  have h := (axis_of_mem_circle hn hx hy hz rfl).2 ⟨⟨0, 0⟩, ⟨90, 0⟩, ⟨0, 90⟩⟩
  refine (h ?_ ?_ ?_).1 ?_
  · simp [AnglePair.direction, AnglePair.toRadians]
  · simp [AnglePair.direction, AnglePair.toRadians]
  · simp [AnglePair.direction, AnglePair.toRadians]
  · simp only [dot_eq, cross_eq, sub_eq, sub_zero, zero_sub, mul_zero, mul_one, neg_mul_neg]
    positivity

end Samples

end EquatorialMount
