import EquatorialMount.Proofs.Sphere.Vector

/-!
# Vectors of length one

The axis is the spanned normal scaled to length one (`planeNormal_eq_unit`), and `unit` is that scaling by itself: it
keeps the direction of a vector, and it has none to keep exactly for the zero vector.  Whatever stretches all vectors
alike can be done before the scaling or after it (`unit_map`).
-/

namespace EquatorialMount

namespace Vec3

/-- A vector scaled to length one; the zero vector stays as it is. -/
def unit {α : Type} [Trig α] (n : Vec3 α) : Vec3 α := if Scalar.isZero (n.dot n) then zero else n.divideBy n.length

variable {n v : Vec3 ℝ}

@[simp] theorem unit_zero : (zero : Vec3 ℝ).unit = zero := by
  simp [unit, dot_eq, zero_eq]

theorem unit_of_ne (h : n ≠ zero) : n.unit = scale n.length⁻¹ n := by
  rw [unit, if_neg (mt (Scalar.isZero_iff _).1 (dot_self_ne_zero h)), divideBy_eq, scale_eq]
  simp only [div_eq_inv_mul]

theorem length_pos_of_ne (h : n ≠ zero) : 0 < n.length := length_pos (dot_self_ne_zero h)

theorem length_eq_zero_iff : n.length = 0 ↔ n = zero := by
  refine ⟨fun h => by_contra fun hne => (length_pos_of_ne hne).ne' h, ?_⟩
  rintro rfl
  simp [length_eq, dot_eq, zero_eq]

theorem ne_zero_of_length_pos (h : 0 < n.length) : n ≠ zero := mt length_eq_zero_iff.2 h.ne'

/-- Without a tolerance only the zero vector counts as one without a direction. -/
theorem isUndetermined_iff : isUndetermined n Scalar.zero = true ↔ n = zero := by
  rw [isUndetermined, decide_eq_true_iff, Scalar.zero_eq, ← not_iff_not, not_le]
  exact ⟨ne_zero_of_length_pos, length_pos_of_ne⟩

theorem isUndetermined_of_ne (h : n.dot n ≠ 0) : isUndetermined n Scalar.zero = false := by
  rw [← Bool.not_eq_true, isUndetermined_iff]
  rintro rfl
  exact h (by simp [dot_eq, zero_eq])

private theorem dot_self_unit (h : n ≠ zero) : n.unit.dot n.unit = 1 := by
  have hne : n.length ≠ 0 := (length_pos_of_ne h).ne'
  rw [unit_of_ne h, dot_scale, dot_comm, dot_scale, ← length_sq]
  field_simp

theorem length_unit (h : n ≠ zero) : n.unit.length = 1 := by
  rw [length_eq, dot_self_unit h, Real.sqrt_one]

private theorem unit_eq_zero_iff : n.unit = zero ↔ n = zero := by
  refine ⟨fun h => ?_, fun h => by rw [h, unit_zero]⟩
  by_contra hne
  rw [← length_eq_zero_iff, length_unit hne] at h
  exact one_ne_zero h

/-- The component along a vector scaled to length one. -/
theorem dot_unit (h : n ≠ zero) : n.unit.dot v = n.dot v / n.length := by
  rw [unit_of_ne h, dot_comm, dot_scale, dot_comm, inv_mul_eq_div]

/-- A map that commutes with stretching and stretches all vectors alike commutes with the scaling to length one, but for
its own stretch. -/
theorem unit_map {f : Vec3 ℝ → Vec3 ℝ} {k : ℝ} (hk : 0 < k) (hscale : ∀ s v, f (scale s v) = scale s (f v))
    (hlength : ∀ v, (f v).length = k * v.length) (n : Vec3 ℝ) : (f n).unit = scale k⁻¹ (f n.unit) := by
  have hzero : f zero = zero := by
    rw [← zero_scale zero, hscale, zero_scale, zero_scale]
  by_cases h : n = zero
  · rw [h, hzero, unit_zero, hzero, ← zero_scale zero, scale_scale, mul_zero]
  · have hlengthPos : 0 < (f n).length := by
      rw [hlength]
      exact mul_pos hk (length_pos_of_ne h)
    rw [unit_of_ne (ne_zero_of_length_pos hlengthPos), unit_of_ne h, hlength, hscale, scale_scale, mul_inv]

theorem neg_eq_scale (v : Vec3 ℝ) : v.neg = scale (-1) v := by
  simp only [neg_eq, scale_eq, neg_one_mul]

theorem dot_self_neg (v : Vec3 ℝ) : v.neg.dot v.neg = v.dot v := by
  simp only [dot_eq, neg_eq, neg_mul_neg]

end Vec3

open Vec3

theorem planeNormal_eq_unit {α : Type} [Trig α] (a b c : Vec3 α) : planeNormal a b c = (spannedNormal a b c).unit := rfl

/-- A normal has length one, if there is one. -/
theorem planeNormal_eq_zero_or (a b c : Vec3 ℝ) :
    planeNormal a b c = zero ∨ (planeNormal a b c).dot (planeNormal a b c) = 1 := by
  rw [planeNormal_eq_unit]
  by_cases h : spannedNormal a b c = zero
  · exact .inl (unit_eq_zero_iff.2 h)
  · exact .inr (dot_self_unit h)

theorem planeNormal_eq_zero_iff {a b c : Vec3 ℝ} : planeNormal a b c = zero ↔ spannedNormal a b c = zero := by
  rw [planeNormal_eq_unit, unit_eq_zero_iff]

end EquatorialMount
