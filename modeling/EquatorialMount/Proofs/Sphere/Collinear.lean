import Mathlib.LinearAlgebra.AffineSpace.FiniteDimensional
import EquatorialMount.Proofs.Sphere.Unit

/-!
# Points on one line

Three points single out a plane unless they are on one line, and then there is no normal: their differences are parallel
exactly if the cross product of two of them vanishes (`spannedNormal_eq_zero_iff`).  Where the points are on no line the
normal has length one, is orthogonal to the three differences, and points the way the points are gone through
(`planeNormal_unit_or_zero`).
-/

namespace EquatorialMount

open Vec3

namespace Vec3

/-- Whether three points are on one line; coincident points count as on it. -/
def OnOneLine (a b c : Vec3 ℝ) : Prop := Collinear ℝ {a.coordinates, b.coordinates, c.coordinates}

variable {a b c : Vec3 ℝ}

private theorem coordinates_eq_vadd_iff {v : Fin 3 → ℝ} {t : ℝ} :
    a.coordinates = t • v +ᵥ b.coordinates ↔ a.sub b = scale t ⟨v 0, v 1, v 2⟩ := by
  simp [coordinates, funext_iff, Fin.forall_fin_succ, Matrix.vecHead, Matrix.vecTail, sub_eq, scale_eq,
    sub_eq_iff_eq_add]

/-- The points are on one line if a vector leads from the middle one to the two others. -/
theorem onOneLine_iff : OnOneLine a b c ↔ ∃ d r s, a.sub b = scale r d ∧ c.sub b = scale s d := by
  have hmem : b.coordinates ∈ ({a.coordinates, b.coordinates, c.coordinates} : Set (Fin 3 → ℝ)) := by simp
  rw [OnOneLine, collinear_iff_of_mem hmem]
  constructor
  · rintro ⟨v, hv⟩
    obtain ⟨r, hr⟩ := hv a.coordinates (by simp)
    obtain ⟨s, hs⟩ := hv c.coordinates (by simp)
    exact ⟨⟨v 0, v 1, v 2⟩, r, s, coordinates_eq_vadd_iff.1 hr, coordinates_eq_vadd_iff.1 hs⟩
  · rintro ⟨d, r, s, hr, hs⟩
    refine ⟨d.coordinates, ?_⟩
    rintro p (rfl | rfl | rfl)
    · exact ⟨r, coordinates_eq_vadd_iff.2 hr⟩
    · exact ⟨0, by simp⟩
    · exact ⟨s, coordinates_eq_vadd_iff.2 hs⟩

theorem OnOneLine.of_eq (h : a = b ∨ b = c ∨ a = c) : OnOneLine a b c := by
  obtain rfl | rfl | rfl := h
  · simp [OnOneLine, collinear_pair]
  · simp [OnOneLine, collinear_pair]
  · rw [OnOneLine, Set.insert_comm]
    simp [collinear_pair]

end Vec3

variable {a b c : Vec3 ℝ}

theorem spannedNormal_eq_zero_iff : spannedNormal a b c = zero ↔ OnOneLine a b c := by
  rw [onOneLine_iff]
  constructor
  · intro h
    by_cases hab : b.sub a = zero
    · -- the first two points coincide, so the difference of the last two leads to all
      refine ⟨c.sub b, 0, 1, ?_, (one_scale _).symm⟩
      rw [zero_scale, sub_eq_zero_iff, sub_eq_zero_iff.1 hab]
    · refine ⟨b.sub a, -1, _, ?_, eq_scale_of_cross_eq_zero hab h⟩
      simp only [sub_eq, scale_eq, neg_one_mul, neg_sub]
  · rintro ⟨d, r, s, hr, hs⟩
    have hba : b.sub a = scale (-r) d := by
      simp only [sub_eq, scale_eq, mk.injEq] at hr ⊢
      obtain ⟨hx, hy, hz⟩ := hr
      exact ⟨by linarith, by linarith, by linarith⟩
    rw [spannedNormal, hba, hs]
    simp only [cross_eq, scale_eq, zero_eq, mk.injEq]
    refine ⟨?_, ?_, ?_⟩ <;> ring

/-! ### The normal of a plane -/

/-- The spanned normal is at right angles to the plane. -/
private theorem spannedNormal_dot_differences (a b c : Vec3 ℝ) :
    (spannedNormal a b c).dot (b.sub a) = 0 ∧ (spannedNormal a b c).dot (c.sub b) = 0 ∧
      (spannedNormal a b c).dot (c.sub a) = 0 := by
  simp only [spannedNormal, dot_eq, cross_eq, sub_eq]
  refine ⟨?_, ?_, ?_⟩ <;> ring

/-- The normal of a plane is a unit vector at right angles to it, in the sense in which its points are gone through;
there is none, and this shows, exactly if the points are on one line. -/
theorem planeNormal_unit_or_zero (a b c : Vec3 ℝ) :
    ((planeNormal a b c = zero ↔ OnOneLine a b c) ∧
        (isUndetermined (planeNormal a b c) Scalar.zero = true ↔ OnOneLine a b c) ∧
        (a = b ∨ b = c ∨ a = c → OnOneLine a b c)) ∧
      (¬OnOneLine a b c →
        (planeNormal a b c).length = 1 ∧
        (planeNormal a b c).dot (b.sub a) = 0 ∧ (planeNormal a b c).dot (c.sub b) = 0 ∧
        (planeNormal a b c).dot (c.sub a) = 0 ∧
        0 < (planeNormal a b c).dot ((b.sub a).cross (c.sub b))) := by
  have hzero : planeNormal a b c = zero ↔ OnOneLine a b c := planeNormal_eq_zero_iff.trans spannedNormal_eq_zero_iff
  refine ⟨⟨hzero, isUndetermined_iff.trans hzero, OnOneLine.of_eq⟩, fun hline => ?_⟩
  have hne : spannedNormal a b c ≠ zero := mt spannedNormal_eq_zero_iff.1 hline
  have hlength := length_pos_of_ne hne
  obtain ⟨hfirst, hsecond, hthird⟩ := spannedNormal_dot_differences a b c
  have hsense : (planeNormal a b c).dot ((b.sub a).cross (c.sub b)) = (spannedNormal a b c).length := by
    rw [planeNormal_eq_unit, dot_unit hne, ← spannedNormal, ← length_sq, sq, mul_div_assoc, div_self hlength.ne',
      mul_one]
  rw [hsense, planeNormal_eq_unit, dot_unit hne, dot_unit hne, dot_unit hne, hfirst, hsecond, hthird, zero_div]
  exact ⟨length_unit hne, rfl, rfl, rfl, hlength⟩

/-- Three points on the axes of the frame, which are on no line, and three along the diagonal. -/
theorem planeNormal_unit_or_zero_corner :
    ¬OnOneLine ⟨1, 0, 0⟩ ⟨0, 1, 0⟩ ⟨0, 0, 1⟩ ∧
      (planeNormal (⟨1, 0, 0⟩ : Vec3 ℝ) ⟨0, 1, 0⟩ ⟨0, 0, 1⟩).length = 1 ∧
      0 < (planeNormal (⟨1, 0, 0⟩ : Vec3 ℝ) ⟨0, 1, 0⟩ ⟨0, 0, 1⟩).dot ⟨1, 1, 1⟩ ∧
      planeNormal (⟨0, 0, 0⟩ : Vec3 ℝ) ⟨1, 1, 1⟩ ⟨2, 2, 2⟩ = zero := by
  have hspanned : ((⟨0, 1, 0⟩ : Vec3 ℝ).sub ⟨1, 0, 0⟩).cross ((⟨0, 0, 1⟩ : Vec3 ℝ).sub ⟨0, 1, 0⟩) = ⟨1, 1, 1⟩ := by
    simp [cross_eq, sub_eq]
  have hcorner : ¬OnOneLine ⟨1, 0, 0⟩ ⟨0, 1, 0⟩ ⟨0, 0, 1⟩ := by
    rw [← spannedNormal_eq_zero_iff, spannedNormal, hspanned, zero_eq]
    simp
  have hdiagonal : OnOneLine ⟨0, 0, 0⟩ ⟨1, 1, 1⟩ ⟨2, 2, 2⟩ :=
    onOneLine_iff.2 ⟨⟨1, 1, 1⟩, -1, 1, by simp [sub_eq, scale_eq], by norm_num [sub_eq, scale_eq]⟩
  obtain ⟨hlength, -, -, -, hsense⟩ := (planeNormal_unit_or_zero _ _ _).2 hcorner
  rw [hspanned] at hsense
  exact ⟨hcorner, hlength, hsense, (planeNormal_unit_or_zero _ _ _).1.1.2 hdiagonal⟩

end EquatorialMount
