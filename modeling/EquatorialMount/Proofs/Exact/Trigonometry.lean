import Mathlib.Analysis.SpecialFunctions.Complex.Arg
import EquatorialMount.Proofs.Exact.Number

/-!
# Exact trigonometry

Over ℝ the functions of the library are the functions of analysis.  The two-argument arctangent is the argument of a
complex number, so it lies in `(-π, π]` and is zero at the origin.
-/

namespace EquatorialMount

namespace Trig

open Real

noncomputable instance real : Trig ℝ where
  sqrt := Real.sqrt
  sin := Real.sin
  cos := Real.cos
  asin := Real.arcsin
  atan2 y x := Complex.arg ⟨x, y⟩
  hypot x y := √(x ^ 2 + y ^ 2)
  radiansPerDegree := π / Scalar.halfTurn
  degreesPerRadian := Scalar.halfTurn / π

@[simp] theorem sqrt_eq (x : ℝ) : sqrt x = √x := rfl

@[simp] theorem sin_eq (x : ℝ) : sin x = Real.sin x := rfl

@[simp] theorem cos_eq (x : ℝ) : cos x = Real.cos x := rfl

@[simp] theorem asin_eq (x : ℝ) : asin x = Real.arcsin x := rfl

@[simp] theorem atan2_eq (y x : ℝ) : atan2 y x = Complex.arg ⟨x, y⟩ := rfl

@[simp] theorem hypot_eq (x y : ℝ) : hypot x y = √(x ^ 2 + y ^ 2) := rfl

theorem radians_eq (x : ℝ) : radians x = x * (π / 180) := by
  rw [← Scalar.halfTurn_eq]
  rfl

theorem radians_add (x y : ℝ) : radians (x + y) = radians x + radians y := by
  simp only [radians_eq, add_mul]

theorem radians_sub (x y : ℝ) : radians (x - y) = radians x - radians y := by
  simp only [radians_eq, sub_mul]

theorem radians_neg (x : ℝ) : radians (-x) = -radians x := by
  simp only [radians_eq, neg_mul]

theorem degrees_neg (x : ℝ) : degrees (-x) = -degrees x := neg_mul _ _

theorem two_mul_radians_half (x : ℝ) : 2 * radians (x / 2) = radians x := by
  rw [radians_eq, radians_eq]
  ring

@[simp] theorem radians_zero : radians (0 : ℝ) = 0 := by
  rw [radians_eq, zero_mul]

@[simp] theorem radians_ninety : radians (90 : ℝ) = π / 2 := by
  rw [radians_eq]
  ring

@[simp] theorem radians_halfTurn : radians (180 : ℝ) = π := by
  rw [radians_eq]
  ring

@[simp] theorem radians_degrees (x : ℝ) : radians (degrees x) = x := by
  have hpi := Real.pi_ne_zero
  show x * (Scalar.halfTurn / π) * (π / Scalar.halfTurn) = x
  rw [Scalar.halfTurn_eq]
  field_simp

@[simp] theorem degrees_radians (x : ℝ) : degrees (radians x) = x := by
  have hpi := Real.pi_ne_zero
  show x * (π / Scalar.halfTurn) * (Scalar.halfTurn / π) = x
  rw [Scalar.halfTurn_eq]
  field_simp

theorem radians_le_radians {x y : ℝ} : radians x ≤ radians y ↔ x ≤ y := by
  rw [radians_eq, radians_eq]
  exact mul_le_mul_iff_left₀ (by positivity)

theorem radians_lt_radians {x y : ℝ} : radians x < radians y ↔ x < y :=
  lt_iff_lt_of_le_iff_le radians_le_radians

private theorem radians_abs (x : ℝ) : radians |x| = |radians x| := by
  rw [radians_eq, radians_eq, abs_mul, abs_of_pos (by positivity : (0 : ℝ) < π / 180)]

theorem cos_radians_abs (x : ℝ) : Real.cos (radians |x|) = Real.cos (radians x) := by
  rw [radians_abs, Real.cos_abs]

theorem cos_radians_nonneg {x : ℝ} (h : |x| ≤ 90) : 0 ≤ Real.cos (radians x) := by
  apply Real.cos_nonneg_of_mem_Icc
  rw [← radians_ninety, ← radians_neg]
  exact ⟨radians_le_radians.2 (abs_le.1 h).1, radians_le_radians.2 (abs_le.1 h).2⟩

/-- Half an angle of less than a turn has a positive sine. -/
theorem sin_half_pos {x : ℝ} (h0 : 0 < x) (h : x < 360) : 0 < Real.sin (radians (x / 2)) := by
  rw [radians_eq]
  apply Real.sin_pos_of_pos_of_lt_pi
  · positivity
  · nlinarith [Real.pi_pos]

/-- Half an angle has no sine exactly if the angle is a number of whole turns. -/
theorem sin_half_eq_zero_iff {x : ℝ} : Real.sin (radians (x / 2)) = 0 ↔ ∃ n : ℤ, x = n * 360 := by
  rw [radians_eq, Real.sin_eq_zero_iff]
  refine exists_congr fun n => ?_
  have hpi := Real.pi_ne_zero
  constructor
  · intro h
    field_simp at h
    linarith
  · rintro rfl
    ring

/-! ### The argument of a point -/

private theorem norm_mk (x y : ℝ) : ‖(⟨x, y⟩ : ℂ)‖ = √(x ^ 2 + y ^ 2) := Complex.norm_eq_sqrt_sq_add_sq _

theorem hypot_mul_cos_atan2 (x y : ℝ) : √(x ^ 2 + y ^ 2) * Real.cos (Complex.arg ⟨x, y⟩) = x := by
  rw [← norm_mk]
  exact Complex.norm_mul_cos_arg _

theorem hypot_mul_sin_atan2 (x y : ℝ) : √(x ^ 2 + y ^ 2) * Real.sin (Complex.arg ⟨x, y⟩) = y := by
  rw [← norm_mk]
  exact Complex.norm_mul_sin_arg _

end Trig

end EquatorialMount
