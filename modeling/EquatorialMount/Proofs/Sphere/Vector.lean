import Mathlib.Data.Fin.VecNotation
import Mathlib.Tactic.LinearCombination
import EquatorialMount.Proofs.Exact.Trigonometry
import EquatorialMount.Sphere

/-!
# Vectors of real numbers

Coordinates of the operations, and the facts of solid geometry behind the axis: two vectors that are both orthogonal to
a unit vector have their cross product along it (`cross_eq_scale`), and vectors without a cross product lie along one
line (`eq_scale_of_cross_eq_zero`).
-/

namespace EquatorialMount

namespace Vec3

/-- A vector stretched by a factor. -/
def scale {α : Type} [Scalar α] (s : α) (a : Vec3 α) : Vec3 α := ⟨s * a.x, s * a.y, s * a.z⟩

/-- The coordinates in a row. -/
def coordinates {α : Type} (v : Vec3 α) : Fin 3 → α := ![v.x, v.y, v.z]

variable (a b n : Vec3 ℝ)

theorem zero_eq : (zero : Vec3 ℝ) = ⟨0, 0, 0⟩ := by
  simp [zero]

theorem sub_eq : a.sub b = ⟨a.x - b.x, a.y - b.y, a.z - b.z⟩ := rfl

theorem neg_eq : a.neg = ⟨-a.x, -a.y, -a.z⟩ := rfl

theorem dot_eq : a.dot b = a.x * b.x + a.y * b.y + a.z * b.z := rfl

theorem cross_eq : a.cross b = ⟨a.y * b.z - a.z * b.y, a.z * b.x - a.x * b.z, a.x * b.y - a.y * b.x⟩ := rfl

theorem divideBy_eq (s : ℝ) : a.divideBy s = ⟨a.x / s, a.y / s, a.z / s⟩ := rfl

theorem scale_eq (s : ℝ) : scale s a = ⟨s * a.x, s * a.y, s * a.z⟩ := rfl

theorem length_eq : a.length = √(a.dot a) := rfl

theorem dot_sub : n.dot (a.sub b) = n.dot a - n.dot b := by
  simp only [dot_eq, sub_eq]
  ring

theorem dot_scale (s : ℝ) : n.dot (scale s a) = s * n.dot a := by
  simp only [dot_eq, scale_eq]
  ring

theorem dot_comm : a.dot b = b.dot a := by
  simp only [dot_eq]
  ring

theorem scale_scale (s t : ℝ) : scale s (scale t a) = scale (s * t) a := by
  simp only [scale_eq, mul_assoc]

@[simp] theorem one_scale : scale 1 a = a := by
  simp only [scale_eq, one_mul]

@[simp] theorem zero_scale : scale 0 a = zero := by
  simp only [scale_eq, zero_mul, zero_eq]

variable {a b n}

theorem scale_eq_zero_iff {s : ℝ} (hs : s ≠ 0) : scale s a = zero ↔ a = zero := by
  simp only [scale_eq, zero_eq, Vec3.ext_iff, mul_eq_zero, hs, false_or]

theorem sub_eq_zero_iff : a.sub b = zero ↔ a = b := by
  simp only [sub_eq, zero_eq, Vec3.ext_iff, sub_eq_zero]

/-! ### Lengths -/

theorem dot_self (v : Vec3 ℝ) : v.dot v = v.x ^ 2 + v.y ^ 2 + v.z ^ 2 := by
  rw [dot_eq]
  ring

theorem dot_self_ne_zero {v : Vec3 ℝ} (h : v ≠ zero) : v.dot v ≠ 0 := by
  intro hdot
  rw [dot_self] at hdot
  have hx : v.x ^ 2 = 0 := by linarith [sq_nonneg v.x, sq_nonneg v.y, sq_nonneg v.z]
  have hy : v.y ^ 2 = 0 := by linarith [sq_nonneg v.x, sq_nonneg v.y, sq_nonneg v.z]
  have hz : v.z ^ 2 = 0 := by linarith [sq_nonneg v.x, sq_nonneg v.y, sq_nonneg v.z]
  rw [sq_eq_zero_iff] at hx hy hz
  exact h ((Vec3.ext hx hy hz).trans zero_eq.symm)

theorem length_sq (v : Vec3 ℝ) : v.length ^ 2 = v.dot v := by
  have hnonneg : 0 ≤ v.dot v := by
    rw [dot_self]
    positivity
  rw [length_eq, Real.sq_sqrt hnonneg]

theorem length_pos {v : Vec3 ℝ} (h : v.dot v ≠ 0) : 0 < v.length := by
  have hne : v.length ≠ 0 := by
    rw [← length_sq] at h
    exact fun h0 => h (by rw [h0, zero_pow two_ne_zero])
  exact lt_of_le_of_ne (Real.sqrt_nonneg _) hne.symm

/-- Stretching multiplies the length. -/
theorem length_scale (s : ℝ) (v : Vec3 ℝ) : (scale s v).length = |s| * v.length := by
  rw [length_eq, length_eq, dot_scale, dot_comm, dot_scale, ← mul_assoc, ← sq, Real.sqrt_mul (sq_nonneg s),
    Real.sqrt_sq_eq_abs]

theorem length_of_unit (hn : n.dot n = 1) : n.length = 1 := by
  rw [length_eq, hn, Real.sqrt_one]

/-! ### Directions -/

theorem cross_eq_scale (hn : n.dot n = 1) (ha : n.dot a = 0) (hb : n.dot b = 0) :
    a.cross b = scale (n.dot (a.cross b)) n := by
  rw [dot_eq] at hn ha hb
  simp only [dot_eq, cross_eq, scale_eq, mk.injEq]
  refine ⟨?_, ?_, ?_⟩
  · linear_combination -(a.y * b.z - a.z * b.y) * hn - (n.y * a.z - n.z * a.y) * hb + (n.y * b.z - n.z * b.y) * ha
  · linear_combination -(a.z * b.x - a.x * b.z) * hn - (n.z * a.x - n.x * a.z) * hb + (n.z * b.x - n.x * b.z) * ha
  · linear_combination -(a.x * b.y - a.y * b.x) * hn - (n.x * a.y - n.y * a.x) * hb + (n.x * b.y - n.y * b.x) * ha

/-- A vector that has no cross product with another one is a multiple of it. -/
theorem eq_scale_of_cross_eq_zero (ha : a ≠ zero) (h : a.cross b = zero) : b = scale (a.dot b / a.dot a) a := by
  have haa := dot_self_ne_zero ha
  simp only [cross_eq, zero_eq, mk.injEq] at h
  obtain ⟨hx, hy, hz⟩ := h
  -- the part of `b` across `a` is the cross product of `a` with it, turned once more
  have hacross : scale (a.dot a) b = scale (a.dot b) a := by
    simp only [scale_eq, dot_eq, mk.injEq]
    refine ⟨?_, ?_, ?_⟩
    · linear_combination a.z * hy - a.y * hz
    · linear_combination a.x * hz - a.z * hx
    · linear_combination a.y * hx - a.x * hy
  calc b = scale ((a.dot a)⁻¹ * a.dot a) b := by rw [inv_mul_cancel₀ haa, one_scale]
    _ = scale (a.dot a)⁻¹ (scale (a.dot b) a) := by rw [← scale_scale, hacross]
    _ = scale (a.dot b / a.dot a) a := by rw [scale_scale, div_eq_inv_mul]

end Vec3

end EquatorialMount
