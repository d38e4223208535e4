import Mathlib.Data.List.Permutation
import Mathlib.LinearAlgebra.UnitaryGroup
import EquatorialMount.Proofs.Rounded
import EquatorialMount.Proofs.Sphere.Unit

/-!
# Symmetries of the normal

The normal of three points belongs to the triangle with its sense of rotation, and to nothing else.  It does not matter
which point is the first (`planeNormal_rotate`), and the opposite order gives the opposite normal, in rounded arithmetic
too (`planeNormal_reverse`).  A similar triangle has the normal turned with it, and mirrored the other way round
(`planeNormal_similar`).
-/

namespace EquatorialMount

open Vec3
open Scalar (SignSymmetric)

/-! ### The order of the points -/

section Reversal

variable {α : Type} [Trig α] [SignSymmetric α]

namespace Vec3

private theorem neg_sub_eq (a b : Vec3 α) : (a.sub b).neg = b.sub a := by
  simp only [sub, neg, SignSymmetric.neg_sub]

private theorem neg_cross_neg (u w : Vec3 α) : w.neg.cross u.neg = (u.cross w).neg := by
  simp only [cross, neg, SignSymmetric.neg_mul_neg, SignSymmetric.neg_sub, SignSymmetric.mul_comm]

private theorem neg_zero_eq : (zero : Vec3 α).neg = zero := by
  simp only [zero, neg, SignSymmetric.neg_zero]

private theorem unit_neg (n : Vec3 α) : n.neg.unit = n.unit.neg := by
  have hdot : n.neg.dot n.neg = n.dot n := by
    simp only [dot, neg, SignSymmetric.neg_mul_neg]
  have hlength : n.neg.length = n.length := congrArg Trig.sqrt hdot
  unfold unit
  rw [hdot, hlength]
  split
  · exact neg_zero_eq.symm
  · simp only [divideBy, neg, SignSymmetric.neg_div]

end Vec3

private theorem spannedNormal_reverse (a b c : Vec3 α) : spannedNormal c b a = (spannedNormal a b c).neg := by
  rw [spannedNormal, spannedNormal, ← neg_cross_neg, neg_sub_eq, neg_sub_eq]

/-- Going through the points in the opposite order turns the normal round. -/
theorem planeNormal_reverse (a b c : Vec3 α) : planeNormal c b a = (planeNormal a b c).neg := by
  rw [planeNormal_eq_unit, spannedNormal_reverse, unit_neg, planeNormal_eq_unit]

private theorem planeNormal_reverse_eq_zero_iff {a b c : Vec3 α} :
    planeNormal c b a = zero ↔ planeNormal a b c = zero := by
  have hzero {a b c : Vec3 α} (h : planeNormal a b c = zero) : planeNormal c b a = zero := by
    rw [planeNormal_reverse, h, neg_zero_eq]
  exact ⟨hzero, hzero⟩

end Reversal

section Order

variable (a b c : Vec3 ℝ)

/-- Any of the points can be the first. -/
theorem planeNormal_rotate : planeNormal b c a = planeNormal a b c := by
  have hspanned : spannedNormal b c a = spannedNormal a b c := by
    simp only [spannedNormal, sub_eq, cross_eq, mk.injEq]
    refine ⟨?_, ?_, ?_⟩ <;> ring
  rw [planeNormal_eq_unit, planeNormal_eq_unit, hspanned]

private theorem planeNormal_swap_left : planeNormal b a c = (planeNormal a b c).neg := by
  rw [planeNormal_rotate, planeNormal_reverse]

private theorem planeNormal_swap_right : planeNormal a c b = (planeNormal a b c).neg := by
  rw [← planeNormal_rotate, planeNormal_reverse]

/-- In any order the points have the same normal, up to its sense. -/
theorem planeNormal_perm {a b c a' b' c' : Vec3 ℝ} (h : [a', b', c'].Perm [a, b, c]) :
    planeNormal a' b' c' = planeNormal a b c ∨ planeNormal a' b' c' = (planeNormal a b c).neg := by
  have hmem := List.mem_permutations'.2 h
  simp only [List.permutations', List.permutations'Aux, List.flatMap_cons, List.flatMap_nil, List.map_cons,
    List.map_nil, List.append_nil, List.cons_append, List.nil_append, List.mem_cons, List.cons.injEq, and_true,
    List.not_mem_nil, or_false] at hmem
  -- an order that goes round keeps the sense, an exchange of two points turns it
  obtain ⟨rfl, rfl, rfl⟩ | ⟨rfl, rfl, rfl⟩ | ⟨rfl, rfl, rfl⟩ | ⟨rfl, rfl, rfl⟩ | ⟨rfl, rfl, rfl⟩ | ⟨rfl, rfl, rfl⟩ :=
    hmem
  · exact .inl rfl
  · exact .inr (planeNormal_swap_left _ _ _)
  · exact .inl (planeNormal_rotate _ _ _)
  · exact .inr (planeNormal_swap_right _ _ _)
  · exact .inl (planeNormal_rotate _ _ _).symm
  · exact .inr (planeNormal_reverse _ _ _)

private theorem planeNormal_perm_eq_zero_iff {a b c a' b' c' : Vec3 ℝ} (h : [a', b', c'].Perm [a, b, c]) :
    planeNormal a' b' c' = zero ↔ planeNormal a b c = zero := by
  obtain h | h := planeNormal_perm h
  · rw [h]
  · rw [h, neg_eq_scale, scale_eq_zero_iff (by norm_num)]

end Order

/-! ### Similar triangles -/

namespace Vec3

open Matrix

/-- The image of a vector under a matrix. -/
noncomputable def transform (m : Matrix (Fin 3) (Fin 3) ℝ) (v : Vec3 ℝ) : Vec3 ℝ :=
  let w := m *ᵥ v.coordinates
  ⟨w 0, w 1, w 2⟩

/-- The image of a point under a matrix, a stretch and a translation. -/
noncomputable def similar (m : Matrix (Fin 3) (Fin 3) ℝ) (s : ℝ) (t v : Vec3 ℝ) : Vec3 ℝ :=
  let w := scale s (transform m v)
  ⟨w.x + t.x, w.y + t.y, w.z + t.z⟩

variable {m : Matrix (Fin 3) (Fin 3) ℝ} {s : ℝ} {t : Vec3 ℝ} (k : ℝ) (u v w : Vec3 ℝ)

theorem transform_eq : transform m v =
    ⟨m 0 0 * v.x + m 0 1 * v.y + m 0 2 * v.z, m 1 0 * v.x + m 1 1 * v.y + m 1 2 * v.z,
      m 2 0 * v.x + m 2 1 * v.y + m 2 2 * v.z⟩ := by
  simp [transform, coordinates, mulVec, dotProduct, Fin.sum_univ_three]

private theorem coordinates_transform : (transform m v).coordinates = m *ᵥ v.coordinates := by
  ext i
  fin_cases i <;> rfl

private theorem dot_eq_dotProduct : u.dot w = u.coordinates ⬝ᵥ w.coordinates := by
  simp [dot_eq, coordinates, dotProduct, Fin.sum_univ_three]

private theorem transform_scale : transform m (scale k v) = scale k (transform m v) := by
  simp only [transform_eq, scale_eq, mk.injEq]
  refine ⟨?_, ?_, ?_⟩ <;> ring

private theorem smul_transform : transform (k • m) v = scale k (transform m v) := by
  simp only [transform_eq, scale_eq, Matrix.smul_apply, smul_eq_mul, mk.injEq]
  refine ⟨?_, ?_, ?_⟩ <;> ring

private theorem similar_sub_similar : (similar m s t u).sub (similar m s t v) = scale s (transform m (u.sub v)) := by
  simp only [similar, transform_eq, scale_eq, sub_eq, mk.injEq]
  refine ⟨?_, ?_, ?_⟩ <;> ring

private theorem scale_cross_scale : (scale k u).cross (scale k w) = scale (k ^ 2) (u.cross w) := by
  simp only [cross_eq, scale_eq, mk.injEq]
  refine ⟨?_, ?_, ?_⟩ <;> ring

/-- The cross product of two images is the image of the cross product under the cofactors. -/
private theorem transform_cross_transform :
    (transform m u).cross (transform m w) = transform m.adjugateᵀ (u.cross w) := by
  simp only [transform_eq, cross_eq, transpose_apply, adjugate_fin_three, of_apply, cons_val', cons_val_zero,
    cons_val_fin_one, cons_val_one, cons_val, mk.injEq]
  refine ⟨?_, ?_, ?_⟩ <;> ring

section Orthogonal

variable (hm : m ∈ orthogonalGroup (Fin 3) ℝ)

include hm

/-- The cofactors of an orthogonal matrix are its entries, up to the sign of the determinant. -/
private theorem transpose_adjugate : m.adjugateᵀ = m.det • m := by
  have hinv : m * mᵀ = 1 := (mem_orthogonalGroup_iff _ _).1 hm
  have hadjugate : m.adjugate = m.det • mᵀ := by
    calc m.adjugate = m.adjugate * m * mᵀ := by rw [mul_assoc, hinv, mul_one]
      _ = m.det • mᵀ := by rw [adjugate_mul, smul_mul_assoc, one_mul]
  rw [hadjugate, transpose_smul, transpose_transpose]

private theorem abs_det : |m.det| = 1 := by
  have hinv : m * mᵀ = 1 := (mem_orthogonalGroup_iff _ _).1 hm
  have hdet : m.det * m.det = 1 := by
    calc m.det * m.det = (m * mᵀ).det := by rw [det_mul, det_transpose]
      _ = 1 := by rw [hinv, det_one]
  exact (abs_eq one_pos.le).2 (mul_self_eq_one_iff.1 hdet)

private theorem length_transform : (transform m v).length = v.length := by
  have hinv : mᵀ * m = 1 := (mem_orthogonalGroup_iff' _ _).1 hm
  have hdot : (transform m v).dot (transform m v) = v.dot v := by
    rw [dot_eq_dotProduct, coordinates_transform, dotProduct_mulVec, ← mulVec_transpose, mulVec_mulVec, hinv,
      one_mulVec, dot_eq_dotProduct]
  rw [length_eq, length_eq, hdot]

private theorem transform_eq_zero_iff {v : Vec3 ℝ} : transform m v = zero ↔ v = zero := by
  rw [← length_eq_zero_iff, length_transform v hm, length_eq_zero_iff]

end Orthogonal

end Vec3

section Similar

open Matrix (orthogonalGroup)

variable {m : Matrix (Fin 3) (Fin 3) ℝ} {s : ℝ} (t a b c : Vec3 ℝ)

private theorem spannedNormal_similar (hm : m ∈ orthogonalGroup (Fin 3) ℝ) :
    spannedNormal (similar m s t a) (similar m s t b) (similar m s t c) =
      scale (s ^ 2 * m.det) (transform m (spannedNormal a b c)) := by
  rw [spannedNormal, similar_sub_similar, similar_sub_similar, scale_cross_scale, transform_cross_transform,
    transpose_adjugate hm, smul_transform, scale_scale, spannedNormal]

/-- A similar triangle has its normal turned with it, and the opposite one if it is a mirror image. -/
theorem planeNormal_similar (hm : m ∈ orthogonalGroup (Fin 3) ℝ) (hs : 0 < s) :
    planeNormal (similar m s t a) (similar m s t b) (similar m s t c) =
      scale m.det (transform m (planeNormal a b c)) := by
  have hscale (k : ℝ) (v : Vec3 ℝ) :
      scale (s ^ 2 * m.det) (transform m (scale k v)) = scale k (scale (s ^ 2 * m.det) (transform m v)) := by
    rw [transform_scale, scale_scale, scale_scale, mul_comm]
  have hlength (v : Vec3 ℝ) : (scale (s ^ 2 * m.det) (transform m v)).length = s ^ 2 * v.length := by
    rw [length_scale, length_transform v hm, abs_mul, abs_det hm, mul_one, abs_of_nonneg (sq_nonneg s)]
  have hs2 : 0 < s ^ 2 := by positivity
  rw [planeNormal_eq_unit, spannedNormal_similar t a b c hm, unit_map hs2 hscale hlength, scale_scale, ← mul_assoc,
    inv_mul_cancel₀ hs2.ne', one_mul, planeNormal_eq_unit]

/-- A similar triangle is on a line if and only if the triangle is. -/
private theorem planeNormal_similar_eq_zero_iff (hm : m ∈ orthogonalGroup (Fin 3) ℝ) (hs : 0 < s) :
    planeNormal (similar m s t a) (similar m s t b) (similar m s t c) = zero ↔ planeNormal a b c = zero := by
  have hdet : m.det ≠ 0 := abs_ne_zero.1 (by rw [abs_det hm]; exact one_ne_zero)
  have hk : s ^ 2 * m.det ≠ 0 := mul_ne_zero (by positivity) hdet
  rw [planeNormal_eq_zero_iff, planeNormal_eq_zero_iff, spannedNormal_similar t a b c hm, scale_eq_zero_iff hk,
    transform_eq_zero_iff hm]

end Similar

/-! ### All symmetries -/

/-- The normal goes with the triangle.  It is the same from whichever point one starts, and the opposite after an
exchange of two points; a similar triangle has its normal turned with it, and the opposite one if it is a mirror image;
and none of this makes a normal vanish or appear.  The law for the opposite order holds in rounded arithmetic as well,
if only the rounding treats both signs alike. -/
theorem planeNormal_symmetries :
    (∀ a b c : Vec3 ℝ,
        (planeNormal b c a = planeNormal a b c ∧ planeNormal c a b = planeNormal a b c) ∧
        (planeNormal b a c = (planeNormal a b c).neg ∧ planeNormal a c b = (planeNormal a b c).neg ∧
          planeNormal c b a = (planeNormal a b c).neg) ∧
        (∀ a' b' c', [a', b', c'].Perm [a, b, c] → (planeNormal a' b' c' = zero ↔ planeNormal a b c = zero)) ∧
        ∀ (m : Matrix (Fin 3) (Fin 3) ℝ) (s : ℝ) (t : Vec3 ℝ), 0 < s →
          (m ∈ Matrix.specialOrthogonalGroup (Fin 3) ℝ →
            planeNormal (similar m s t a) (similar m s t b) (similar m s t c) = transform m (planeNormal a b c)) ∧
          (m ∈ Matrix.orthogonalGroup (Fin 3) ℝ → m.det = -1 →
            planeNormal (similar m s t a) (similar m s t b) (similar m s t c) =
              (transform m (planeNormal a b c)).neg) ∧
          (m ∈ Matrix.orthogonalGroup (Fin 3) ℝ →
            (planeNormal (similar m s t a) (similar m s t b) (similar m s t c) = zero ↔ planeNormal a b c = zero))) ∧
      ∀ rnd : ℝ → ℝ, (∀ x, rnd (-x) = -rnd x) → ∀ a b c : Vec3 (Rounded rnd),
        planeNormal c b a = (planeNormal a b c).neg ∧ (planeNormal c b a = zero ↔ planeNormal a b c = zero) := by
  refine ⟨fun a b c => ⟨⟨planeNormal_rotate a b c, (planeNormal_rotate c a b).symm⟩,
    ⟨planeNormal_swap_left a b c, planeNormal_swap_right a b c, planeNormal_reverse a b c⟩,
    fun _ _ _ => planeNormal_perm_eq_zero_iff, fun m s t hs => ⟨fun hm => ?_, fun hm hdet => ?_, fun hm => ?_⟩⟩,
    fun rnd hrnd a b c => ?_⟩
  · obtain ⟨horthogonal, hdet⟩ := Matrix.mem_specialOrthogonalGroup_iff.1 hm
    rw [planeNormal_similar t a b c horthogonal hs, hdet, one_scale]
  · rw [planeNormal_similar t a b c hm hs, hdet, neg_eq_scale]
  · exact planeNormal_similar_eq_zero_iff t a b c hm hs
  · have hsymmetric : SignSymmetric (Rounded rnd) := Rounded.signSymmetric hrnd
    exact ⟨planeNormal_reverse a b c, planeNormal_reverse_eq_zero_iff⟩

/-- The rotation that turns each axis of the frame into the next. -/
noncomputable def nextAxis : Matrix (Fin 3) (Fin 3) ℝ := !![0, 0, 1; 1, 0, 0; 0, 1, 0]

/-- The mirror image with up and down exchanged. -/
noncomputable def upsideDown : Matrix (Fin 3) (Fin 3) ℝ := !![-1, 0, 0; 0, 1, 0; 0, 0, 1]

private theorem nextAxis_mem : nextAxis ∈ Matrix.specialOrthogonalGroup (Fin 3) ℝ := by
  rw [Matrix.mem_specialOrthogonalGroup_iff, Matrix.mem_orthogonalGroup_iff]
  constructor
  · ext i j
    fin_cases i <;> fin_cases j <;> simp [nextAxis, Matrix.mul_apply, Fin.sum_univ_three]
  · simp [nextAxis, Matrix.det_fin_three]

private theorem upsideDown_mem : upsideDown ∈ Matrix.orthogonalGroup (Fin 3) ℝ := by
  rw [Matrix.mem_orthogonalGroup_iff]
  ext i j
  fin_cases i <;> fin_cases j <;> simp [upsideDown, Matrix.mul_apply, Fin.sum_univ_three]

private theorem det_upsideDown : upsideDown.det = -1 := by
  simp [upsideDown, Matrix.det_fin_three]

private theorem planeNormal_rightAngle : planeNormal ⟨0, 0, 0⟩ ⟨1, 0, 0⟩ ⟨0, 1, 0⟩ = (⟨0, 0, 1⟩ : Vec3 ℝ) := by
  have hspanned : spannedNormal ⟨0, 0, 0⟩ ⟨1, 0, 0⟩ ⟨0, 1, 0⟩ = (⟨0, 0, 1⟩ : Vec3 ℝ) := by
    simp [spannedNormal, sub_eq, cross_eq]
  rw [planeNormal_eq_unit, hspanned]
  simp [unit, dot_eq, divideBy_eq, length_eq]

/-- A right angle in the plane of the equator: turned, stretched and moved away; mirrored; gone through from another
point; and in whole numbers. -/
theorem planeNormal_symmetries_rightAngle :
    planeNormal (similar nextAxis 2 ⟨5, 5, 5⟩ ⟨0, 0, 0⟩) (similar nextAxis 2 ⟨5, 5, 5⟩ ⟨1, 0, 0⟩)
        (similar nextAxis 2 ⟨5, 5, 5⟩ ⟨0, 1, 0⟩) = ⟨1, 0, 0⟩ ∧
      planeNormal (similar upsideDown 2 ⟨5, 5, 5⟩ ⟨0, 0, 0⟩) (similar upsideDown 2 ⟨5, 5, 5⟩ ⟨1, 0, 0⟩)
        (similar upsideDown 2 ⟨5, 5, 5⟩ ⟨0, 1, 0⟩) = ⟨0, 0, -1⟩ ∧
      planeNormal (⟨1, 0, 0⟩ : Vec3 ℝ) ⟨0, 1, 0⟩ ⟨0, 0, 0⟩ ≠ zero ∧
      planeNormal (⟨⟨0⟩, ⟨1⟩, ⟨0⟩⟩ : Vec3 (Rounded towardZero)) ⟨⟨1⟩, ⟨0⟩, ⟨0⟩⟩ ⟨⟨0⟩, ⟨0⟩, ⟨0⟩⟩ =
        (planeNormal ⟨⟨0⟩, ⟨0⟩, ⟨0⟩⟩ ⟨⟨1⟩, ⟨0⟩, ⟨0⟩⟩ ⟨⟨0⟩, ⟨1⟩, ⟨0⟩⟩).neg := by
  obtain ⟨-, -, hperm, hsimilar⟩ := planeNormal_symmetries.1 ⟨0, 0, 0⟩ ⟨1, 0, 0⟩ ⟨0, 1, 0⟩
  refine ⟨?_, ?_, ?_, (planeNormal_symmetries.2 towardZero towardZero_neg _ _ _).1⟩
  · rw [(hsimilar _ 2 ⟨5, 5, 5⟩ two_pos).1 nextAxis_mem, planeNormal_rightAngle]
    simp [transform_eq, nextAxis]
  · rw [(hsimilar _ 2 ⟨5, 5, 5⟩ two_pos).2.1 upsideDown_mem det_upsideDown, planeNormal_rightAngle]
    simp [transform_eq, neg_eq, upsideDown]
  · have hround : [⟨1, 0, 0⟩, ⟨0, 1, 0⟩, ⟨0, 0, 0⟩].Perm [(⟨0, 0, 0⟩ : Vec3 ℝ), ⟨1, 0, 0⟩, ⟨0, 1, 0⟩] :=
      List.rotate_perm [(⟨0, 0, 0⟩ : Vec3 ℝ), ⟨1, 0, 0⟩, ⟨0, 1, 0⟩] 1
    rw [Ne, hperm _ _ _ hround, planeNormal_rightAngle, zero_eq]
    simp

end EquatorialMount
