import EquatorialMount.Horizontal
import EquatorialMount.Proofs.Sphere.AnglePair

/-!
# From the frame of the samples to the horizon

The horizon is the frame of the samples turned about the line from east to west: `overHorizon` gives a direction by its
components to the north, to the east and upwards.  Of a unit vector the displayed altitude and azimuth have just these
components (`direction_ofAxis`), since nothing is lost on the way through hour angle and declination.
-/

namespace EquatorialMount

open AddCommGroup Trig Vec3

namespace Vec3

/-- A vector by its components to the north, to the east and upwards at a latitude. -/
noncomputable def overHorizon (latitude : ℝ) (v : Vec3 ℝ) : Vec3 ℝ :=
  ⟨v.z * Real.cos (radians latitude) - v.x * Real.sin (radians latitude), -v.y,
    v.z * Real.sin (radians latitude) + v.x * Real.cos (radians latitude)⟩

theorem dot_overHorizon (latitude : ℝ) (a b : Vec3 ℝ) :
    (overHorizon latitude a).dot (overHorizon latitude b) = a.dot b := by
  have h := Real.sin_sq_add_cos_sq (radians latitude)
  simp only [dot_eq, overHorizon]
  linear_combination (a.x * b.x + a.z * b.z) * h

end Vec3

namespace HorizontalDirection

/-- The point of the sphere over the horizon, by its components to the north, to the east and upwards. -/
noncomputable def direction (h : HorizontalDirection ℝ) : Vec3 ℝ := (AnglePair.mk h.azimuth h.altitude).direction

private theorem ofEquatorial_eq (p : AnglePair ℝ) (latitude : ℝ) :
    ofEquatorial p latitude =
      ⟨degrees (Real.arcsin (Scalar.clamp (-1) 1 (overHorizon latitude p.direction).z)),
        Angle.circular (degrees (Complex.arg
          ⟨(overHorizon latitude p.direction).x, (overHorizon latitude p.direction).y⟩))⟩ := by
  simp only [ofEquatorial, AnglePair.toRadians, AnglePair.direction_eq, overHorizon, Scalar.one_eq, sin_eq, cos_eq,
    asin_eq, atan2_eq]
  congr 5 <;> ring

variable {v : Vec3 ℝ} (hv : v.dot v = 1) (latitude : ℝ)

include hv in
theorem ofAxis_eq : ofAxis v latitude =
    ⟨degrees (Real.arcsin (overHorizon latitude v).z),
      Angle.circular (degrees (Complex.arg ⟨(overHorizon latitude v).x, (overHorizon latitude v).y⟩))⟩ := by
  have hunit := (dot_overHorizon latitude v v).trans hv
  rw [ofAxis, ofEquatorial_eq, AnglePair.direction_ofDirection hv, Scalar.clamp_of_mem (z_mem_of_unit hunit)]

include hv in
/-- The displayed altitude and azimuth of a unit vector are those of its components over the horizon. -/
theorem direction_ofAxis : (ofAxis v latitude).direction = overHorizon latitude v := by
  have hunit := (dot_overHorizon latitude v v).trans hv
  have hpair := AnglePair.direction_of_unit hunit (p := ⟨degrees (Complex.arg ⟨(overHorizon latitude v).x,
    (overHorizon latitude v).y⟩), degrees (Real.arcsin (overHorizon latitude v).z)⟩) (radians_degrees _)
    (radians_degrees _)
  refine Eq.trans ?_ hpair
  rw [ofAxis_eq hv, direction, AnglePair.direction_eq, AnglePair.direction_eq,
    cos_radians_of_modEq (Angle.circular_modEq _), sin_radians_of_modEq (Angle.circular_modEq _)]

include hv in
theorem altitude_mem : (ofAxis v latitude).altitude ∈ Set.Icc (-90) 90 := by
  rw [ofAxis_eq hv]
  refine ⟨radians_le_radians.1 ?_, radians_le_radians.1 ?_⟩
  · rw [radians_degrees, radians_neg, radians_ninety]
    exact Real.neg_pi_div_two_le_arcsin _
  · rw [radians_degrees, radians_ninety]
    exact Real.arcsin_le_pi_div_two _

end HorizontalDirection

end EquatorialMount
