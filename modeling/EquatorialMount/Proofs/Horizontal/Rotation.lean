import EquatorialMount.Proofs.Horizontal.PolarError
import EquatorialMount.Proofs.Sphere.Symmetry

/-!
# The horizon as a turned frame

Going from the frame of the samples to the horizon is one rotation (`overHorizon_eq_transform`), although the program
goes through an hour angle and a declination on the way.  So an axis of length one is shown by the altitude and the
azimuth of the rotated vector, with nothing to cut off before the arcsine is taken, and two axes are as far apart over
the horizon as they are in the frame of the samples (`rotation_of_axes`).
-/

namespace EquatorialMount

open Trig Vec3

/-! ### The rotation -/

/-- The rotation from the frame of the samples to north, east and up at a latitude. -/
noncomputable def horizonRotation (latitude : ℝ) : Matrix (Fin 3) (Fin 3) ℝ :=
  !![-Real.sin (radians latitude), 0, Real.cos (radians latitude); 0, -1, 0;
    Real.cos (radians latitude), 0, Real.sin (radians latitude)]

theorem overHorizon_eq_transform (latitude : ℝ) (v : Vec3 ℝ) :
    overHorizon latitude v = transform (horizonRotation latitude) v := by
  rw [transform_eq, overHorizon]
  simp [horizonRotation]
  constructor <;> ring

private theorem horizonRotation_mem (latitude : ℝ) :
    horizonRotation latitude ∈ Matrix.specialOrthogonalGroup (Fin 3) ℝ := by
  have h := Real.sin_sq_add_cos_sq (radians latitude)
  rw [Matrix.mem_specialOrthogonalGroup_iff, Matrix.mem_orthogonalGroup_iff]
  constructor
  · ext i j
    fin_cases i <;> fin_cases j <;> simp [horizonRotation, Matrix.mul_apply, Fin.sum_univ_three] <;> linarith
  · simp [horizonRotation, Matrix.det_fin_three]
    linarith

/-! ### Angular separation -/

/-- The angle between two unit vectors, in degrees. -/
noncomputable def Vec3.separation (v w : Vec3 ℝ) : ℝ := degrees (Real.arccos (v.dot w))

namespace HorizontalDirection

/-- The angle between two directions over the horizon, in degrees. -/
noncomputable def separation (h k : HorizontalDirection ℝ) : ℝ :=
  degrees (Real.arccos (Real.sin (radians h.altitude) * Real.sin (radians k.altitude) +
    Real.cos (radians h.altitude) * Real.cos (radians k.altitude) * Real.cos (radians (h.azimuth - k.azimuth))))

private theorem separation_eq (h k : HorizontalDirection ℝ) : h.separation k = h.direction.separation k.direction := by
  rw [Vec3.separation, direction, direction, AnglePair.direction_dot_direction]
  rfl

/-! ### The displayed direction -/

/-- The sine of the altitude of a position, as it is computed. -/
def sinAltitude {α : Type} [Trig α] (p : AnglePair α) (latitude : α) : α :=
  let (h, dec) := p.toRadians
  Trig.sin dec * Trig.sin (radians latitude) + Trig.cos dec * Trig.cos (radians latitude) * Trig.cos h

private theorem sinAltitude_eq (p : AnglePair ℝ) (latitude : ℝ) :
    sinAltitude p latitude = (overHorizon latitude p.direction).z := by
  simp only [sinAltitude, AnglePair.toRadians, AnglePair.direction_eq, overHorizon, sin_eq, cos_eq]
  ring

/-- The sine of an altitude is in the range of a sine already. -/
private theorem clamp_sinAltitude (p : AnglePair ℝ) (latitude : ℝ) :
    Scalar.clamp (-Scalar.one) Scalar.one (sinAltitude p latitude) = sinAltitude p latitude := by
  have hunit : (overHorizon latitude p.direction).dot (overHorizon latitude p.direction) = 1 := by
    rw [dot_overHorizon, AnglePair.dot_self_direction]
  rw [sinAltitude_eq, Scalar.one_eq]
  exact Scalar.clamp_of_mem (z_mem_of_unit hunit)

private theorem azimuth_mem (v : Vec3 ℝ) (latitude : ℝ) : (ofAxis v latitude).azimuth ∈ Set.Ico 0 360 :=
  Angle.circular_mem _

variable {latitude : ℝ} {site : Latitude ℝ} {v w : Vec3 ℝ}

theorem ofAxis?_eq (hv : v.dot v = 1) (hsite : site.inDegrees = .ok latitude) (hrange : |latitude| ≤ 90) :
    ofAxis? v site = .ok (ofAxis v latitude) := by
  have hchecked := Latitude.checked_eq hsite hrange
  have hdetermined := checkDetermined_eq (hv.trans_ne one_ne_zero)
  simp only [ofAxis?, hdetermined, ofEquatorial?, hchecked, bind, Except.bind]
  rfl

private theorem separation_ofAxis (hv : v.dot v = 1) (hw : w.dot w = 1) (latitude : ℝ) :
    (ofAxis v latitude).separation (ofAxis w latitude) = v.separation w := by
  rw [separation_eq, direction_ofAxis hv, direction_ofAxis hw, Vec3.separation, dot_overHorizon]
  rfl

/-- The display of an axis is a rotation of the frame.  At every latitude a unit axis has an altitude within
`[-90, 90]` and an azimuth within `[0, 360)`, and they are those of its components upwards, to the north and to the
east; these are again a unit vector, so the sine of the altitude is not clipped.  One rotation takes every axis to its
display, and so two axes are displayed at the same angle to each other as they have. -/
theorem rotation_of_axes (hsite : site.inDegrees = .ok latitude) (hrange : |latitude| ≤ 90) :
    (∀ v : Vec3 ℝ, v.dot v = 1 → ∀ up north east,
      up = v.z * Real.sin (radians latitude) + v.x * Real.cos (radians latitude) →
      north = v.z * Real.cos (radians latitude) - v.x * Real.sin (radians latitude) → east = -v.y →
      north ^ 2 + east ^ 2 + up ^ 2 = 1 ∧
        sinAltitude (.ofDirection v) latitude = up ∧ Scalar.clamp (-Scalar.one) Scalar.one up = up ∧
        ∃ h, ofAxis? v site = .ok h ∧ Real.sin (radians h.altitude) = up ∧
          Real.cos (radians h.altitude) * Real.cos (radians h.azimuth) = north ∧
          Real.cos (radians h.altitude) * Real.sin (radians h.azimuth) = east ∧
          h.altitude ∈ Set.Icc (-90) 90 ∧ h.azimuth ∈ Set.Ico 0 360) ∧
    (∃ m ∈ Matrix.specialOrthogonalGroup (Fin 3) ℝ, ∀ v h, v.dot v = 1 → ofAxis? v site = .ok h →
      h.direction = transform m v) ∧
    ∀ v w h k, v.dot v = 1 → w.dot w = 1 → ofAxis? v site = .ok h → ofAxis? w site = .ok k →
      h.separation k = v.separation w := by
  refine ⟨?_, ?_, ?_⟩
  · rintro v hv up north east hup hnorth heast
    have hcomponents : overHorizon latitude v = ⟨north, east, up⟩ := by
      rw [hup, hnorth, heast]
      rfl
    have hunit : north ^ 2 + east ^ 2 + up ^ 2 = 1 := by
      have h := dot_overHorizon latitude v v
      rwa [hcomponents, hv, dot_self] at h
    have hsin : sinAltitude (.ofDirection v) latitude = up := by
      rw [sinAltitude_eq, AnglePair.direction_ofDirection hv, hcomponents]
    have hdirection : (ofAxis v latitude).direction = ⟨north, east, up⟩ :=
      (direction_ofAxis hv latitude).trans hcomponents
    rw [direction, AnglePair.direction_eq] at hdirection
    obtain ⟨hnorth', heast', hup'⟩ := Vec3.mk.inj hdirection
    refine ⟨hunit, hsin, ?_, ofAxis v latitude, ofAxis?_eq hv hsite hrange, hup', hnorth', heast', ?_, ?_⟩
    · rw [← hsin]
      exact clamp_sinAltitude _ latitude
    · exact altitude_mem hv latitude
    · exact azimuth_mem v latitude
  · refine ⟨horizonRotation latitude, horizonRotation_mem latitude, ?_⟩
    intro v h hv hh
    rw [ofAxis?_eq hv hsite hrange] at hh
    cases hh
    rw [direction_ofAxis hv, overHorizon_eq_transform]
  · intro v w h k hv hw hh hk
    rw [ofAxis?_eq hv hsite hrange] at hh
    rw [ofAxis?_eq hw hsite hrange] at hk
    cases hh
    cases hk
    exact separation_ofAxis hv hw latitude

/-- Two axes at a right angle, seen from 30 degrees south; one of them is below the horizon there. -/
theorem rotation_of_axes_south : ∃ h k,
    ofAxis? ⟨0, 3 / 5, 4 / 5⟩ (.degrees (-30)) = .ok h ∧ ofAxis? ⟨1, 0, 0⟩ (.degrees (-30)) = .ok k ∧
      Real.sin (radians h.altitude) = -2 / 5 ∧
      Real.cos (radians h.altitude) * Real.sin (radians h.azimuth) = -3 / 5 ∧ h.separation k = 90 := by
  have hsite : (Latitude.degrees (-30 : ℝ)).inDegrees = .ok (-30) := rfl
  have hv : dot (⟨0, 3 / 5, 4 / 5⟩ : Vec3 ℝ) ⟨0, 3 / 5, 4 / 5⟩ = 1 := by
    rw [dot_eq]
    norm_num
  have hw : dot (⟨1, 0, 0⟩ : Vec3 ℝ) ⟨1, 0, 0⟩ = 1 := by
    rw [dot_eq]
    norm_num
  have hsin : Real.sin (radians (-30)) = -1 / 2 := by
    have h30 : radians (-30) = -(Real.pi / 6) := by
      rw [radians_eq]
      ring
    rw [h30, Real.sin_neg, Real.sin_pi_div_six]
    norm_num
  have hright : (⟨0, 3 / 5, 4 / 5⟩ : Vec3 ℝ).separation ⟨1, 0, 0⟩ = 90 := by
    have hdot : dot (⟨0, 3 / 5, 4 / 5⟩ : Vec3 ℝ) ⟨1, 0, 0⟩ = 0 := by simp [dot_eq]
    rw [Vec3.separation, hdot, Real.arccos_zero, ← radians_ninety, degrees_radians]
  obtain ⟨hshown, -, hapart⟩ := rotation_of_axes hsite (by rw [abs_neg]; norm_num)
  obtain ⟨-, -, -, h, hh, hup, -, heast, -, -⟩ := hshown _ hv _ _ _ rfl rfl rfl
  obtain ⟨-, -, -, k, hk, -⟩ := hshown _ hw _ _ _ rfl rfl rfl
  refine ⟨h, k, hh, hk, ?_, ?_, ?_⟩
  · rw [hup, hsin]
    norm_num
  · rw [heast]
    norm_num
  · rw [hapart _ _ _ _ hv hw hh hk, hright]

end HorizontalDirection

end EquatorialMount
