import EquatorialMount.Proofs.Horizontal.Frame
import EquatorialMount.Proofs.Sphere.Unit

/-!
# The polar error as a distance

The total error of an axis is read off its coordinates in the frame of the samples, the error in altitude and azimuth
off its display over the horizon.  Turning the frame keeps distances, so the total is the great-circle distance between
the displayed axis and the visible pole (`total_eq_separation`), and no error in altitude is larger than it.
-/

namespace EquatorialMount

open AddCommGroup Trig Vec3

/-- The cosine of the distance of two points of the sphere. -/
theorem AnglePair.direction_dot_direction (p q : AnglePair ℝ) :
    p.direction.dot q.direction = Real.sin (radians p.secondary) * Real.sin (radians q.secondary) +
      Real.cos (radians p.secondary) * Real.cos (radians q.secondary) *
        Real.cos (radians (p.primary - q.primary)) := by
  rw [radians_sub, Real.cos_sub, dot_eq, direction_eq, direction_eq]
  ring

namespace PolarError

/-! ### The visible pole -/

/-- Where the visible pole stands over the horizon. -/
noncomputable def visiblePole (latitude : ℝ) : HorizontalDirection ℝ :=
  ⟨|latitude|, if 0 ≤ latitude then Scalar.zero else Scalar.halfTurn⟩

variable {latitude : ℝ}

theorem hemisphere_of_nonneg (h : 0 ≤ latitude) : hemisphere latitude = 1 := by
  rw [hemisphere, Scalar.zero_eq, if_pos h, Scalar.one_eq]

theorem hemisphere_of_neg (h : latitude < 0) : hemisphere latitude = -1 := by
  rw [hemisphere, Scalar.zero_eq, if_neg (not_le.2 h), Scalar.one_eq]

/-- The visible pole over the horizon is the pole of the samples on the side of the site. -/
private theorem direction_visiblePole (latitude : ℝ) :
    (visiblePole latitude).direction = overHorizon latitude ⟨0, 0, hemisphere latitude⟩ := by
  rw [HorizontalDirection.direction, AnglePair.direction_eq, overHorizon, visiblePole]
  rcases le_or_gt 0 latitude with h | h
  · simp [hemisphere_of_nonneg h, h, abs_of_nonneg h]
  · simp [hemisphere_of_neg h, not_le.2 h, abs_of_neg h, radians_neg]

/-- The azimuth of the visible pole, as the error in azimuth is taken from it. -/
theorem poleAzimuth_eq (latitude : ℝ) :
    (if Scalar.zero < hemisphere latitude then Scalar.zero else Scalar.halfTurn : ℝ) =
      (visiblePole latitude).azimuth := by
  rw [visiblePole]
  rcases le_or_gt 0 latitude with h | h
  · simp [hemisphere_of_nonneg h, h]
  · simp [hemisphere_of_neg h, not_le.2 h, not_lt.2 (by norm_num : (-1 : ℝ) ≤ 0)]

/-! ### The compared end of the axis -/

variable {axis : Vec3 ℝ}

private theorem visibleEnd_cases (axis : Vec3 ℝ) (latitude : ℝ) :
    (axis.z * hemisphere latitude < 0 ∧ visibleEnd axis latitude = axis.neg) ∨
      (0 ≤ axis.z * hemisphere latitude ∧ visibleEnd axis latitude = axis) := by
  rw [visibleEnd, Scalar.zero_eq]
  split
  · rename_i h
    exact .inl ⟨h, rfl⟩
  · rename_i h
    exact .inr ⟨not_lt.1 h, rfl⟩

theorem dot_self_visibleEnd (haxis : axis.dot axis = 1) :
    (visibleEnd axis latitude).dot (visibleEnd axis latitude) = 1 := by
  obtain ⟨-, h⟩ | ⟨-, h⟩ := visibleEnd_cases axis latitude <;> rw [h, ← haxis]
  simp [dot_eq, neg_eq]

/-- The compared end lies on the side of the site. -/
private theorem visibleEnd_dot_pole (axis : Vec3 ℝ) (latitude : ℝ) :
    (visibleEnd axis latitude).dot ⟨0, 0, hemisphere latitude⟩ = |(visibleEnd axis latitude).z| := by
  have hsign : |hemisphere latitude| = 1 := by
    rcases le_or_gt 0 latitude with h | h
    · rw [hemisphere_of_nonneg h, abs_one]
    · rw [hemisphere_of_neg h, abs_neg, abs_one]
  have habs (t : ℝ) : |t| = |t * hemisphere latitude| := by rw [abs_mul, hsign, mul_one]
  simp only [dot_eq, mul_zero, zero_add]
  obtain ⟨hneg, h⟩ | ⟨hpos, h⟩ := visibleEnd_cases axis latitude
  · rw [h, neg_eq, habs, neg_mul, abs_neg, abs_of_neg hneg]
  · rw [h, habs, abs_of_nonneg hpos]

/-! ### The errors -/

section Errors

variable (haxis : axis.dot axis = 1)

include haxis in
private theorem cos_total :
    Real.cos (radians (ofAxis axis latitude).errors.total) = |(visibleEnd axis latitude).z| := by
  have hunit : (visibleEnd axis latitude).dot (visibleEnd axis latitude) = 1 := dot_self_visibleEnd haxis
  have hnorm : |(visibleEnd axis latitude).z| ^ 2 + √((visibleEnd axis latitude).x ^ 2 +
      (visibleEnd axis latitude).y ^ 2) ^ 2 = 1 := by
    rw [sq_abs, Real.sq_sqrt (by positivity), ← one_sub_z_sq hunit]
    ring
  have h := hypot_mul_cos_atan2 |(visibleEnd axis latitude).z|
    √((visibleEnd axis latitude).x ^ 2 + (visibleEnd axis latitude).y ^ 2)
  rw [hnorm, Real.sqrt_one, one_mul] at h
  simpa [ofAxis] using h

/-- The total lies in the first quadrant: its sine and its cosine are lengths. -/
private theorem total_mem (axis : Vec3 ℝ) (latitude : ℝ) : (ofAxis axis latitude).errors.total ∈ Set.Icc 0 90 := by
  have hpos : 0 ≤ radians (ofAxis axis latitude).errors.total := by
    simp [ofAxis, Complex.arg_nonneg_iff]
  have hle : radians (ofAxis axis latitude).errors.total ≤ Real.pi / 2 := by
    simp [ofAxis, Complex.arg_le_pi_div_two_iff]
  constructor
  · rwa [← radians_zero, radians_le_radians] at hpos
  · rwa [← radians_ninety, radians_le_radians] at hle

private theorem cos_azimuth (axis : Vec3 ℝ) (latitude : ℝ) : Real.cos (radians (ofAxis axis latitude).errors.azimuth) =
    Real.cos (radians ((ofAxis axis latitude).axis.azimuth - (visiblePole latitude).azimuth)) := by
  rw [← poleAzimuth_eq]
  exact cos_radians_of_modEq (Angle.signed_modEq _)

theorem altitude_eq (axis : Vec3 ℝ) (latitude : ℝ) :
    (ofAxis axis latitude).errors.altitude = (ofAxis axis latitude).axis.altitude - |latitude| := by
  rw [← Scalar.abs_eq]
  rfl

include haxis in
private theorem cos_total_eq_dot : Real.cos (radians (ofAxis axis latitude).errors.total) =
    (ofAxis axis latitude).axis.direction.dot (visiblePole latitude).direction := by
  have hdirection : (ofAxis axis latitude).axis.direction = overHorizon latitude (visibleEnd axis latitude) :=
    HorizontalDirection.direction_ofAxis (dot_self_visibleEnd haxis) latitude
  rw [cos_total haxis, hdirection, direction_visiblePole, dot_overHorizon, visibleEnd_dot_pole]

include haxis in
private theorem cos_total_eq : Real.cos (radians (ofAxis axis latitude).errors.total) =
    Real.sin (radians (ofAxis axis latitude).axis.altitude) * Real.sin (radians |latitude|) +
      Real.cos (radians (ofAxis axis latitude).axis.altitude) * Real.cos (radians latitude) *
        Real.cos (radians (ofAxis axis latitude).errors.azimuth) := by
  rw [cos_total_eq_dot haxis, HorizontalDirection.direction, HorizontalDirection.direction,
    AnglePair.direction_dot_direction, cos_azimuth, ← cos_radians_abs latitude]
  rfl

include haxis in
/-- Going along the meridian of the pole is the shortest way to its parallel. -/
private theorem abs_altitude_le_total (hrange : |latitude| ≤ 90) :
    |(ofAxis axis latitude).errors.altitude| ≤ (ofAxis axis latitude).errors.total := by
  have halt : (ofAxis axis latitude).axis.altitude ∈ Set.Icc (-90) 90 :=
    HorizontalDirection.altitude_mem (dot_self_visibleEnd haxis) latitude
  have hcosAlt := cos_radians_nonneg (abs_le.2 halt)
  have hcosLat := cos_radians_nonneg hrange
  have hcos : Real.cos (radians (ofAxis axis latitude).errors.total) ≤
      Real.cos (radians |(ofAxis axis latitude).errors.altitude|) := by
    rw [cos_total_eq haxis, cos_radians_abs, altitude_eq, radians_sub, Real.cos_sub, cos_radians_abs]
    nlinarith [mul_nonneg hcosAlt hcosLat, Real.cos_le_one (radians (ofAxis axis latitude).errors.azimuth)]
  by_contra hlt
  refine hcos.not_gt (Real.cos_lt_cos_of_nonneg_of_le_pi ?_ ?_ ?_)
  · rw [← radians_zero]
    exact radians_le_radians.2 (total_mem axis latitude).1
  · rw [← radians_halfTurn]
    refine radians_le_radians.2 (abs_le.2 ⟨?_, ?_⟩) <;> rw [altitude_eq]
    · linarith [halt.1]
    · linarith [halt.2, abs_nonneg latitude]
  · exact lt_of_not_ge fun h => hlt (radians_le_radians.1 h)

end Errors

/-! ### The checked error -/

end PolarError

theorem Latitude.checked_eq {site : Latitude ℝ} {latitude : ℝ} (hsite : site.inDegrees = .ok latitude)
    (hrange : |latitude| ≤ 90) : site.checked = .ok latitude := by
  have h90 : |latitude| ≤ Scalar.ofNat 90 := by
    rw [Scalar.ofNat_eq]
    exact_mod_cast hrange
  rw [Latitude.checked, hsite]
  simp [bind, Except.bind, h90]

theorem Vec3.checkDetermined_eq {v : Vec3 ℝ} (h : v.dot v ≠ 0) : v.checkDetermined = .ok v := by
  have hfinite : v.checkFinite "v" = .ok v := rfl
  simp only [Vec3.checkDetermined, hfinite, isUndetermined_of_ne h, bind, Except.bind]
  rfl

namespace PolarError

variable {latitude : ℝ} {axis : Vec3 ℝ}

theorem ofAxis?_eq (haxis : axis.dot axis = 1) {site : Latitude ℝ} (hsite : site.inDegrees = .ok latitude)
    (hrange : |latitude| ≤ 90) : ofAxis? axis site = .ok (ofAxis axis latitude) := by
  have hchecked := Latitude.checked_eq hsite hrange
  have hdetermined := checkDetermined_eq (haxis.trans_ne one_ne_zero)
  simp only [ofAxis?, hchecked, hdetermined, bind, Except.bind]
  rfl

/-- The two ways to measure the polar error agree.  At every latitude a unit axis has one, and its total, taken in the
frame of the samples, is the great-circle distance between the displayed axis and the visible pole, which stands at
altitude `|latitude|` in the north or, at a southern site, in the south.  So the total is at most a right angle, and the
error in altitude is within it. -/
theorem total_eq_separation {site : Latitude ℝ} (haxis : axis.dot axis = 1) (hsite : site.inDegrees = .ok latitude)
    (hrange : |latitude| ≤ 90) :
    ∃ e, ofAxis? axis site = .ok e ∧
      Real.cos (radians e.errors.total) =
        Real.sin (radians e.axis.altitude) * Real.sin (radians |latitude|) +
          Real.cos (radians e.axis.altitude) * Real.cos (radians latitude) * Real.cos (radians e.errors.azimuth) ∧
      Real.cos (radians e.errors.total) = e.axis.direction.dot (visiblePole latitude).direction ∧
      e.errors.total ∈ Set.Icc 0 90 ∧ |e.errors.altitude| ≤ e.errors.total :=
  ⟨_, ofAxis?_eq haxis hsite hrange, cos_total_eq haxis, cos_total_eq_dot haxis, total_mem axis latitude,
    abs_altitude_le_total haxis hrange⟩

/-- An axis that points north of the equator, seen from 30 degrees south: its other end is compared. -/
theorem total_eq_separation_south : ∃ e, ofAxis? ⟨0, 3 / 5, 4 / 5⟩ (.degrees (-30)) = .ok e ∧
    Real.cos (radians e.errors.total) = Real.sin (radians e.axis.altitude) * Real.sin (radians |-30|) +
      Real.cos (radians e.axis.altitude) * Real.cos (radians (-30)) * Real.cos (radians e.errors.azimuth) ∧
    |e.errors.altitude| ≤ e.errors.total := by
  have hunit : dot (⟨0, 3 / 5, 4 / 5⟩ : Vec3 ℝ) ⟨0, 3 / 5, 4 / 5⟩ = 1 := by
    rw [dot_eq]
    norm_num
  have hsite : (Latitude.degrees (-30 : ℝ)).inDegrees = .ok (-30) := rfl
  obtain ⟨e, he, hcos, -, -, halt⟩ := total_eq_separation hunit hsite (by rw [abs_neg]; norm_num)
  exact ⟨e, he, hcos, halt⟩

end PolarError

end EquatorialMount
