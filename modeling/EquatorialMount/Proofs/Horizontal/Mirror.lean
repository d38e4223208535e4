import EquatorialMount.Proofs.Horizontal.Rotation
import EquatorialMount.Proofs.Sphere.Ends

/-!
# Northern and southern sites

The mirror image of a site in the plane of the equator has the opposite latitude, and there the mirror image of an axis
is as high over the horizon as the axis is at the site, but north and south are exchanged (`overHorizon_mirrored`).  The
pole that is seen from there is the other one, so the polar error is the mirror image as well: of its azimuth the sign
changes, and nothing else (`mirror_of_site`).
-/

namespace EquatorialMount

open AddCommGroup Trig Vec3

namespace Vec3

/-- The mirror image in the plane of the equator. -/
def mirrored {α : Type} [Scalar α] (v : Vec3 α) : Vec3 α := ⟨v.x, v.y, -v.z⟩

variable {v : Vec3 ℝ}

private theorem dot_self_mirrored (v : Vec3 ℝ) : v.mirrored.dot v.mirrored = v.dot v := by
  simp only [mirrored, dot_eq, neg_mul_neg]

/-- Seen from the mirror image of a site, north and south are exchanged. -/
theorem overHorizon_mirrored (latitude : ℝ) (v : Vec3 ℝ) :
    overHorizon (-latitude) v.mirrored =
      ⟨-(overHorizon latitude v).x, (overHorizon latitude v).y, (overHorizon latitude v).z⟩ := by
  simp only [overHorizon, mirrored, radians_neg, Real.cos_neg, Real.sin_neg, mk.injEq]
  refine ⟨?_, trivial, ?_⟩ <;> ring

end Vec3

namespace HorizontalDirection

variable {v : Vec3 ℝ} {latitude : ℝ}

private theorem altitude_mirrored (hv : v.dot v = 1) (latitude : ℝ) :
    (ofAxis v.mirrored (-latitude)).altitude = (ofAxis v latitude).altitude := by
  rw [ofAxis_eq ((dot_self_mirrored v).trans hv), ofAxis_eq hv, overHorizon_mirrored]

/-- A direction has an azimuth exactly if it is neither the zenith nor the nadir. -/
private theorem abs_altitude_ne_iff (hv : v.dot v = 1) :
    |(ofAxis v latitude).altitude| ≠ 90 ↔ (overHorizon latitude v).HasHourAngle := by
  have hdirection := direction_ofAxis hv latitude
  have halt : (ofAxis v latitude).altitude = degrees (Real.arcsin (overHorizon latitude v).z) := by
    rw [ofAxis_eq hv]
  have hright : degrees (Real.pi / 2) = 90 := by
    rw [← radians_ninety, degrees_radians]
  constructor
  · intro h
    apply hasHourAngle_of_ne_pole ((dot_overHorizon latitude v v).trans hv)
    · intro hzenith
      rw [halt, hzenith, Real.arcsin_one, hright] at h
      exact h (abs_of_pos (by norm_num))
    · intro hnadir
      rw [halt, hnadir, Real.arcsin_neg_one, degrees_neg, hright, abs_neg] at h
      exact h (abs_of_pos (by norm_num))
  · rintro hhour habs
    have hcos : Real.cos (radians (ofAxis v latitude).altitude) = 0 := by
      rw [← cos_radians_abs, habs, radians_ninety, Real.cos_pi_div_two]
    rw [← hdirection, direction, AnglePair.direction_eq, hcos, HasHourAngle] at hhour
    simp at hhour

/-- An azimuth from the north is in the mirror image one from the south, the other way round. -/
private theorem azimuth_mirrored (hv : v.dot v = 1) (h : |(ofAxis v latitude).altitude| ≠ 90) :
    (ofAxis v.mirrored (-latitude)).azimuth ≡ 180 - (ofAxis v latitude).azimuth [PMOD 360] := by
  have hne : (starRingEnd ℂ) ⟨(overHorizon latitude v).x, (overHorizon latitude v).y⟩ ≠ 0 := by
    rw [Ne, map_eq_zero, Complex.ext_iff]
    exact not_and_or.2 ((abs_altitude_ne_iff hv).1 h)
  have hpoint : (⟨-(overHorizon latitude v).x, (overHorizon latitude v).y⟩ : ℂ) =
      -(starRingEnd ℂ) ⟨(overHorizon latitude v).x, (overHorizon latitude v).y⟩ := by
    apply Complex.ext <;> simp
  have hturn : degrees (Complex.arg ⟨-(overHorizon latitude v).x, (overHorizon latitude v).y⟩) ≡
      180 - degrees (Complex.arg ⟨(overHorizon latitude v).x, (overHorizon latitude v).y⟩) [PMOD 360] := by
    apply modEq_of_coe_eq
    rw [radians_sub, radians_halfTurn, radians_degrees, radians_degrees, hpoint, Complex.arg_neg_coe_angle hne,
      Complex.arg_conj_coe_angle, Real.Angle.coe_sub]
    exact neg_add_eq_sub _ _
  rw [ofAxis_eq ((dot_self_mirrored v).trans hv), ofAxis_eq hv, overHorizon_mirrored]
  calc Angle.circular (degrees (Complex.arg ⟨-(overHorizon latitude v).x, (overHorizon latitude v).y⟩))
      ≡ degrees (Complex.arg ⟨-(overHorizon latitude v).x, (overHorizon latitude v).y⟩) [PMOD 360] :=
        Angle.circular_modEq _
    _ ≡ 180 - degrees (Complex.arg ⟨(overHorizon latitude v).x, (overHorizon latitude v).y⟩) [PMOD 360] := hturn
    _ ≡ 180 - Angle.circular (degrees (Complex.arg ⟨(overHorizon latitude v).x, (overHorizon latitude v).y⟩))
        [PMOD 360] := (Angle.circular_modEq _).symm.sub_left 180

end HorizontalDirection

namespace PolarError

variable {latitude : ℝ} {axis : Vec3 ℝ}

/-! ### The mirror image of a site -/

private theorem hemisphere_neg (h : latitude ≠ 0) : hemisphere (-latitude) = -hemisphere latitude := by
  rcases lt_or_gt_of_ne h with hneg | hpos
  · rw [hemisphere_of_neg hneg, hemisphere_of_nonneg (by linarith)]
    norm_num
  · rw [hemisphere_of_nonneg hpos.le, hemisphere_of_neg (by linarith)]

/-- The ends that are compared are mirror images. -/
private theorem visibleEnd_mirrored (axis : Vec3 ℝ) (h : latitude ≠ 0) :
    visibleEnd axis.mirrored (-latitude) = (visibleEnd axis latitude).mirrored := by
  have hside : axis.mirrored.z * hemisphere (-latitude) = axis.z * hemisphere latitude := by
    rw [hemisphere_neg h]
    exact neg_mul_neg _ _
  unfold visibleEnd
  rw [hside]
  split <;> rfl

/-- The pole of one hemisphere stands due north and that of the other due south. -/
private theorem visiblePole_azimuth_neg (h : latitude ≠ 0) :
    (visiblePole (-latitude)).azimuth = 180 - (visiblePole latitude).azimuth := by
  unfold visiblePole
  rcases lt_or_gt_of_ne h with hneg | hpos
  · simp [hneg.le, not_le.2 hneg]
  · simp [hpos.le, not_le.2 hpos]

private theorem azimuth_eq (axis : Vec3 ℝ) (latitude : ℝ) : (ofAxis axis latitude).errors.azimuth =
    Angle.signed ((ofAxis axis latitude).axis.azimuth - (visiblePole latitude).azimuth) := by
  rw [← poleAzimuth_eq]
  rfl

/-! ### The mirrored error -/

private theorem axis_mirrored (axis : Vec3 ℝ) (h : latitude ≠ 0) : (ofAxis axis.mirrored (-latitude)).axis =
    HorizontalDirection.ofAxis (visibleEnd axis latitude).mirrored (-latitude) := by
  rw [← visibleEnd_mirrored axis h]
  rfl

private theorem altitude_axis_mirrored (haxis : axis.dot axis = 1) (h : latitude ≠ 0) :
    (ofAxis axis.mirrored (-latitude)).axis.altitude = (ofAxis axis latitude).axis.altitude := by
  rw [axis_mirrored axis h]
  exact HorizontalDirection.altitude_mirrored (dot_self_visibleEnd haxis) latitude

private theorem total_mirrored (axis : Vec3 ℝ) (h : latitude ≠ 0) :
    (ofAxis axis.mirrored (-latitude)).errors.total = (ofAxis axis latitude).errors.total := by
  show fromPoles (visibleEnd axis.mirrored (-latitude)) = fromPoles (visibleEnd axis latitude)
  rw [visibleEnd_mirrored axis h, fromPoles, fromPoles, mirrored, Scalar.abs_eq, Scalar.abs_eq, abs_neg]

private theorem azimuth_mirrored (haxis : axis.dot axis = 1) (h : latitude ≠ 0)
    (hup : |(ofAxis axis latitude).axis.altitude| ≠ 90) :
    (ofAxis axis.mirrored (-latitude)).errors.azimuth = Angle.signed (-(ofAxis axis latitude).errors.azimuth) := by
  have hazimuth : (ofAxis axis.mirrored (-latitude)).axis.azimuth ≡
      180 - (ofAxis axis latitude).axis.azimuth [PMOD 360] := by
    rw [axis_mirrored axis h]
    exact HorizontalDirection.azimuth_mirrored (dot_self_visibleEnd haxis) hup
  rw [azimuth_eq, azimuth_eq, visiblePole_azimuth_neg h, Angle.signed_inj]
  calc (ofAxis axis.mirrored (-latitude)).axis.azimuth - (180 - (visiblePole latitude).azimuth)
      ≡ 180 - (ofAxis axis latitude).axis.azimuth - (180 - (visiblePole latitude).azimuth) [PMOD 360] :=
        hazimuth.sub_right _
    _ = -((ofAxis axis latitude).axis.azimuth - (visiblePole latitude).azimuth) := by ring
    _ ≡ -Angle.signed ((ofAxis axis latitude).axis.azimuth - (visiblePole latitude).azimuth) [PMOD 360] :=
        (Angle.signed_modEq _).symm.neg

/-- Northern and southern sites are mirror images.  Off the equator a unit axis has a polar error, and so has its mirror
image at the opposite latitude, with the same error in altitude, the same total and the same altitude of the compared
end; and unless that end points to the zenith or the nadir, where it has no azimuth, the errors in azimuth are opposite
to each other. -/
theorem mirror_of_site {site opposite : Latitude ℝ} (haxis : axis.dot axis = 1) (h : latitude ≠ 0)
    (hrange : |latitude| ≤ 90) (hsite : site.inDegrees = .ok latitude)
    (hopposite : opposite.inDegrees = .ok (-latitude)) :
    ∃ e e', ofAxis? axis site = .ok e ∧ ofAxis? axis.mirrored opposite = .ok e' ∧
      e'.errors.altitude = e.errors.altitude ∧ e'.errors.total = e.errors.total ∧
      e'.axis.altitude = e.axis.altitude ∧
      (|e.axis.altitude| ≠ 90 → e'.errors.azimuth = Angle.signed (-e.errors.azimuth)) := by
  have hmirrored : axis.mirrored.dot axis.mirrored = 1 := (dot_self_mirrored axis).trans haxis
  have hrange' : |(-latitude)| ≤ 90 := by rwa [abs_neg]
  have haltitude := altitude_axis_mirrored haxis h
  refine ⟨ofAxis axis latitude, ofAxis axis.mirrored (-latitude), ofAxis?_eq haxis hsite hrange,
    ofAxis?_eq hmirrored hopposite hrange', ?_, total_mirrored axis h, haltitude, azimuth_mirrored haxis h⟩
  rw [altitude_eq, altitude_eq, haltitude, abs_neg]

/-- An axis that points to the far pole, so that its other end is compared, in the north and in the south. -/
theorem mirror_of_site_farEnd : ∃ e e',
    ofAxis? (⟨0, 3 / 5, -4 / 5⟩ : Vec3 ℝ) (.degrees 30) = .ok e ∧
      ofAxis? (⟨0, 3 / 5, 4 / 5⟩ : Vec3 ℝ) (.degrees (-30)) = .ok e' ∧
      e'.errors.altitude = e.errors.altitude ∧ e'.errors.total = e.errors.total ∧
      |e.axis.altitude| ≠ 90 ∧ e'.errors.azimuth = Angle.signed (-e.errors.azimuth) := by
  have hunit : dot (⟨0, 3 / 5, -4 / 5⟩ : Vec3 ℝ) ⟨0, 3 / 5, -4 / 5⟩ = 1 := by
    rw [dot_eq]
    norm_num
  have hmirrored : (⟨0, 3 / 5, -4 / 5⟩ : Vec3 ℝ).mirrored = ⟨0, 3 / 5, 4 / 5⟩ := by
    rw [mirrored]
    norm_num
  have hsite : (Latitude.degrees (30 : ℝ)).inDegrees = .ok 30 := rfl
  have hopposite : (Latitude.degrees (-30 : ℝ)).inDegrees = .ok (-30) := rfl
  have hrange : |(30 : ℝ)| ≤ 90 := by
    rw [abs_of_pos (by norm_num)]
    norm_num
  obtain ⟨e, e', he, he', haltitude, htotal, -, hazimuth⟩ :=
    mirror_of_site hunit (by norm_num) hrange hsite hopposite
  have hup : |e.axis.altitude| ≠ 90 := by
    rw [ofAxis?_eq hunit hsite hrange] at he
    cases he
    -- both ends are off the meridian
    refine (HorizontalDirection.abs_altitude_ne_iff (dot_self_visibleEnd hunit)).2 (.inr ?_)
    rcases visibleEnd_eq_or (⟨0, 3 / 5, -4 / 5⟩ : Vec3 ℝ) 30 with hend | hend
    · rw [hend]
      norm_num [overHorizon, neg_eq]
    · rw [hend]
      norm_num [overHorizon]
  exact ⟨e, e', he, hmirrored ▸ he', haltitude, htotal, hup, hazimuth hup⟩

end PolarError

end EquatorialMount
