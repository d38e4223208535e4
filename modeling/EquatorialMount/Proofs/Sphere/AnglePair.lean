import EquatorialMount.Proofs.Angle
import EquatorialMount.Proofs.Sphere.Vector

/-!
# Directions and their angle pairs

The angle pair of a unit vector is the pair of that very vector (`direction_ofDirection`).  The other way a pair comes
back in its standard form, with the hour angle in `(-180, 180]` and the declination in `[-90, 90]`: between the poles
the hour angle is wrapped and the declination kept, and a declination beyond a pole comes back on the far side of it
(`ofDirection_inverse`).
-/

namespace EquatorialMount

open AddCommGroup Trig Vec3

/-! ### Congruent angles -/

namespace Trig

private theorem radians_add_int_mul (x : ℝ) (n : ℤ) : radians (x + n * 360) = radians x + n * (2 * Real.pi) := by
  rw [radians_eq, radians_eq]
  ring

theorem cos_radians_of_modEq {x y : ℝ} (h : x ≡ y [PMOD 360]) : Real.cos (radians x) = Real.cos (radians y) := by
  obtain ⟨n, rfl⟩ := Angle.modEq_iff.1 h
  rw [radians_add_int_mul, Real.cos_add_int_mul_two_pi]

theorem sin_radians_of_modEq {x y : ℝ} (h : x ≡ y [PMOD 360]) : Real.sin (radians x) = Real.sin (radians y) := by
  obtain ⟨n, rfl⟩ := Angle.modEq_iff.1 h
  rw [radians_add_int_mul, Real.sin_add_int_mul_two_pi]

theorem radians_add_halfTurn (x : ℝ) : radians (x + 180) = radians x + Real.pi := by
  rw [radians_add, radians_halfTurn]

end Trig

/-! ### The pair of a direction -/

namespace Vec3

variable {v : Vec3 ℝ}

theorem z_mem_of_unit (hv : v.dot v = 1) : v.z ∈ Set.Icc (-1) 1 := by
  rw [dot_self] at hv
  rw [Set.mem_Icc, ← abs_le, ← sq_le_one_iff_abs_le_one]
  nlinarith [sq_nonneg v.x, sq_nonneg v.y]

theorem one_sub_z_sq (hv : v.dot v = 1) : 1 - v.z ^ 2 = v.x ^ 2 + v.y ^ 2 := by
  rw [dot_self] at hv
  linarith

end Vec3

namespace AnglePair

theorem direction_eq (p : AnglePair ℝ) : p.direction =
    ⟨Real.cos (radians p.secondary) * Real.cos (radians p.primary),
      Real.cos (radians p.secondary) * Real.sin (radians p.primary), Real.sin (radians p.secondary)⟩ := rfl

theorem dot_self_direction (p : AnglePair ℝ) : p.direction.dot p.direction = 1 := by
  have hp := Real.sin_sq_add_cos_sq (radians p.primary)
  have hs := Real.sin_sq_add_cos_sq (radians p.secondary)
  rw [dot_self, direction_eq]
  linear_combination Real.cos (radians p.secondary) ^ 2 * hp + hs

/-- The point of the sphere with the argument of `(x, y)` and the arcsine of the height of a unit vector. -/
theorem direction_of_unit {v : Vec3 ℝ} (hv : v.dot v = 1) {p : AnglePair ℝ}
    (hprimary : radians p.primary = Complex.arg ⟨v.x, v.y⟩) (hsecondary : radians p.secondary = Real.arcsin v.z) :
    p.direction = v := by
  obtain ⟨hlo, hhi⟩ := z_mem_of_unit hv
  rw [direction_eq, hprimary, hsecondary, Real.sin_arcsin hlo hhi, Real.cos_arcsin, one_sub_z_sq hv,
    hypot_mul_cos_atan2, hypot_mul_sin_atan2]

theorem primary_ofDirection (v : Vec3 ℝ) : (ofDirection v).primary = degrees (Complex.arg ⟨v.x, v.y⟩) := rfl

theorem secondary_ofDirection {v : Vec3 ℝ} (hv : v.dot v = 1) :
    (ofDirection v).secondary = degrees (Real.arcsin v.z) := by
  have hz : Scalar.clamp (-Scalar.one) Scalar.one v.z = v.z := by
    rw [Scalar.one_eq]
    exact Scalar.clamp_of_mem (z_mem_of_unit hv)
  rw [ofDirection, hz]
  rfl

/-- A unit vector comes back from its angle pair. -/
theorem direction_ofDirection {v : Vec3 ℝ} (hv : v.dot v = 1) : (ofDirection v).direction = v := by
  refine direction_of_unit hv (radians_degrees _) ?_
  rw [secondary_ofDirection hv, radians_degrees]

theorem primary_ofDirection_mem (v : Vec3 ℝ) : (ofDirection v).primary ∈ Set.Ioc (-180) 180 := by
  rw [primary_ofDirection]
  constructor
  · rw [← not_le, ← radians_le_radians, radians_degrees, radians_neg, radians_halfTurn, not_le]
    exact Complex.neg_pi_lt_arg _
  · rw [← radians_le_radians, radians_degrees, radians_halfTurn]
    exact Complex.arg_le_pi _

private theorem secondary_ofDirection_mem (v : Vec3 ℝ) : (ofDirection v).secondary ∈ Set.Icc (-90) 90 := by
  have hsecondary : radians (ofDirection v).secondary = Real.arcsin (Scalar.clamp (-Scalar.one) Scalar.one v.z) :=
    radians_degrees _
  constructor
  · rw [← radians_le_radians, hsecondary, radians_neg, radians_ninety]
    exact Real.neg_pi_div_two_le_arcsin _
  · rw [← radians_le_radians, hsecondary, radians_ninety]
    exact Real.arcsin_le_pi_div_two _

end AnglePair

/-! ### The direction of a pair -/

namespace AnglePair

@[simp] theorem direction?_eq (p : AnglePair ℝ) : p.direction? = .ok p.direction := rfl

/-- The hour angle counts modulo whole turns. -/
theorem direction_of_modEq {p q : ℝ} (h : p ≡ q [PMOD 360]) (s : ℝ) : (mk p s).direction = (mk q s).direction := by
  rw [direction_eq, direction_eq, cos_radians_of_modEq h, sin_radians_of_modEq h]

/-- Beyond the pole the same point has the hour angle of the far side. -/
private theorem direction_over_pole (p s : ℝ) : (mk p s).direction = (mk (p + 180) (180 - s)).direction := by
  rw [direction_eq, direction_eq, radians_add_halfTurn, radians_sub, radians_halfTurn, Real.cos_add_pi, Real.sin_add_pi,
    Real.cos_pi_sub, Real.sin_pi_sub, neg_mul_neg, neg_mul_neg]

private theorem primary_ofDirection_direction {p s : ℝ} (hp : p ∈ Set.Ioc (-180) 180) (hlo : -90 < s) (hhi : s < 90) :
    (ofDirection (mk p s).direction).primary = p := by
  have hcos : 0 < Real.cos (radians s) := by
    apply Real.cos_pos_of_mem_Ioo
    rw [← radians_ninety, ← radians_neg]
    exact ⟨radians_lt_radians.2 hlo, radians_lt_radians.2 hhi⟩
  have harg : radians p ∈ Set.Ioc (-Real.pi) Real.pi := by
    rw [← radians_halfTurn, ← radians_neg]
    exact ⟨radians_lt_radians.2 hp.1, radians_le_radians.2 hp.2⟩
  have hpolar : (⟨Real.cos (radians s) * Real.cos (radians p), Real.cos (radians s) * Real.sin (radians p)⟩ : ℂ) =
      Real.cos (radians s) * (Complex.cos (radians p : ℝ) + Complex.sin (radians p : ℝ) * Complex.I) := by
    apply Complex.ext <;> simp [Complex.cos_ofReal_re, Complex.sin_ofReal_re]
  rw [primary_ofDirection, direction_eq, hpolar, Complex.arg_mul_cos_add_sin_mul_I hcos harg, degrees_radians]

private theorem secondary_ofDirection_direction (p : ℝ) {s : ℝ} (hlo : -90 ≤ s) (hhi : s ≤ 90) :
    (ofDirection (mk p s).direction).secondary = s := by
  rw [secondary_ofDirection (dot_self_direction _), direction_eq, Real.arcsin_sin, degrees_radians]
  · rw [← radians_ninety, ← radians_neg]
    exact radians_le_radians.2 hlo
  · rw [← radians_ninety]
    exact radians_le_radians.2 hhi

/-- Between the poles a pair comes back with its hour angle wrapped. -/
private theorem ofDirection_direction (p : ℝ) {s : ℝ} (hlo : -90 < s) (hhi : s < 90) :
    ofDirection (mk p s).direction = ⟨Angle.signed p, s⟩ := by
  have hprimary := primary_ofDirection_direction (Angle.signed_mem p) hlo hhi
  rw [direction_of_modEq (Angle.signed_modEq p)] at hprimary
  exact congrArg₂ mk hprimary (secondary_ofDirection_direction p hlo.le hhi.le)

/-- Directions and their angle pairs are inverse to each other.  A unit vector has a pair in the standard ranges and is
the direction of that pair; and a pair comes back from its direction in standard form, between the poles with its hour
angle wrapped, and from beyond a pole as the same point seen from the other side. -/
theorem ofDirection_inverse :
    (∀ v : Vec3 ℝ, v.length = 1 →
      (ofDirection v).direction? = .ok v ∧ (ofDirection v).primary ∈ Set.Ioc (-180) 180 ∧
        (ofDirection v).secondary ∈ Set.Icc (-90) 90) ∧
      ∀ p s : ℝ,
        (-90 < s → s < 90 → (mk p s).direction?.map ofDirection = .ok ⟨Angle.signed p, s⟩) ∧
        (90 < s → s < 270 → (mk p s).direction?.map ofDirection = .ok ⟨Angle.signed (p + 180), 180 - s⟩) := by
  refine ⟨fun v hv => ?_, fun p s => ⟨fun hlo hhi => ?_, fun hlo hhi => ?_⟩⟩
  · have hunit : v.dot v = 1 := by rw [← length_sq, hv, one_pow]
    rw [direction?_eq, direction_ofDirection hunit]
    exact ⟨rfl, primary_ofDirection_mem v, secondary_ofDirection_mem v⟩
  · rw [direction?_eq, Except.map, ofDirection_direction p hlo hhi]
  · rw [direction?_eq, Except.map, direction_over_pole, ofDirection_direction _ (by linarith) (by linarith)]

/-- A direction off the axes of the frame, an hour angle beyond half a turn and a declination beyond the pole. -/
theorem ofDirection_inverse_wrapped :
    (ofDirection (⟨0, -3 / 5, 4 / 5⟩ : Vec3 ℝ)).direction? = .ok ⟨0, -3 / 5, 4 / 5⟩ ∧
      (⟨270, 10⟩ : AnglePair ℝ).direction?.map ofDirection = .ok ⟨-90, 10⟩ ∧
      (⟨10, 100⟩ : AnglePair ℝ).direction?.map ofDirection = .ok ⟨-170, 80⟩ := by
  have hlength : (⟨0, -3 / 5, 4 / 5⟩ : Vec3 ℝ).length = 1 := length_of_unit (by norm_num [dot_eq])
  have hwest : (-90 : ℝ) = Angle.signed 270 :=
    Angle.eq_signed_iff.2 ⟨by norm_num, Angle.modEq_iff.2 ⟨-1, by norm_num⟩⟩
  have hback : (-170 : ℝ) = Angle.signed (10 + 180) :=
    Angle.eq_signed_iff.2 ⟨by norm_num, Angle.modEq_iff.2 ⟨-1, by norm_num⟩⟩
  refine ⟨(ofDirection_inverse.1 _ hlength).1, ?_, ?_⟩
  · rw [hwest]
    exact (ofDirection_inverse.2 270 10).1 (by norm_num) (by norm_num)
  · rw [hback, (ofDirection_inverse.2 10 100).2 (by norm_num) (by norm_num)]
    norm_num

end AnglePair

end EquatorialMount
