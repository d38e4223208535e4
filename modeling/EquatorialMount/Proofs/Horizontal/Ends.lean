import EquatorialMount.Horizontal
import EquatorialMount.Outcome
import EquatorialMount.Proofs.Binary64.Sign
import EquatorialMount.Proofs.Exact.Trigonometry

/-!
# The two ends of an axis

An axis is a line, and its vector points along it one way or the other.  The end that is compared with the pole is the
one on the side of the site, so the polar error is that of the line (`ofAxis?_neg_iff`); only of an axis at right angles
to the pole are the ends told apart, and then they are equally far from it (`total_neg`).  All that this takes is that a
sign can be changed without rounding, so it holds of binary64 numbers as it does of exact ones.
-/

namespace EquatorialMount

open Scalar

/-- Numbers with a sign that can be changed without rounding. -/
class Trig.Mirrored (α : Type) [Trig α] : Prop where
  isFinite_neg (x : α) : isFinite (-x) = isFinite x
  neg_neg {x : α} (hx : isFinite x = true) : - -x = x
  neg_mul_neg {x : α} (hx : isFinite x = true) : -x * -x = x * x
  abs_neg {x : α} (hx : isFinite x = true) : Scalar.abs (-x) = Scalar.abs x
  hypot_neg_neg {x y : α} (hx : isFinite x = true) (hy : isFinite y = true) : Trig.hypot (-x) (-y) = Trig.hypot x y
  /-- Of two opposite numbers one is on the side of a sign. -/
  neg_mul_unit_neg_iff {x h : α} (hh : h = one ∨ h = -one) (hx : isFinite x = true) (h0 : isZero x = false) :
    -x * h < zero ↔ ¬x * h < zero

instance : Trig.Mirrored Float where
  isFinite_neg := Binary64.isFinite_neg
  neg_neg := Binary64.neg_neg
  neg_mul_neg := Binary64.neg_mul_neg
  abs_neg := Float64.abs_neg
  hypot_neg_neg := Float64.hypot_neg_neg
  neg_mul_unit_neg_iff := Float64.neg_mul_unit_neg_iff

instance : Trig.Mirrored ℝ where
  isFinite_neg _ := rfl
  neg_neg _ := neg_neg _
  neg_mul_neg _ := neg_mul_neg _ _
  abs_neg _ := by rw [Scalar.abs_eq, Scalar.abs_eq, abs_neg]
  hypot_neg_neg _ _ := by rw [Trig.hypot_eq, Trig.hypot_eq, neg_sq, neg_sq]
  neg_mul_unit_neg_iff {x h} hh hx h0 := by
    have hne : x * h ≠ 0 := by
      refine mul_ne_zero (fun hx0 => ?_) ?_
      · rw [(isZero_iff x).2 hx0] at h0
        cases h0
      · obtain rfl | rfl := hh <;> simp
    rw [zero_eq, neg_mul, neg_lt_zero, not_lt]
    exact ⟨le_of_lt, fun h => lt_of_le_of_ne h hne.symm⟩

open Trig

variable {α : Type} [Trig α] [Trig.Mirrored α]

namespace Vec3

variable {v : Vec3 α}

theorem isFinite_neg (v : Vec3 α) : v.neg.isFinite = v.isFinite := by
  simp only [isFinite, neg, Mirrored.isFinite_neg]

omit [Trig.Mirrored α] in
theorem isFinite_iff :
    v.isFinite = true ↔ Scalar.isFinite v.x = true ∧ Scalar.isFinite v.y = true ∧ Scalar.isFinite v.z = true := by
  simp only [isFinite, Bool.and_eq_true, and_assoc]

section Finite

variable (h : v.isFinite = true)

include h

theorem neg_neg : v.neg.neg = v := by
  obtain ⟨hx, hy, hz⟩ := isFinite_iff.1 h
  simp only [neg, Mirrored.neg_neg hx, Mirrored.neg_neg hy, Mirrored.neg_neg hz]

private theorem length_neg : v.neg.length = v.length := by
  obtain ⟨hx, hy, hz⟩ := isFinite_iff.1 h
  simp only [length, dot, neg, Mirrored.neg_mul_neg hx, Mirrored.neg_mul_neg hy, Mirrored.neg_mul_neg hz]

end Finite

omit [Trig.Mirrored α] in
theorem checkDetermined_ok_iff {w : Vec3 α} :
    v.checkDetermined = .ok w ↔ v = w ∧ v.isFinite = true ∧ isUndetermined v Scalar.zero = false := by
  unfold checkDetermined checkFinite
  cases hfinite : v.isFinite <;> cases hlength : isUndetermined v Scalar.zero <;>
    simp [bind, Except.bind, pure, Except.pure, hlength, throw, throwThe, MonadExceptOf.throw]

end Vec3

namespace PolarError

variable {axis : Vec3 α}

omit [Trig.Mirrored α] in
private theorem hemisphere_eq_or (latitude : α) : hemisphere latitude = one ∨ hemisphere latitude = -one := by
  unfold hemisphere
  split
  · exact .inl rfl
  · exact .inr rfl

omit [Trig.Mirrored α] in
theorem visibleEnd_eq_or (axis : Vec3 α) (latitude : α) :
    visibleEnd axis latitude = axis.neg ∨ visibleEnd axis latitude = axis := by
  unfold visibleEnd
  split
  · exact .inl rfl
  · exact .inr rfl

/-- Both ways along an axis lead to the same end of it. -/
private theorem visibleEnd_neg (latitude : α) (h : axis.isFinite = true) (h0 : isZero axis.z = false) :
    visibleEnd axis.neg latitude = visibleEnd axis latitude := by
  have hside : axis.neg.z * hemisphere latitude < zero ↔ ¬axis.z * hemisphere latitude < zero :=
    Mirrored.neg_mul_unit_neg_iff (hemisphere_eq_or latitude) (Vec3.isFinite_iff.1 h).2.2 h0
  by_cases hz : axis.z * hemisphere latitude < zero
  · rw [visibleEnd, visibleEnd, if_pos hz, if_neg (mt hside.1 (not_not.2 hz))]
  · rw [visibleEnd, visibleEnd, if_neg hz, if_pos (hside.2 hz), Vec3.neg_neg h]

/-- The angle between a direction and the line of the poles. -/
def fromPoles (v : Vec3 α) : α := Trig.degrees (Trig.atan2 (Trig.hypot v.x v.y) (Scalar.abs v.z))

private theorem fromPoles_neg (h : axis.isFinite = true) : fromPoles axis.neg = fromPoles axis := by
  obtain ⟨hx, hy, hz⟩ := Vec3.isFinite_iff.1 h
  simp only [fromPoles, Vec3.neg, Mirrored.hypot_neg_neg hx hy, Mirrored.abs_neg hz]

private theorem total_eq_fromPoles (latitude : α) (h : axis.isFinite = true) :
    (ofAxis axis latitude).errors.total = fromPoles axis := by
  show fromPoles (visibleEnd axis latitude) = _
  obtain hend | hend := visibleEnd_eq_or axis latitude
  · rw [hend, fromPoles_neg h]
  · rw [hend]

/-- Both ends of an axis are equally far from the pole. -/
theorem total_neg (latitude : α) (h : axis.isFinite = true) :
    (ofAxis axis.neg latitude).errors.total = (ofAxis axis latitude).errors.total := by
  rw [total_eq_fromPoles latitude h, total_eq_fromPoles latitude ((Vec3.isFinite_neg axis).trans h), fromPoles_neg h]

private theorem ofAxis_neg (latitude : α) (h : axis.isFinite = true) (h0 : isZero axis.z = false) :
    ofAxis axis.neg latitude = ofAxis axis latitude := by
  unfold ofAxis
  rw [visibleEnd_neg latitude h h0]

theorem ofAxis_of_eq_or {v : Vec3 α} (latitude : α) (h : axis.isFinite = true) (h0 : isZero axis.z = false)
    (hv : v = axis ∨ v = axis.neg) : ofAxis v latitude = ofAxis axis latitude := by
  obtain rfl | rfl := hv
  · rfl
  · exact ofAxis_neg latitude h h0

/-! ### The checked error -/

omit [Trig.Mirrored α] in
theorem ofAxis?_ok_iff {site : Latitude α} {e : PolarError α} :
    ofAxis? axis site = .ok e ↔ ∃ latitude, site.checked = .ok latitude ∧ axis.isFinite = true ∧
      isUndetermined axis zero = false ∧ ofAxis axis latitude = e := by
  constructor
  · intro h
    obtain ⟨latitude, hsite, h⟩ := exists_of_bind_eq_ok h
    obtain ⟨v, hv, h⟩ := exists_of_bind_eq_ok h
    obtain ⟨rfl, hfinite, hlength⟩ := Vec3.checkDetermined_ok_iff.1 hv
    exact ⟨latitude, hsite, hfinite, hlength, Except.ok.inj h⟩
  · rintro ⟨latitude, hsite, hfinite, hlength, rfl⟩
    have hv := Vec3.checkDetermined_ok_iff.2 ⟨rfl, hfinite, hlength⟩
    simp only [ofAxis?, hsite, hv, bind, Except.bind, pure, Except.pure]

private theorem isUndetermined_neg (h : axis.isFinite = true) (tolerance : α) :
    isUndetermined axis.neg tolerance = isUndetermined axis tolerance := by
  unfold isUndetermined
  rw [Vec3.length_neg h]

/-- The other end of an axis has a polar error where the one has, with the same total and, unless the axis is at right
angles to the pole, the same in all. -/
theorem ofAxis?_neg {site : Latitude α} {e : PolarError α} (h : ofAxis? axis site = .ok e) :
    ∃ e', ofAxis? axis.neg site = .ok e' ∧ e'.errors.total = e.errors.total ∧ (isZero axis.z = false → e' = e) := by
  obtain ⟨latitude, hsite, hfinite, hlength, rfl⟩ := ofAxis?_ok_iff.1 h
  refine ⟨ofAxis axis.neg latitude, ?_, total_neg latitude hfinite, ofAxis_neg latitude hfinite⟩
  refine ofAxis?_ok_iff.2 ⟨latitude, hsite, (Vec3.isFinite_neg axis).trans hfinite, ?_, rfl⟩
  rw [isUndetermined_neg hfinite, hlength]

theorem ofAxis?_neg_iff {site : Latitude α} {e : PolarError α} (h0 : isZero axis.z = false) :
    ofAxis? axis.neg site = .ok e ↔ ofAxis? axis site = .ok e := by
  constructor
  · intro h
    obtain ⟨latitude, hsite, hfinite, hlength, rfl⟩ := ofAxis?_ok_iff.1 h
    rw [Vec3.isFinite_neg] at hfinite
    rw [isUndetermined_neg hfinite] at hlength
    exact ofAxis?_ok_iff.2 ⟨latitude, hsite, hfinite, hlength, (ofAxis_neg latitude hfinite h0).symm⟩
  · intro h
    obtain ⟨e', he', -, heq⟩ := ofAxis?_neg h
    rw [he', heq h0]

end PolarError

end EquatorialMount
