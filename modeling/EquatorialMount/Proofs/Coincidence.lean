import EquatorialMount.Proofs.Report
import EquatorialMount.Proofs.Sphere.Collinear

/-!
# Samples without an axis

The axis is missing where the sampled directions are on one line.  A line meets the sphere in two points at most
(`eq_or_of_onOneLine`), so this is so exactly if two of the samples are the same point of the sphere, whatever hour
angles and declinations they are given by; and just then the program has nothing to report and ends with code 1
(`undetermined_iff_coincide`).
-/

namespace EquatorialMount

open Vec3

/-! ### Points of the sphere on one line -/

namespace Vec3

variable {a b c d : Vec3 ℝ} {r : ℝ}

private theorem sub_eq_sub_iff : a.sub b = c.sub b ↔ a = c := by
  simp only [sub_eq, Vec3.ext_iff, sub_left_inj]

/-- Where a line through a point of the sphere meets it once more. -/
private theorem chord_of_unit (ha : a.dot a = 1) (hb : b.dot b = 1) (h : a.sub b = scale r d) :
    r = 0 ∨ 2 * b.dot d + r * d.dot d = 0 := by
  simp only [sub_eq, scale_eq, mk.injEq] at h
  obtain ⟨hx, hy, hz⟩ := h
  rw [← mul_eq_zero]
  simp only [dot_eq] at ha hb ⊢
  linear_combination ha - hb - (a.x + b.x + r * d.x) * hx - (a.y + b.y + r * d.y) * hy - (a.z + b.z + r * d.z) * hz

/-- A line meets the sphere in no more than two points. -/
theorem eq_or_of_onOneLine (ha : a.dot a = 1) (hb : b.dot b = 1) (hc : c.dot c = 1) (h : OnOneLine a b c) :
    a = b ∨ b = c ∨ a = c := by
  obtain ⟨d, r, s, hr, hs⟩ := onOneLine_iff.1 h
  obtain rfl | hr0 := chord_of_unit ha hb hr
  · rw [zero_scale, sub_eq_zero_iff] at hr
    exact .inl hr
  obtain rfl | hs0 := chord_of_unit hc hb hs
  · rw [zero_scale, sub_eq_zero_iff] at hs
    exact .inr (.inl hs.symm)
  -- the line has one other point of the sphere, and it is both
  have hdiff : (r - s) * d.dot d = 0 := by linear_combination hr0 - hs0
  have hsame : scale r d = scale s d := by
    obtain hrs | hd := mul_eq_zero.1 hdiff
    · rw [sub_eq_zero.1 hrs]
    · have hzero : d = zero := not_not.1 fun hne => dot_self_ne_zero hne hd
      rw [hzero]
      simp [scale_eq, zero_eq]
  rw [← hr, ← hs, sub_eq_sub_iff] at hsame
  exact .inr (.inr hsame)

end Vec3

/-! ### Samples at one point -/

namespace Samples

/-- Whether two of three samples are the same point of the sphere. -/
def Coincide (s : Samples ℝ) : Prop :=
  s.first.direction = s.second.direction ∨ s.second.direction = s.third.direction ∨
    s.first.direction = s.third.direction

variable {s : Samples ℝ}

private theorem onOneLine_iff_coincide :
    OnOneLine s.first.direction s.second.direction s.third.direction ↔ s.Coincide :=
  ⟨eq_or_of_onOneLine (AnglePair.dot_self_direction _) (AnglePair.dot_self_direction _)
    (AnglePair.dot_self_direction _), OnOneLine.of_eq⟩

private theorem rotationAxis_eq_zero_iff : s.rotationAxis = zero ↔ s.Coincide := by
  rw [rotationAxis, planeNormal_eq_zero_iff, spannedNormal_eq_zero_iff, onOneLine_iff_coincide]

private theorem rotationAxis?_eq_zero_iff : s.rotationAxis? = .ok zero ↔ s.Coincide := by
  rw [rotationAxis?_eq, Except.ok.injEq, ← rotationAxis_eq_zero_iff, rotationAxis]

/-- Samples at three points have an axis. -/
private theorem exists_axis (h : ¬s.Coincide) : ∃ n, s.rotationAxis? = .ok n ∧ n.dot n = 1 := by
  refine ⟨s.rotationAxis, rfl, ?_⟩
  obtain hzero | hunit := planeNormal_eq_zero_or s.first.direction s.second.direction s.third.direction
  · exact absurd (rotationAxis_eq_zero_iff.1 hzero) h
  · exact hunit

end Samples

/-! ### The report -/

namespace Report

variable {n : Vec3 ℝ} {s : Samples ℝ} (latitude : Option ℝ) (north : Bool)

/-- A report on an axis begins with the lines about it, and does not end as one without an axis. -/
private theorem ofSamples_of_unit (h : s.rotationAxis? = .ok n) (hn : n.dot n = 1) :
    (ofSamples s latitude north).lines ≠ [] ∧ (ofSamples s latitude north).ending ≠ .ok false := by
  have hlength := isUndetermined_of_ne (hn.trans_ne one_ne_zero)
  simp only [ofSamples, h, hlength, Bool.false_eq_true, if_false]
  cases latitude with
  | none => simp [axisLines]
  | some x => cases hsite : siteLines (oriented n north).1 x <;> simp [hsite, axisLines]

private theorem ofSamples_eq_nothing_iff : ofSamples s latitude north = ⟨[], .ok false⟩ ↔ s.Coincide := by
  constructor
  · intro h
    by_contra hne
    obtain ⟨n, haxis, hn⟩ := Samples.exists_axis hne
    exact (ofSamples_of_unit latitude north haxis hn).1 (congrArg Report.lines h)
  · intro h
    exact ofSamples_of_zero (Samples.rotationAxis?_eq_zero_iff.2 h) latitude north

end Report

namespace Run

variable {s : Samples ℝ} (notices : List (Notice ℝ)) (latitude : Option ℝ) (north : Bool)

private theorem ofReport_lines :
    (ofReport notices s latitude north).lines = (Report.ofSamples s latitude north).lines := by
  cases h : (Report.ofSamples s latitude north).ending <;> simp only [ofReport, h]

/-- Code 1 is for the want of an axis only. -/
private theorem ofReport_ending_eq_one_iff :
    (ofReport notices s latitude north).ending = .ok 1 ↔ (Report.ofSamples s latitude north).ending = .ok false := by
  cases h : (Report.ofSamples s latitude north).ending with
  | error e => simp [ofReport, h]
  | ok hasAxis => cases hasAxis <;> simp [ofReport, h]

private theorem ofReport_eq_nothing_iff : ((ofReport notices s latitude north).lines = [] ∧
    (ofReport notices s latitude north).ending = .ok 1) ↔ s.Coincide := by
  rw [ofReport_lines, ofReport_ending_eq_one_iff, ← Report.ofSamples_eq_nothing_iff latitude north, Report.mk.injEq]

end Run

/-- There is no axis exactly if two of the three samples are the same point of the sphere.  Just then the vector
returned is zero, and whatever the latitude and the choice of the end the report shows nothing and the run ends with
code 1.  Samples at three points have an axis, at one declination or not. -/
theorem Samples.undetermined_iff_coincide (s : Samples ℝ) :
    (s.rotationAxis? = .ok zero ↔ s.Coincide) ∧
      (∀ latitude north, Report.ofSamples s latitude north = ⟨[], .ok false⟩ ↔ s.Coincide) ∧
      (∀ notices latitude north,
        ((Run.ofReport notices s latitude north).lines = [] ∧ (Run.ofReport notices s latitude north).ending = .ok 1) ↔
          s.Coincide) ∧
      (s.first.direction ≠ s.second.direction → s.second.direction ≠ s.third.direction →
        s.first.direction ≠ s.third.direction →
        ∃ n, s.rotationAxis? = .ok n ∧ n.length = 1 ∧ isUndetermined n Scalar.zero = false) := by
  refine ⟨rotationAxis?_eq_zero_iff, fun latitude north => Report.ofSamples_eq_nothing_iff latitude north,
    fun notices latitude north => Run.ofReport_eq_nothing_iff notices latitude north, fun h12 h23 h13 => ?_⟩
  have hne : ¬s.Coincide := by
    rintro (h | h | h)
    exacts [h12 h, h23 h, h13 h]
  obtain ⟨n, haxis, hn⟩ := exists_axis hne
  exact ⟨n, haxis, length_of_unit hn, isUndetermined_of_ne (hn.trans_ne one_ne_zero)⟩

/-- The corner of the frame, whose samples are at two declinations; samples at one declination that come back to the
first after a turn; and two samples at the pole, where the hour angle makes no difference. -/
theorem Samples.undetermined_iff_coincide_corner :
    (∃ n, Samples.corner.rotationAxis? = .ok n ∧ n.length = 1) ∧
      (∀ north, (Run.ofReport [] (Samples.atDeclination (40 : ℝ) 0 60 360) (some 35) north).ending = .ok 1) ∧
      Report.ofSamples ⟨⟨0, 90⟩, ⟨60, 90⟩, ⟨60, (40 : ℝ)⟩⟩ none true = ⟨[], .ok false⟩ := by
  obtain ⟨hx, hy, hz⟩ := Samples.direction_corner
  have hback : (Samples.atDeclination (40 : ℝ) 0 60 360).Coincide :=
    .inr (.inr (AnglePair.direction_of_modEq (Angle.modEq_iff.2 ⟨-1, by norm_num⟩) 40))
  have hpole : Samples.Coincide ⟨⟨0, 90⟩, ⟨60, 90⟩, ⟨60, 40⟩⟩ := .inl (by simp [AnglePair.direction_eq])
  refine ⟨?_, fun north => (((undetermined_iff_coincide _).2.2.1 [] (some 35) north).2 hback).2,
    ((undetermined_iff_coincide _).2.1 none true).2 hpole⟩
  obtain ⟨n, haxis, hlength, -⟩ := (undetermined_iff_coincide Samples.corner).2.2.2
    (by simp [hx, hy]) (by simp [hy, hz]) (by simp [hx, hz])
  exact ⟨n, haxis, hlength⟩

end EquatorialMount
