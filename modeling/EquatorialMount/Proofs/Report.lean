import EquatorialMount.Program
import EquatorialMount.Proofs.Horizontal.PolarError
import EquatorialMount.Proofs.Sphere.Ends
import EquatorialMount.Proofs.Sphere.HourAngles

/-!
# The report on a line

The axis is a line, while the order of the samples and the choice of the northern end decide which way along it the
reported vector points.  With the northern end chosen the report does not depend on the order, but for the hour angle
of the pole itself (`ofReport_north_perm`); and the polar error is the same with that choice or without it
(`errors_of_line`).
-/

namespace EquatorialMount

open Trig Vec3

namespace ReportLine

variable {α : Type}

def isHourAngle : ReportLine α → Bool
  | hourAngle _ => true
  | _ => false

/-- Whether a line shows the polar error, in degrees or in seconds of arc. -/
def isPolarError : ReportLine α → Bool
  | polarError _ => true
  | polarErrorArcseconds _ => true
  | _ => false

end ReportLine

namespace Report

variable {n v : Vec3 ℝ} {s : Samples ℝ} {latitude : Option ℝ} {north : Bool}

/-! ### The reported end -/

/-- Which end is reported on, and how its angles come about. -/
private theorem oriented_cases (hn : n.dot n = 1) (north : Bool) :
    oriented n north = (n, .ofDirection n) ∧ (north = true → 0 ≤ n.z) ∨
      oriented n north = (n.neg, (AnglePair.ofDirection n).opposite) ∧ n.z < 0 := by
  have hopposite : (AnglePair.ofDirection n).opposite.direction = n.neg := by
    rw [AnglePair.direction_opposite, AnglePair.direction_ofDirection hn]
  unfold oriented
  simp only [hopposite, Scalar.zero_eq]
  split
  · rename_i h
    exact .inr ⟨rfl, (by simpa using h : north = true ∧ n.z < 0).2⟩
  · rename_i h
    exact .inl ⟨rfl, fun hnorth => by simpa [hnorth] using h⟩

private theorem oriented_fst (hn : n.dot n = 1) (north : Bool) :
    (oriented n north).1 = n ∨ (oriented n north).1 = n.neg := by
  obtain ⟨h, -⟩ | ⟨h, -⟩ := oriented_cases hn north
  · exact .inl (by rw [h])
  · exact .inr (by rw [h])

private theorem dot_self_oriented (hn : n.dot n = 1) (north : Bool) :
    (oriented n north).1.dot (oriented n north).1 = 1 := by
  obtain h | h := oriented_fst hn north
  · rw [h, hn]
  · rw [h, dot_self_neg, hn]

/-- With the northern end chosen, the angles are those of that end, but for the hour angle of the pole itself. -/
private theorem oriented_north (hn : n.dot n = 1) (hz : n.z ≠ 0) : (oriented n true).1 = n.northernEnd ∧
    (oriented n true).2.secondary = (AnglePair.ofDirection n.northernEnd).secondary ∧
    (n.HasHourAngle → (oriented n true).2 = AnglePair.ofDirection n.northernEnd) := by
  obtain ⟨h, hnonneg⟩ | ⟨h, hneg⟩ := oriented_cases hn true
  · rw [h, northernEnd_of_pos (lt_of_le_of_ne (hnonneg rfl) hz.symm)]
    exact ⟨rfl, rfl, fun _ => rfl⟩
  · rw [h, northernEnd_of_neg hneg]
    exact ⟨rfl, AnglePair.secondary_opposite_ofDirection hn, AnglePair.opposite_ofDirection hn⟩

/-! ### The lines -/

/-- The lines about the site of an axis. -/
noncomputable def siteLinesAt (v : Vec3 ℝ) : Option ℝ → List (ReportLine ℝ)
  | none => []
  | some latitude =>
    [.altitude (HorizontalDirection.ofAxis v latitude).altitude,
      .azimuth (HorizontalDirection.ofAxis v latitude).azimuth,
      .polarError (PolarError.ofAxis v latitude).errors,
      .polarErrorArcseconds (PolarError.ofAxis v latitude).errors.toArcseconds]

private theorem siteLines_eq (hv : v.dot v = 1) {latitude : ℝ} (hrange : |latitude| ≤ 90) :
    siteLines v latitude = .ok (siteLinesAt v (some latitude)) := by
  have hchecked : (Latitude.degrees latitude).checked = .ok latitude := Latitude.checked_eq rfl hrange
  have hdetermined := checkDetermined_eq (hv.trans_ne one_ne_zero)
  have herror : PolarError.ofAxis? v (.degrees latitude) = _ := PolarError.ofAxis?_eq hv rfl hrange
  simp only [siteLines, herror, HorizontalDirection.ofAxis?, HorizontalDirection.ofEquatorial?, hchecked, hdetermined,
    bind, Except.bind]
  rfl

theorem ofSamples_of_zero (h : s.rotationAxis? = .ok zero) (latitude : Option ℝ) (north : Bool) :
    ofSamples s latitude north = ⟨[], .ok false⟩ := by
  have hlength : isUndetermined (zero : Vec3 ℝ) Scalar.zero = true := isUndetermined_iff.2 rfl
  simp only [ofSamples, h, hlength, if_true]

private theorem ofSamples_of_axis (h : s.rotationAxis? = .ok n) (hn : n.dot n = 1) (hrange : ∀ x ∈ latitude, |x| ≤ 90)
    (north : Bool) : ofSamples s latitude north =
      ⟨axisLines (oriented n north).1 (oriented n north).2 ++ siteLinesAt (oriented n north).1 latitude, .ok true⟩ := by
  have hlength := isUndetermined_of_ne (hn.trans_ne one_ne_zero)
  have hunit := dot_self_oriented hn north
  simp only [ofSamples, h, hlength, Bool.false_eq_true, if_false]
  cases latitude with
  | none => simp [siteLinesAt]
  | some x => simp only [siteLines_eq hunit (hrange x rfl)]

private theorem filter_isPolarError_lines (v : Vec3 ℝ) (p : AnglePair ℝ) (latitude : ℝ) :
    (axisLines v p ++ siteLinesAt v (some latitude)).filter ReportLine.isPolarError =
      [.polarError (PolarError.ofAxis v latitude).errors,
        .polarErrorArcseconds (PolarError.ofAxis v latitude).errors.toArcseconds] := rfl

end Report

/-! ### Runs -/

namespace Run

variable {n : Vec3 ℝ} {s s' : Samples ℝ} {latitude : Option ℝ} (notices : List (Notice ℝ))

private theorem ofReport_of_zero (h : s.rotationAxis? = .ok zero) (north : Bool) :
    (ofReport notices s latitude north).lines = [] ∧ (ofReport notices s latitude north).ending = .ok 1 := by
  simp [ofReport, Report.ofSamples_of_zero h]

private theorem ofReport_of_axis (h : s.rotationAxis? = .ok n) (hn : n.dot n = 1) (hrange : ∀ x ∈ latitude, |x| ≤ 90)
    (north : Bool) :
    (ofReport notices s latitude north).lines =
        Report.axisLines (Report.oriented n north).1 (Report.oriented n north).2 ++
          Report.siteLinesAt (Report.oriented n north).1 latitude ∧
      (ofReport notices s latitude north).ending = .ok 0 := by
  simp [ofReport, Report.ofSamples_of_axis h hn hrange]

/-- With the northern end chosen, the report is one on that end, but for the hour angle of the pole itself. -/
private theorem lines_north (h : s.rotationAxis? = .ok n) (hn : n.dot n = 1) (hz : n.z ≠ 0)
    (hrange : ∀ x ∈ latitude, |x| ≤ 90) :
    ∃ p : AnglePair ℝ, p.secondary = (AnglePair.ofDirection n.northernEnd).secondary ∧
      (n.HasHourAngle → p = AnglePair.ofDirection n.northernEnd) ∧
      (ofReport notices s latitude true).lines =
        Report.axisLines n.northernEnd p ++ Report.siteLinesAt n.northernEnd latitude := by
  obtain ⟨hend, hsecondary, hpair⟩ := Report.oriented_north hn hz
  refine ⟨(Report.oriented n true).2, hsecondary, hpair, ?_⟩
  rw [(ofReport_of_axis notices h hn hrange true).1, hend]

/-- With the northern end chosen the order of the samples does not count.  Samples without an axis have none in any
order; and where the axis is not at right angles to the pole every order gives the same report, on the end of the axis
that lies north of the equator.  Only the hour angle of the pole itself depends on the order. -/
theorem ofReport_north_perm (haxis : s.rotationAxis? = .ok n) (hperm : s'.toList.Perm s.toList)
    (hrange : ∀ x ∈ latitude, |x| ≤ 90) :
    (n = zero → (ofReport notices s' latitude true).ending = .ok 1) ∧
      (n.z ≠ 0 →
        (ofReport notices s' latitude true).ending = .ok 0 ∧
        (∃ v, (v = n ∨ v = n.neg) ∧ 0 < v.z ∧ (ofReport notices s' latitude true).lines.head? = some (.axis v)) ∧
        List.Forall₂ (fun x y => x = y ∨ x.isHourAngle = true ∧ y.isHourAngle = true)
          (ofReport notices s' latitude true).lines (ofReport notices s latitude true).lines ∧
        (n ≠ ⟨0, 0, 1⟩ → n ≠ ⟨0, 0, -1⟩ →
          (ofReport notices s' latitude true).lines = (ofReport notices s latitude true).lines)) := by
  obtain ⟨n', haxis', hor⟩ := Samples.rotationAxis?_perm hperm haxis
  constructor
  · rintro rfl
    have hzero : n' = zero := by
      obtain rfl | rfl := hor
      · rfl
      · simp [neg_eq, zero_eq]
    exact (ofReport_of_zero notices (hzero ▸ haxis') true).2
  · intro hz
    have hz' : n'.z ≠ 0 := z_ne_zero_of_eq_or hor hz
    have hn : n.dot n = 1 := Samples.dot_self_axis haxis hz
    have hn' : n'.dot n' = 1 := Samples.dot_self_axis haxis' hz'
    obtain ⟨p, hp, hpair, hlines⟩ := lines_north notices haxis hn hz hrange
    obtain ⟨p', hp', hpair', hlines'⟩ := lines_north notices haxis' hn' hz' hrange
    -- whichever end an order finds, its report is on the northern one
    rw [northernEnd_of_eq_or hor hz] at hp' hpair' hlines'
    rw [hlines, hlines']
    have hending := (ofReport_of_axis notices haxis' hn' hrange true).2
    refine ⟨hending, ⟨n.northernEnd, n.northernEnd_eq_or, northernEnd_z_pos hz, rfl⟩, ?_, fun hup hdown => ?_⟩
    · have hdeclination : ReportLine.declination p'.secondary = .declination p.secondary := by rw [hp', hp]
      exact .cons (.inl rfl) (.cons (.inr ⟨rfl, rfl⟩) (.cons (.inl hdeclination)
        (List.forall₂_same.2 fun _ _ => .inl rfl)))
    · have hhour : n.HasHourAngle := hasHourAngle_of_ne_pole hn hup hdown
      rw [hpair hhour, hpair' (hhour.of_eq_or hor)]

/-- An axis found from either end, and samples that come back to where they started. -/
theorem ofReport_north_perm_corner :
    (ofReport [] Samples.corner.reversed (some (-30)) true).ending = .ok 0 ∧
      (ofReport [] Samples.corner.reversed (some (-30)) true).lines =
        (ofReport [] Samples.corner (some (-30)) true).lines ∧
      (ofReport [] (Samples.atDeclination (0 : ℝ) 90 0 0) none true).ending = .ok 1 := by
  have hrange : ∀ x ∈ some (-30 : ℝ), |x| ≤ 90 := by
    rintro x ⟨⟩
    rw [abs_neg]
    norm_num
  have hz : (1 / √3 : ℝ) ≠ 0 := by positivity
  have hx : (-(1 / √3) : ℝ) ≠ 0 := neg_ne_zero.2 hz
  have hback : (Samples.atDeclination (0 : ℝ) 0 0 90).rotationAxis? = .ok zero := by
    rw [Samples.rotationAxis?_atDeclination]
    simp [halfSines]
  obtain ⟨hending, -, -, hlines⟩ :=
    (ofReport_north_perm [] Samples.rotationAxis?_corner Samples.corner.reversed_perm hrange).2 hz
  refine ⟨hending, hlines (fun h => hx (congrArg Vec3.x h)) (fun h => hx (congrArg Vec3.x h)), ?_⟩
  exact (ofReport_north_perm [] hback (Samples.reversed_perm _) (by simp)).1 rfl

/-- The lines about the polar error are those of the axis, whichever end of it is reported on. -/
private theorem polarErrorLines_eq (h : s.rotationAxis? = .ok n) (hz : n.z ≠ 0) {latitude : ℝ}
    (hrange : |latitude| ≤ 90) (north : Bool) :
    (ofReport notices s (some latitude) north).lines.filter ReportLine.isPolarError =
      [.polarError (PolarError.ofAxis n latitude).errors,
        .polarErrorArcseconds (PolarError.ofAxis n latitude).errors.toArcseconds] := by
  have hn : n.dot n = 1 := Samples.dot_self_axis h hz
  have hend := PolarError.ofAxis_of_eq_or latitude rfl (Scalar.isZero_eq_false hz) (Report.oriented_fst hn north)
  have hlatitude : ∀ x ∈ some latitude, |x| ≤ 90 := fun x hx => Option.some.inj hx ▸ hrange
  rw [(ofReport_of_axis notices h hn hlatitude north).1, Report.filter_isPolarError_lines, hend]

end Run

/-- The axis counts as a line.  Both vectors along it have the same polar error, or neither has one, unless it is at
right angles to the pole; then the totals still agree.  This holds of binary64 numbers, rounding included, and of exact
ones.  So the report on three samples shows the polar error of the line, with the northern end chosen or not and in
every order of the samples. -/
theorem PolarError.errors_of_line :
    (∀ (axis : Vec3 Float) (site : Latitude Float),
        (Scalar.isZero axis.z = false → ∀ e, ofAxis? axis.neg site = .ok e ↔ ofAxis? axis site = .ok e) ∧
        ∀ latitude, site.checked = .ok latitude → axis.checkDetermined = .ok axis →
          ∃ e e', ofAxis? axis site = .ok e ∧ ofAxis? axis.neg site = .ok e' ∧ e'.errors.total = e.errors.total) ∧
      (∀ (axis : Vec3 ℝ) (latitude : ℝ), axis ≠ zero → |latitude| ≤ 90 →
        ∃ e e', ofAxis? axis (.degrees latitude) = .ok e ∧ ofAxis? axis.neg (.degrees latitude) = .ok e' ∧
          e'.errors.total = e.errors.total ∧ (axis.z ≠ 0 → e' = e)) ∧
      ∀ (s : Samples ℝ) (n : Vec3 ℝ) (latitude : ℝ), s.rotationAxis? = .ok n → n.z ≠ 0 → |latitude| ≤ 90 →
        ∃ e, ofAxis? n (.degrees latitude) = .ok e ∧
          ∀ s' : Samples ℝ, s'.toList.Perm s.toList → ∀ north notices,
            (Run.ofReport notices s' (some latitude) north).lines.filter ReportLine.isPolarError =
              [.polarError e.errors, .polarErrorArcseconds e.errors.toArcseconds] := by
  refine ⟨fun axis site => ⟨fun hz e => ofAxis?_neg_iff hz, fun latitude hsite haxis => ?_⟩, ?_, ?_⟩
  · obtain ⟨-, hfinite, hlength⟩ := checkDetermined_ok_iff.1 haxis
    have he : ofAxis? axis site = .ok (ofAxis axis latitude) :=
      ofAxis?_ok_iff.2 ⟨latitude, hsite, hfinite, hlength, rfl⟩
    obtain ⟨e', he', htotal, -⟩ := ofAxis?_neg he
    exact ⟨_, e', he, he', htotal⟩
  · intro axis latitude haxis hrange
    have he : ofAxis? axis (.degrees latitude) = .ok (ofAxis axis latitude) :=
      ofAxis?_ok_iff.2
        ⟨latitude, Latitude.checked_eq rfl hrange, rfl, isUndetermined_of_ne (dot_self_ne_zero haxis), rfl⟩
    obtain ⟨e', he', htotal, heq⟩ := ofAxis?_neg he
    exact ⟨_, e', he, he', htotal, fun hz => heq (Scalar.isZero_eq_false hz)⟩
  · intro s n latitude h hz hrange
    have hn : n.dot n = 1 := Samples.dot_self_axis h hz
    refine ⟨ofAxis n latitude, ofAxis?_eq hn rfl hrange, fun s' hperm north notices => ?_⟩
    obtain ⟨n', h', hor⟩ := Samples.rotationAxis?_perm hperm h
    rw [Run.polarErrorLines_eq notices h' (z_ne_zero_of_eq_or hor hz) hrange north,
      ofAxis_of_eq_or latitude rfl (Scalar.isZero_eq_false hz) hor]

/-- An axis on the equator and one off it in binary64; and the corner of the frame seen from 30 degrees south, found
from either end. -/
theorem PolarError.errors_of_line_south :
    (∀ e, ofAxis? (⟨0, 0.6, 0.8⟩ : Vec3 Float).neg (.degrees 40) = .ok e ↔
        ofAxis? ⟨0, 0.6, 0.8⟩ (.degrees 40) = .ok e) ∧
      (∃ e e', ofAxis? (⟨1, 0, 0⟩ : Vec3 Float) (.degrees (-30)) = .ok e ∧
        ofAxis? (⟨1, 0, 0⟩ : Vec3 Float).neg (.degrees (-30)) = .ok e' ∧ e'.errors.total = e.errors.total) ∧
      (∃ e, ofAxis? (⟨0, 3 / 5, 4 / 5⟩ : Vec3 ℝ) (.degrees (-30)) = .ok e ∧
        ofAxis? (⟨0, 3 / 5, 4 / 5⟩ : Vec3 ℝ).neg (.degrees (-30)) = .ok e) ∧
      ∃ e : PolarError ℝ, ∀ north,
        (Run.ofReport [] Samples.corner.reversed (some (-30)) north).lines.filter ReportLine.isPolarError =
          [.polarError e.errors, .polarErrorArcseconds e.errors.toArcseconds] := by
  have hrange : |(-30 : ℝ)| ≤ 90 := by
    rw [abs_neg]
    norm_num
  refine ⟨(errors_of_line.1 _ _).1 (by decide +kernel), ?_, ?_, ?_⟩
  · have hsite : (Latitude.degrees (-30 : Float)).checked = .ok (-30) := by
      have hinside : (Scalar.isFinite (-30 : Float) && Scalar.abs (-30 : Float) ≤ Scalar.ofNat 90) = true := by
        decide +kernel
      simp only [Latitude.checked, Latitude.inDegrees, bind, Except.bind, hinside, if_true]
    have haxis : (⟨1, 0, 0⟩ : Vec3 Float).checkDetermined = .ok ⟨1, 0, 0⟩ :=
      checkDetermined_ok_iff.2 ⟨rfl, by decide +kernel, by decide +kernel⟩
    exact (errors_of_line.1 _ _).2 _ hsite haxis
  · have haxis : (⟨0, 3 / 5, 4 / 5⟩ : Vec3 ℝ) ≠ zero := by
      rw [zero_eq]
      intro h
      have hz : (4 / 5 : ℝ) = 0 := congrArg Vec3.z h
      norm_num at hz
    obtain ⟨e, e', he, he', -, heq⟩ := errors_of_line.2.1 _ _ haxis hrange
    exact ⟨e, he, heq (by norm_num) ▸ he'⟩
  · have hz : (1 / √3 : ℝ) ≠ 0 := by positivity
    obtain ⟨e, -, h⟩ := errors_of_line.2.2 _ _ _ Samples.rotationAxis?_corner hz hrange
    exact ⟨e, fun north => h _ Samples.corner.reversed_perm north []⟩

end EquatorialMount
