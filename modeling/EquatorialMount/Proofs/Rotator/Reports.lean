import EquatorialMount.Proofs.Rotator.Flip

/-!
# Sides reported one after the other

What any number of reports makes of a converter can be told at once, whatever state it is in: the mount is on the last
side reported, the side of the calibration is the first known one among its own and those reported, and the flag says
what these two say (`performAll_reports`).  So a side is taken over for the calibration once at most, by a report
nobody can tell beforehand; from then on the last report alone counts, and it puts a flag right that was wrong.
-/

namespace EquatorialMount

variable {α ε σ ι : Type}

namespace PierSide

/-- The first known one of some sides; the unknown side if none of them is known. -/
def firstKnown (sides : List PierSide) : PierSide := (sides.find? isKnown).getD unknown

private theorem firstKnown_cons_of_known {side : PierSide} (h : side ≠ unknown) (rest : List PierSide) :
    firstKnown (side :: rest) = side := by
  rw [firstKnown, List.find?_cons_of_pos ((isKnown_iff side).2 h), Option.getD_some]

@[simp] theorem firstKnown_cons_unknown (rest : List PierSide) : firstKnown (unknown :: rest) = firstKnown rest := rfl

end PierSide

open PierSide

/-! ### The converter -/

namespace Converter

/-- The calibration side after a report stands for the one before it and the side reported. -/
private theorem firstKnown_reportSide (c : Converter α) (side : PierSide) (rest : List PierSide) :
    firstKnown ((c.reportSide side).calibrationSide :: rest) = firstKnown (c.calibrationSide :: side :: rest) := by
  by_cases hknown : c.calibrationSide = .unknown
  · have hside : (c.reportSide side).calibrationSide = side := by
      simp [reportSide, hknown, isKnown]
    rw [hside, hknown, firstKnown_cons_unknown]
  · rw [reportSide_of_known hknown, firstKnown_cons_of_known hknown, firstKnown_cons_of_known hknown]

private theorem reportSide_eq (c : Converter α) (side : PierSide) :
    c.reportSide side = { c with
      mountSide := side
      calibrationSide := firstKnown [c.calibrationSide, side]
      mountFlipped := side.flippedFrom (firstKnown [c.calibrationSide, side]) } := by
  have hside : (c.reportSide side).calibrationSide = firstKnown [c.calibrationSide, side] := by
    rw [← firstKnown_reportSide]
    cases (c.reportSide side).calibrationSide <;> rfl
  rw [← hside]
  rfl

/-- The induction is on the reports before the last one: each of them leaves a state of its own to go on from, of which
only the calibration side shows in the end. -/
private theorem foldl_reportSide (c : Converter α) (earlier : List PierSide) (last : PierSide) :
    (earlier ++ [last]).foldl reportSide c = { c with
      mountSide := last
      calibrationSide := firstKnown (c.calibrationSide :: (earlier ++ [last]))
      mountFlipped := last.flippedFrom (firstKnown (c.calibrationSide :: (earlier ++ [last]))) } := by
  induction earlier generalizing c with
  | nil => exact c.reportSide_eq last
  | cons side rest ih =>
    rw [List.cons_append, List.foldl_cons, ih, firstKnown_reportSide]
    rfl

end Converter

/-! ### Runs -/

namespace ControllerCall

/-- The reports of some sides to the converter, in turn. -/
def reports (sides : List PierSide) : List (ControllerCall α ι) := sides.map (converter <| .reportSide ·)

variable [Scalar α] [BEq ι] (w : Surroundings α ε σ ι)

private theorem state_performAll_reports (sides : List PierSide) (c : Controller α σ ι) :
    (performAll w (reports sides) c).2 = { c with converter := sides.foldl Converter.reportSide c.converter } := by
  induction sides generalizing c with
  | nil => rfl
  | cons side rest ih => exact ih { c with converter := c.converter.reportSide side }

private theorem performAll_reports_append (earlier : List PierSide) (last : PierSide) (c : Controller α σ ι) :
    performAll w (reports (earlier ++ [last])) c =
      ((performAll w (reports earlier) c).1 ++
        [.ok (.flag ((earlier ++ [last]).foldl Converter.reportSide c.converter).mountFlipped)],
        { c with converter := (earlier ++ [last]).foldl Converter.reportSide c.converter }) := by
  have hreports : (reports (earlier ++ [last]) : List (ControllerCall α ι)) = reports earlier ++ reports [last] :=
    List.map_append
  rw [hreports, performAll_append, state_performAll_reports w earlier, List.foldl_append]
  rfl

/-- After some reports the mount is on the last side reported, the calibration is that of the first known side among
its own and those reported, the flag is what these two say and is what the last report answers, and nothing else has
changed.  If the calibration side was known before, any other reports that end with the same one come to the same; and
so do these from any other flag and mount side. -/
theorem performAll_reports (c : Controller α σ ι) (earlier : List PierSide) (last : PierSide) {calibration : PierSide}
    (hcal : firstKnown (c.converter.calibrationSide :: (earlier ++ [last])) = calibration) :
    ∃ answers now,
      performAll w (reports (earlier ++ [last])) c = (answers ++ [.ok (.flag now.converter.mountFlipped)], now) ∧
      now = { c with converter := { c.converter with
        mountSide := last, calibrationSide := calibration, mountFlipped := last.flippedFrom calibration } } ∧
      (c.converter.calibrationSide ≠ .unknown →
        ∀ others, (performAll w (reports (others ++ [last])) c).2 = now) ∧
      ∀ flipped side, (performAll w (reports (earlier ++ [last])) { c with
        converter := { c.converter with mountFlipped := flipped, mountSide := side } }).2 = now := by
  have hrun := performAll_reports_append w earlier last c
  rw [Converter.foldl_reportSide, hcal] at hrun
  refine ⟨_, _, hrun, rfl, fun hknown others => ?_, fun flipped side => ?_⟩
  · rw [firstKnown_cons_of_known hknown] at hcal
    rw [performAll_reports_append, Converter.foldl_reportSide, firstKnown_cons_of_known hknown, hcal]
  · rw [performAll_reports_append, Converter.foldl_reportSide, hcal]

/-- Every offset is kept, and nobody listens. -/
def unheard : Surroundings ℚ Unit (List ℚ) Nat := ⟨OffsetKeeper.recording, fun _ _ _ => [], 1⟩

/-- Flipped against no side at all, as only a flag that was set by hand can be. -/
def flippedByHand : Controller ℚ (List ℚ) Nat := ⟨⟨⟨10, true, .unknown, .east, .unknown⟩, []⟩, [], []⟩

/-- The second report is taken over for the calibration, and the third and the fourth do not show.  Later the mount is
taken to its old side and back without a trace. -/
theorem performAll_reports_west : ∃ answers now,
    performAll unheard (reports [.unknown, .west, .east, .unknown, .east]) flippedByHand =
        (answers ++ [.ok (.flag true)], now) ∧
      now = ⟨⟨⟨10, true, .west, .east, .east⟩, []⟩, [], []⟩ ∧
      (performAll unheard (reports [.west, .unknown, .east]) now).2 = now := by
  obtain ⟨answers, now, hrun, rfl, -, -⟩ := performAll_reports unheard flippedByHand
    [.unknown, .west, .east, .unknown] .east (show firstKnown _ = .west from rfl)
  obtain ⟨_, again, -, hagain, hothers, -⟩ := performAll_reports unheard
    ⟨⟨⟨10, true, .west, .east, .east⟩, []⟩, [], []⟩ [] .east (show firstKnown _ = .west from rfl)
  exact ⟨answers, _, hrun, rfl, (hothers (by decide) [.west, .unknown]).trans hagain⟩

end ControllerCall

end EquatorialMount
