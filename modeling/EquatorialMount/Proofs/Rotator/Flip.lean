import EquatorialMount.Proofs.Exact.Number
import EquatorialMount.Proofs.Rotator.Calibration
import EquatorialMount.Proofs.Rotator.Invariant

/-!
# The flip state follows the sides

Whether a mount is flipped can be told from the side it is on and the side of its calibration.  A converter keeps it as
a flag all the same, and its operations bring the flag up to date separately: each report sets it, and a calibration
that takes over the side of the mount leaves it alone, since no flip was assumed before.  So flag and sides agree after
every run in which neither the flag nor the calibration side is set by hand, and in such a run the calibration side is
taken over once at most (`mountFlipped_performAll`).
-/

namespace EquatorialMount

namespace PierSide

@[simp] theorem flippedFrom_self (side : PierSide) : side.flippedFrom side = false := by
  cases side <;> rfl

@[simp] theorem flippedFrom_unknown (side : PierSide) : side.flippedFrom unknown = false := by
  cases side <;> rfl

@[simp] theorem isKnown_iff (side : PierSide) : side.isKnown = true ↔ side ≠ unknown := by
  simp [isKnown]

private theorem flippedFrom_iff {side calibration : PierSide} :
    side.flippedFrom calibration = true ↔ side ≠ unknown ∧ calibration ≠ unknown ∧ side ≠ calibration := by
  simp [flippedFrom, and_assoc]

theorem flippedFrom_of_known {side calibration : PierSide} (hside : side ≠ unknown) (hcal : calibration ≠ unknown) :
    side.flippedFrom calibration = decide (side ≠ calibration) := by
  rw [← isKnown_iff] at hside hcal
  rw [flippedFrom, hside, hcal, Bool.true_and, Bool.true_and]

end PierSide

variable {α ε σ ι : Type}

/-- The flag of a converter says what its two sides say. -/
def Converter.Consistent (c : Converter α) : Prop :=
  c.mountFlipped = c.mountSide.flippedFrom c.calibrationSide

theorem Converter.reportSide_of_known {c : Converter α} (hknown : c.calibrationSide ≠ .unknown) (side : PierSide) :
    (c.reportSide side).calibrationSide = c.calibrationSide :=
  if_pos ((PierSide.isKnown_iff _).2 hknown)

variable [Scalar α]

namespace ConverterCall

/-- Calls that leave the flip state to the reported sides: neither the flag nor the calibration side is set by hand. -/
def followsSides : ConverterCall α → Bool
  | setMountFlipped _ | setCalibrationSide _ | recalibrate _ (some _) => false
  | _ => true

/-- Calls that only report a side or ask a question. -/
def keepsCalibration : ConverterCall α → Bool
  | setMountFlipped _ | setCalibrationSide _ | recalibrate _ _ | calibrate _ _ => false
  | _ => true

/-- Calls that leave the offset alone, and the calibration side if it is known: reports and questions, and the flag of
the mount and the side of an image set by hand. -/
def leavesCalibration : ConverterCall α → Bool
  | setCalibrationSide _ | recalibrate _ _ | calibrate _ _ => false
  | _ => true

omit [Scalar α] in
theorem keepsCalibration_eq (call : ConverterCall α) :
    call.keepsCalibration = (call.followsSides && call.leavesCalibration) := by
  cases call with
  | recalibrate _ side => cases side <;> rfl
  | _ => rfl

end ConverterCall

namespace Calibrated

omit [Scalar α] in
/-- A converter that takes the side of the mount over was not flipped, and against its own side the mount is not. -/
theorem flippedFrom_adoptedSide (c : Converter α) :
    c.mountSide.flippedFrom (adoptedSide c) = c.mountSide.flippedFrom c.calibrationSide := by
  unfold adoptedSide
  by_cases hknown : c.calibrationSide = .unknown
  · simp [hknown, PierSide.isKnown]
  · rw [if_pos ((PierSide.isKnown_iff _).2 hknown)]

omit [Scalar α] in
private theorem adoptedSide_of_known {c : Converter α} (h : c.calibrationSide ≠ .unknown) :
    adoptedSide c = c.calibrationSide := if_pos ((PierSide.isKnown_iff _).2 h)

variable (keep : OffsetKeeper ε σ α)

private theorem consistent_recalibrate {o : α} {s : Calibrated α σ} (hs : s.converter.Consistent) :
    (s.recalibrate keep o none).2.converter.Consistent := by
  obtain ⟨-, h⟩ | ⟨-, h⟩ := recalibrate_cases keep o none s
  · rwa [h]
  · rw [h]
    exact hs

theorem consistent_calibrate {a p : α} {s : Calibrated α σ} (hs : s.converter.Consistent) :
    (s.calibrate keep a p).2.converter.Consistent := by
  obtain ⟨-, e, h⟩ | ⟨o, -, -, h⟩ := calibrate_cases keep a p s
  · rwa [h]
  · rw [h]
    exact hs.trans (flippedFrom_adoptedSide s.converter).symm

end Calibrated

namespace ConverterCall

variable {keep : OffsetKeeper ε σ α} {call : ConverterCall α} {s : Calibrated α σ}

theorem perform_consistent (hcall : call.followsSides) (hs : s.converter.Consistent) :
    (call.perform keep s).2.converter.Consistent := by
  cases call with
  | reportSide side => rfl
  | setMountFlipped _ => cases hcall
  | setCalibrationSide _ => cases hcall
  | recalibrate o side =>
    cases side with
    | none => exact Calibrated.consistent_recalibrate keep hs
    | some _ => cases hcall
  | calibrate a p => exact Calibrated.consistent_calibrate keep hs
  | _ => exact hs

/-- A known calibration side stays: only an unknown one is taken over from a report or from the mount. -/
private theorem perform_calibrationSide (hcall : call.followsSides) (hknown : s.converter.calibrationSide ≠ .unknown) :
    (call.perform keep s).2.converter.calibrationSide = s.converter.calibrationSide := by
  cases call with
  | reportSide side => exact Converter.reportSide_of_known hknown side
  | setMountFlipped _ => cases hcall
  | setCalibrationSide _ => cases hcall
  | recalibrate o side =>
    cases side with
    | none =>
      show (s.recalibrate keep o none).2.converter.calibrationSide = _
      obtain ⟨-, h⟩ | ⟨-, h⟩ := Calibrated.recalibrate_cases keep o none s <;> rw [h]
      rfl
    | some _ => cases hcall
  | calibrate a p =>
    show (s.calibrate keep a p).2.converter.calibrationSide = _
    obtain ⟨-, e, h⟩ | ⟨o, -, -, h⟩ := Calibrated.calibrate_cases keep a p s <;> rw [h]
    exact Calibrated.adoptedSide_of_known hknown
  | _ => rfl

variable (keep) in
theorem perform_leavesCalibration (hcall : call.leavesCalibration) (hknown : s.converter.calibrationSide ≠ .unknown) :
    (call.perform keep s).2.converter.offset = s.converter.offset ∧
      (call.perform keep s).2.converter.calibrationSide = s.converter.calibrationSide := by
  cases call with
  | reportSide side => exact ⟨rfl, Converter.reportSide_of_known hknown side⟩
  | setCalibrationSide _ => cases hcall
  | recalibrate _ _ => cases hcall
  | calibrate _ _ => cases hcall
  | _ => exact ⟨rfl, rfl⟩

end ConverterCall

namespace Controller

theorem start_consistent {offset : α} {kept : σ} {side : PierSide} {calibrationSide : Option PierSide}
    {c : Controller α σ ι} (h : start offset kept side calibrationSide = .ok c) : c.converter.Consistent := by
  exact (start_eq_ok_iff.1 h).2 ▸ rfl

end Controller

theorem ControllerCall.performAll_consistent [BEq ι] {w : Surroundings α ε σ ι} {calls : List (ControllerCall α ι)}
    (hcalls : ∀ call ∈ calls, call.within ConverterCall.followsSides) {c : Controller α σ ι}
    (hc : c.converter.Consistent) : (performAll w calls c).2.converter.Consistent :=
  performAll_invariant (P := fun s => s.converter.Consistent) (fun _ => rfl)
    (fun _ _ hcall hs => ConverterCall.perform_consistent hcall hs) hcalls hc

namespace ControllerCall

private theorem performAll_calibrationSide [BEq ι] {w : Surroundings α ε σ ι} {calls : List (ControllerCall α ι)}
    (hcalls : ∀ call ∈ calls, call.within ConverterCall.followsSides) {c : Controller α σ ι}
    (hknown : c.converter.calibrationSide ≠ .unknown) :
    (performAll w calls c).2.converter.calibrationSide = c.converter.calibrationSide := by
  refine performAll_invariant (P := fun s => s.converter.calibrationSide = c.converter.calibrationSide)
    (fun _ => rfl) (fun call s hcall hs => ?_) hcalls rfl
  rw [ConverterCall.perform_calibrationSide hcall (hs ▸ hknown), hs]

/-- In every state `c` that a run from the start reaches, whether or not its calls failed, the flag says what the two
sides say: the mount is flipped exactly if both sides are known and differ, so never while there is no calibration side.
In every later state the calibration side is the one of `c` if that is known. -/
theorem mountFlipped_performAll [BEq ι] (w : Surroundings α ε σ ι) {offset : α} {kept : σ} {side : PierSide}
    {calibrationSide : Option PierSide} {start c now : Controller α σ ι} (calls later : List (ControllerCall α ι))
    (hstart : Controller.start offset kept side calibrationSide = .ok start)
    (hcalls : ∀ call ∈ calls, call.within ConverterCall.followsSides) (hc : (performAll w calls start).2 = c)
    (hlater : ∀ call ∈ later, call.within ConverterCall.followsSides) (hnow : (performAll w later c).2 = now) :
    c.converter.mountFlipped = c.converter.mountSide.flippedFrom c.converter.calibrationSide ∧
      (c.converter.mountFlipped = true ↔ c.converter.mountSide ≠ .unknown ∧ c.converter.calibrationSide ≠ .unknown ∧
        c.converter.mountSide ≠ c.converter.calibrationSide) ∧
      (c.converter.calibrationSide = .unknown → c.converter.mountFlipped = false) ∧
      (c.converter.calibrationSide ≠ .unknown → now.converter.calibrationSide = c.converter.calibrationSide) := by
  have hcons : c.converter.mountFlipped = c.converter.mountSide.flippedFrom c.converter.calibrationSide :=
    hc ▸ performAll_consistent hcalls (Controller.start_consistent hstart)
  refine ⟨hcons, ?_, fun hunknown => ?_, fun hknown => ?_⟩
  · rw [hcons]
    exact PierSide.flippedFrom_iff
  · rw [hcons, hunknown]
    exact PierSide.flippedFrom_unknown _
  · rw [← hnow]
    exact performAll_calibrationSide hlater hknown

/-- No offset can be kept, and each listener fails. -/
def failingThroughout : Surroundings ℚ Unit Unit Nat where
  keep := OffsetKeeper.failing ()
  behaviour := fun _ _ _ => [.fail]
  depth := 2

/-- Started on an unknown side: the first report is taken over though its listener fails, and the next one flips. -/
theorem mountFlipped_performAll_adopted : ∃ start c now : Controller ℚ Unit Nat,
    Controller.start 10 () .unknown none = .ok start ∧
      (performAll failingThroughout [addListener 7, sideChanged .west, converter (.calibrate 30 40),
        sideChanged .east] start).2 = c ∧
      (performAll failingThroughout [sideChanged .unknown, converter (.recalibrate 5 none)] c).2 = now ∧
      c.converter.mountFlipped = true ∧ now.converter.calibrationSide = .west := by
  refine ⟨_, _, _, rfl, rfl, rfl, ?_⟩
  have h := mountFlipped_performAll failingThroughout [addListener 7, sideChanged .west,
    converter (.calibrate 30 40), sideChanged .east] [sideChanged .unknown, converter (.recalibrate 5 none)]
    (rfl : (Controller.start 10 () .unknown none : Except _ (Controller ℚ Unit Nat)) = .ok _)
    (by decide) rfl (by decide) rfl
  exact ⟨h.2.1.2 (by decide), h.2.2.2 (by decide)⟩

end ControllerCall

end EquatorialMount
