import EquatorialMount.Proofs.Rotator.Conversion
import EquatorialMount.Proofs.Rotator.Flip

/-!
# What a calibrated rotator predicts

A calibration at a rotator angle fixes what the camera's position angle is at that rotator angle from then on: the
measured one while the mount is on the side of the measurement, and half a turn away from it on the other side.  The
offset was measured in the flip state of one moment and is read in that of another, so the two half turns meet:
together they say whether the mount has gone over to the other side in between (`flippedFrom_xor`).
-/

namespace EquatorialMount

open AddCommGroup Angle

/-- Two flips against one calibration side are a flip against each other; a mount on an unknown side counts as on the
side of the calibration. -/
theorem PierSide.flippedFrom_xor {side calibration now : PierSide} (hside : side ≠ unknown)
    (hcal : calibration ≠ unknown) :
    (side.flippedFrom calibration ^^ now.flippedFrom calibration) =
      if now = unknown then decide (side ≠ calibration) else decide (now ≠ side) := by
  revert hside hcal
  cases side <;> cases calibration <;> cases now <;> decide

namespace Converter

/-- A converter with this offset, taken on this side, whose flag is up to date. -/
structure Holds {α : Type} (offset : α) (side : PierSide) (c : Converter α) : Prop where
  consistent : c.Consistent
  offset_eq : c.offset = offset
  side_eq : c.calibrationSide = side

variable {K : Type} [Field K] [LinearOrder K] [FloorRing K] [IsStrictOrderedRing K]

/-- The position angle that an offset predicts which was solved from `a` and `p` with the mount on `side`. -/
theorem Holds.positionAngle_eq {c : Converter K} {o a p : K} {side calibration : PierSide} (h : c.Holds o calibration)
    (ho : o ≡ p - a - flipTurn (side.flippedFrom calibration) [PMOD 360]) :
    c.positionAngle a false =
      .ok (signed (p + flipTurn (side.flippedFrom calibration ^^ c.mountSide.flippedFrom calibration))) := by
  rw [Converter.positionAngle_eq, Bool.xor_false, h.consistent, h.offset_eq, h.side_eq]
  refine congrArg Except.ok (signed_inj.2 ?_)
  calc a + o + flipTurn (c.mountSide.flippedFrom calibration)
      ≡ a + (p - a - flipTurn (side.flippedFrom calibration)) + flipTurn (c.mountSide.flippedFrom calibration)
        [PMOD 360] := (ho.add_left a).add_right _
    _ = p + -flipTurn (side.flippedFrom calibration) + flipTurn (c.mountSide.flippedFrom calibration) := by ring
    _ ≡ p + flipTurn (side.flippedFrom calibration) + flipTurn (c.mountSide.flippedFrom calibration) [PMOD 360] :=
        ((flipTurn_modEq_neg _).symm.add_left p).add_right _
    _ = p + (flipTurn (side.flippedFrom calibration) + flipTurn (c.mountSide.flippedFrom calibration)) := by ring
    _ ≡ p + flipTurn (side.flippedFrom calibration ^^ c.mountSide.flippedFrom calibration) [PMOD 360] :=
        (flipTurn_add_flipTurn _ _).add_left p

end Converter

namespace ConverterCall

variable {α ε σ : Type} [Scalar α] {keep : OffsetKeeper ε σ α} {call : ConverterCall α} {s : Calibrated α σ}

private theorem perform_holds {offset : α} {side : PierSide} (hside : side ≠ .unknown) (hcall : call.keepsCalibration)
    (h : s.converter.Holds offset side) : (call.perform keep s).2.converter.Holds offset side := by
  rw [keepsCalibration_eq, Bool.and_eq_true] at hcall
  obtain ⟨hoffset, hstays⟩ := perform_leavesCalibration keep hcall.2 (h.side_eq ▸ hside)
  exact ⟨perform_consistent hcall.1 h.consistent, hoffset.trans h.offset_eq, hstays.trans h.side_eq⟩

end ConverterCall

namespace Calibrated

private theorem adoptedSide_ne_unknown {α : Type} {c : Converter α} (h : c.mountSide ≠ .unknown) :
    adoptedSide c ≠ .unknown := by
  unfold adoptedSide
  split
  · rename_i hknown
    exact (PierSide.isKnown_iff _).1 hknown
  · exact h

variable {ε σ K : Type} [Field K] [LinearOrder K] [FloorRing K] [IsStrictOrderedRing K] (keep : OffsetKeeper ε σ K)

private theorem calibrate_holds {s : Calibrated K σ} (hs : s.converter.Consistent) (a p : K) :
    (s.calibrate keep a p).2.converter.Holds (signed (p - a - flipTurn s.converter.mountFlipped))
      (adoptedSide s.converter) := by
  have hcons := consistent_calibrate keep (a := a) (p := p) hs
  obtain ⟨hfin, -⟩ | ⟨o, ho, -, h⟩ := calibrate_cases keep a p s
  · cases hfin _ (Converter.offsetFor_eq _ _ _)
  · rw [Converter.offsetFor_eq] at ho
    cases ho
    refine ⟨hcons, ?_, ?_⟩ <;> rw [h]
    exact signed_of_mem (signed_mem _)

end Calibrated

namespace ControllerCall

private theorem performAll_holds {α ε σ ι : Type} [Scalar α] [BEq ι] {w : Surroundings α ε σ ι} {offset : α}
    {side : PierSide} (hside : side ≠ .unknown) {calls : List (ControllerCall α ι)}
    (hcalls : ∀ call ∈ calls, call.within ConverterCall.keepsCalibration) {c : Controller α σ ι}
    (h : c.converter.Holds offset side) : (performAll w calls c).2.converter.Holds offset side :=
  performAll_invariant (P := fun s => s.converter.Holds offset side) (fun _ => rfl)
    (fun _ _ hcall hs => ConverterCall.perform_holds hside hcall hs) hcalls h

/-- The law of calibration: whatever happened to a controller since its start, after a calibration with the mount on a
known side the camera's position angle at the same rotator angle is the measured one whenever the mount is on that side,
and half a turn away from it whenever the mount is on the other one; on an unknown side the mount counts as on the side
of the calibration.  Whether the keeper has stored the offset makes no difference. -/
theorem positionAngle_after_calibrate {ε σ ι : Type} [BEq ι] (w : Surroundings ℚ ε σ ι) {offset : ℚ} {kept : σ}
    {side : PierSide} {calibrationSide : Option PierSide} {start c calibrated now : Controller ℚ σ ι}
    (before after : List (ControllerCall ℚ ι)) (a p : ℚ)
    (hstart : Controller.start offset kept side calibrationSide = .ok start)
    (hbefore : ∀ call ∈ before, call.within ConverterCall.followsSides)
    (hc : (performAll w before start).2 = c) (hknown : c.converter.mountSide ≠ .unknown)
    (hcal : ((converter (.calibrate a p)).perform w c).2 = calibrated)
    (hafter : ∀ call ∈ after, call.within ConverterCall.keepsCalibration)
    (hnow : (performAll w after calibrated).2 = now) :
    (now.converter.mountSide = c.converter.mountSide → now.converter.positionAngle a false = .ok (signed p)) ∧
      (now.converter.mountSide ≠ .unknown → now.converter.mountSide ≠ c.converter.mountSide →
        now.converter.positionAngle a false = .ok (signed (p + 180))) ∧
      (now.converter.mountSide = .unknown → now.converter.positionAngle a false =
        .ok (if c.converter.mountSide = now.converter.calibrationSide then signed p else signed (p + 180))) := by
  have hcons : c.converter.Consistent := hc ▸ performAll_consistent hbefore (Controller.start_consistent hstart)
  have hside : Calibrated.adoptedSide c.converter ≠ .unknown := Calibrated.adoptedSide_ne_unknown hknown
  have hholds : now.converter.Holds (signed (p - a - flipTurn c.converter.mountFlipped))
      (Calibrated.adoptedSide c.converter) := by
    rw [← hnow]
    refine performAll_holds hside hafter ?_
    rw [← hcal]
    exact Calibrated.calibrate_holds w.keep hcons a p
  -- the offset was solved in the flip state the calibration side tells
  have hflip : c.converter.mountFlipped = c.converter.mountSide.flippedFrom (Calibrated.adoptedSide c.converter) :=
    hcons.trans (Calibrated.flippedFrom_adoptedSide _).symm
  have hsolved : signed (p - a - flipTurn c.converter.mountFlipped) ≡
      p - a - flipTurn (c.converter.mountSide.flippedFrom (Calibrated.adoptedSide c.converter)) [PMOD 360] := by
    rw [← hflip]
    exact signed_modEq _
  have hangle := hholds.positionAngle_eq hsolved
  rw [PierSide.flippedFrom_xor hknown hside] at hangle
  rw [hangle, hholds.side_eq]
  refine ⟨fun h => ?_, fun h1 h2 => ?_, fun h => ?_⟩
  · simp [h, hknown, flipTurn]
  · simp [h1, h2, flipTurn]
  · by_cases heq : c.converter.mountSide = Calibrated.adoptedSide c.converter <;> simp [h, heq, flipTurn]

/-- Every offset is kept, and a listener that hears of an unknown side reports the east. -/
def guessingEast : Surroundings ℚ Unit (List ℚ) Nat where
  keep := OffsetKeeper.recording
  behaviour := fun _ _ side => if side = .unknown then [.report .east] else []
  depth := 2

/-- Calibrated in the west with the offset taken in the east, and back in the east by the report of a listener. -/
theorem positionAngle_after_calibrate_back : ∃ start c calibrated now : Controller ℚ (List ℚ) Nat,
    Controller.start 10 [] .east none = .ok start ∧
      (performAll guessingEast [sideChanged .west, addListener 7] start).2 = c ∧
      ((converter (.calibrate 30 (-140))).perform guessingEast c).2 = calibrated ∧
      (performAll guessingEast [converter (.setImageSide .west), sideChanged .unknown] calibrated).2 = now ∧
      now.converter.mountSide = .east ∧ now.converter.positionAngle 30 false = .ok 40 := by
  refine ⟨_, _, _, _, rfl, rfl, rfl, rfl, rfl, ?_⟩
  have hstart : (Controller.start 10 [] .east none : Except _ (Controller ℚ (List ℚ) Nat)) = .ok _ := rfl
  have h := (positionAngle_after_calibrate guessingEast [sideChanged .west, addListener 7]
    [converter (.setImageSide .west), sideChanged .unknown] 30 (-140) hstart (by decide) rfl (by decide) rfl
    (by decide) rfl).2.1 (by decide) (by decide)
  have hturn : signed (-140 + 180 : ℚ) = 40 := by
    rw [signed_of_mem] <;> norm_num
  rwa [hturn] at h

end ControllerCall

end EquatorialMount
