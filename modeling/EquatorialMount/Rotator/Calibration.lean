import EquatorialMount.Outcome
import EquatorialMount.Rotator.Converter

/-!
# Calibrating a rotator

A calibration replaces the offset of the converter and then hands it to a keeper, which may store it and may fail.
The converter has its new offset by then, whatever the keeper does.  A call refused for its arguments changes nothing
and leaves the keeper alone.
-/

namespace EquatorialMount

/-- Keeps a new offset, given the keeper's own state. -/
abbrev OffsetKeeper (ε σ α : Type) := α → σ → Outcome ε σ Unit

/-- Why a calibration failed: for its arguments, or in the keeper. -/
inductive CalibrationError (α ε : Type)
  | angle (e : AngleError α)
  | keeper (e : ε)
deriving Repr, DecidableEq

/-- A converter and the state of the keeper of its offset. -/
structure Calibrated (α σ : Type) where
  converter : Converter α
  kept : σ
deriving Repr, DecidableEq

namespace OffsetKeeper

/-- Keeps nothing. -/
def absent {ε α : Type} : OffsetKeeper ε Unit α := fun _ s => (.ok (), s)

/-- Keeps every offset it is given, the latest one last. -/
def recording {ε α : Type} : OffsetKeeper ε (List α) α := fun offset s => (.ok (), s ++ [offset])

/-- Fails for one and the same reason each time. -/
def failing {ε σ α : Type} (reason : ε) : OffsetKeeper ε σ α := fun _ s => (.error reason, s)

end OffsetKeeper

namespace Calibrated

open Scalar

variable {α ε σ : Type} [Scalar α] (keep : OffsetKeeper ε σ α)

/-- Replaces the offset, and the calibration side if one is given, then has the offset kept. -/
def recalibrate (offset : α) (side : Option PierSide) (s : Calibrated α σ) :
    Outcome (CalibrationError α ε) (Calibrated α σ) Unit :=
  match Angle.checkFinite .newOffset offset with
  | .error e => (.error (.angle e), s)
  | .ok o =>
    let offset := Angle.signed o
    let (answer, kept) := keep offset s.kept
    let converter := { s.converter with offset, calibrationSide := side.getD s.converter.calibrationSide }
    (answer.mapError .keeper, { converter, kept })

/-- Calibrates from one rotator angle and the camera's position angle there, and answers the offset.  A converter with
no calibration side takes the side the mount is on. -/
def calibrate (rotatorAngle positionAngle : α) (s : Calibrated α σ) :
    Outcome (CalibrationError α ε) (Calibrated α σ) α :=
  match s.converter.offsetFor rotatorAngle positionAngle with
  | .error e => (.error (.angle e), s)
  | .ok offset =>
    let side := if s.converter.calibrationSide.isKnown then none else some s.converter.mountSide
    let (answer, s) := recalibrate keep offset side s
    (answer.map fun _ => offset, s)

end Calibrated

end EquatorialMount
