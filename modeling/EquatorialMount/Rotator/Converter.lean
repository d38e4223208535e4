import EquatorialMount.Angle
import EquatorialMount.PierSide

/-!
# Rotator angles and camera position angles

The rotator counts its circular angle from a mark of its own; the camera's position angle is measured against the
sky.  Up to whole turns they differ by a calibrated offset, and by half a turn while the mount is on the other side
of the pier than at calibration.
-/

namespace EquatorialMount

/-- The calibration of one rotator and what is known of the mount under it. -/
structure Converter (α : Type) where
  /-- Position angle less rotator angle, on the side of the calibration. -/
  offset : α
  /-- The mount is on the other side of the pier than at calibration. -/
  mountFlipped : Bool
  calibrationSide : PierSide
  /-- Where the mount was when the latest image was taken. -/
  imageSide : PierSide
  mountSide : PierSide
deriving Repr, DecidableEq

namespace Converter

open Angle Scalar

variable {α : Type} [Scalar α]

/-- A converter for an offset, which is brought into `(-180, 180]`. -/
def ofOffset (offset : α) (mountFlipped : Bool) (calibrationSide mountSide : PierSide) :
    Except (AngleError α) (Converter α) := do
  let offset ← checkFinite .offset offset
  return ⟨signed offset, mountFlipped, calibrationSide, .unknown, mountSide⟩

/-- The camera's position angle at a rotator angle.  An image taken on the other side of the pier than the mount is on
now takes back, or adds, the half turn of a flip. -/
def positionAngle (c : Converter α) (rotatorAngle : α) (imageFlipped : Bool) : Except (AngleError α) α := do
  let a ← checkFinite .rotatorAngle rotatorAngle
  let p := fold a + c.offset
  let turned := if zero < p then p - halfTurn else p + halfTurn
  return signed (if c.mountFlipped ≠ imageFlipped then turned else p)

/-- The rotator angle that brings the camera to a position angle. -/
def rotatorAngle (c : Converter α) (positionAngle : α) : Except (AngleError α) α := do
  let p ← checkFinite .positionAngle positionAngle
  return circular ((if c.mountFlipped then p + halfTurn else p) - c.offset)

/-- The offset at which `positionAngle` answers the one angle for the other. -/
def offsetFor (c : Converter α) (rotatorAngle positionAngle : α) : Except (AngleError α) α := do
  let a ← checkFinite .rotatorAngle rotatorAngle
  let p ← checkFinite .positionAngle positionAngle
  let o := p - fold a
  return signed (if c.mountFlipped then o - halfTurn else o)

/-- Whether the position angle of an image taken on a side (if none is given, on the side of the latest image) needs
the half turn of a flip: never while that side or the side of the calibration is unknown. -/
def imageFlipped (c : Converter α) (side : Option PierSide) : Bool :=
  let s := side.getD c.imageSide
  s.isKnown && c.calibrationSide.isKnown && c.mountFlipped ≠ (s = c.calibrationSide)

/-- Takes the side the mount reports.  The first known side becomes that of the calibration if this has none. -/
def reportSide (c : Converter α) (side : PierSide) : Converter α :=
  let calibrationSide := if c.calibrationSide.isKnown then c.calibrationSide else side
  { c with mountSide := side, calibrationSide, mountFlipped := side.flippedFrom calibrationSide }

def setMountFlipped (c : Converter α) (flipped : Bool) : Converter α := { c with mountFlipped := flipped }

def setCalibrationSide (c : Converter α) (side : PierSide) : Converter α := { c with calibrationSide := side }

def setImageSide (c : Converter α) (side : PierSide) : Converter α := { c with imageSide := side }

end Converter

end EquatorialMount
