import EquatorialMount.Angle
import EquatorialMount.Sphere

/-!
# The axis over the horizon, and how far it is from the pole

A site's latitude turns the frame of hour angle and declination into altitude and azimuth (from north through east).
The polar error of an axis is its distance from the visible pole, as a whole and in altitude and azimuth.
-/

namespace EquatorialMount

open Scalar

/-- Units a latitude can come in; the last two are of another kind and convert to no angle. -/
inductive LatitudeUnit
  | degree
  | radian
  | arcminute
  | arcsecond
  | hourAngle
  | metre
  | second
deriving Repr, DecidableEq

inductive Latitude (α : Type)
  | degrees (x : α)
  | measured (value : α) (unit : LatitudeUnit)
deriving Repr, DecidableEq

/-- Where an axis points, in degrees. -/
structure HorizontalDirection (α : Type) where
  altitude : α
  azimuth : α
deriving Repr, DecidableEq

/-- Three errors in one unit. -/
structure ErrorTriple (α : Type) where
  altitude : α
  azimuth : α
  total : α
deriving Repr, DecidableEq

/-- The offset of an axis from the pole in degrees, and where the compared end of the axis points. -/
structure PolarError (α : Type) where
  errors : ErrorTriple α
  axis : HorizontalDirection α
deriving Repr, DecidableEq

variable {α : Type}

namespace LatitudeUnit

/-- How many degrees one unit is.  An hour angle goes through radians, with one rounding on either way. -/
def degreesPerUnit [Trig α] : LatitudeUnit → Except (AxisError α) α
  | degree => .ok one
  | radian => .ok Trig.degreesPerRadian
  | arcminute => .ok (one / Scalar.ofNat 60 : α)
  | arcsecond => .ok (one / Scalar.ofNat 3600 : α)
  | hourAngle => .ok (Scalar.ofNat 15 * Trig.radiansPerDegree * Trig.degreesPerRadian : α)
  | metre => .error (.latitudeUnit "m" "length")
  | second => .error (.latitudeUnit "s" "time")

end LatitudeUnit

namespace Latitude

variable [Trig α]

/-- The latitude in degrees, not yet checked to be one. -/
def inDegrees : Latitude α → Except (AxisError α) α
  | degrees x => .ok x
  | measured value unit => do return value * (← unit.degreesPerUnit)

/-- The latitude in degrees, within `[-90, 90]`. -/
def checked (latitude : Latitude α) : Except (AxisError α) α := do
  let x ← latitude.inDegrees
  if isFinite x && abs x ≤ ofNat 90 then .ok x else .error (.latitudeOutOfRange x)

end Latitude

namespace HorizontalDirection

variable [Trig α]

/-- Where a position points for a latitude in degrees. -/
def ofEquatorial (p : AnglePair α) (latitude : α) : HorizontalDirection α :=
  let lat := Trig.radians latitude
  let (h, dec) := p.toRadians
  let sinAltitude :=
    Trig.sin dec * Trig.sin lat + Trig.cos dec * Trig.cos lat * Trig.cos h
  let azimuth := Trig.atan2 (-Trig.cos dec * Trig.sin h)
    (Trig.sin dec * Trig.cos lat - Trig.cos dec * Trig.sin lat * Trig.cos h)
  ⟨Trig.degrees (Trig.asin (clamp (-one) one sinAltitude)), Angle.circular (Trig.degrees azimuth)⟩

def ofEquatorial? (p : AnglePair α) (latitude : Latitude α) :
    Except (AxisError α) (HorizontalDirection α) := do
  return ofEquatorial p (← latitude.checked)

/-- Where an axis points for a latitude in degrees. -/
def ofAxis (axis : Vec3 α) (latitude : α) : HorizontalDirection α :=
  ofEquatorial (.ofDirection axis) latitude

/-- As `ofAxis`; the axis is looked at before the latitude. -/
def ofAxis? (axis : Vec3 α) (latitude : Latitude α) : Except (AxisError α) (HorizontalDirection α) := do
  let v ← axis.checkDetermined
  ofEquatorial? (.ofDirection v) latitude

/-- As `ofAxis?`, for an axis in nested lists. -/
def ofNestedList? (axis : NestedList α) (latitude : Latitude α) :
    Except (AxisError α) (HorizontalDirection α) := do
  ofAxis? (← Vec3.ofNestedList "v" axis) latitude

end HorizontalDirection

namespace ErrorTriple

/-- Degrees as seconds of arc. -/
def toArcseconds [Scalar α] (e : ErrorTriple α) : ErrorTriple α :=
  ⟨e.altitude * ofNat 3600, e.azimuth * ofNat 3600, e.total * ofNat 3600⟩

end ErrorTriple

namespace PolarError

variable [Trig α]

/-- Plus one for a site whose visible pole is the northern one, the equator included, else minus one. -/
def hemisphere (latitude : α) : α := if zero ≤ latitude then one else -one

/-- The end of the axis on the side of the visible pole. -/
def visibleEnd (axis : Vec3 α) (latitude : α) : Vec3 α :=
  if axis.z * hemisphere latitude < zero then axis.neg else axis

/-- The polar error of an axis for a latitude in degrees.  The pole stands at altitude `|latitude|`, due north at a
northern site and due south at a southern one; the total is the angle between axis and pole in the frame of the
samples. -/
def ofAxis (axis : Vec3 α) (latitude : α) : PolarError α :=
  let v := visibleEnd axis latitude
  let horizontal := HorizontalDirection.ofAxis v latitude
  let poleAzimuth : α := if zero < hemisphere latitude then zero else halfTurn
  { errors :=
      { altitude := horizontal.altitude - abs latitude
        azimuth := Angle.signed (horizontal.azimuth - poleAzimuth)
        total := Trig.degrees (Trig.atan2 (Trig.hypot v.x v.y) (abs v.z)) }
    axis := horizontal }

/-- As `ofAxis`; the latitude is looked at before the axis. -/
def ofAxis? (axis : Vec3 α) (latitude : Latitude α) : Except (AxisError α) (PolarError α) := do
  let lat ← latitude.checked
  let v ← axis.checkDetermined
  return ofAxis v lat

/-- As `ofAxis?`, for an axis in nested lists. -/
def ofNestedList? (axis : NestedList α) (latitude : Latitude α) : Except (AxisError α) (PolarError α) := do
  let lat ← latitude.checked
  ofAxis? (← Vec3.ofNestedList "v" axis) (.degrees lat)

end PolarError

end EquatorialMount
