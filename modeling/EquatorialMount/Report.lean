import EquatorialMount.Horizontal

/-!
# The report on an axis

The report on three samples is a list of lines, each with the numbers it shows: the axis itself, and for a known
latitude where it points and how far it is from the pole.
-/

namespace EquatorialMount

open Scalar

inductive ReportLine (α : Type)
  | axis (v : Vec3 α)
  | hourAngle (degrees : α)
  | declination (degrees : α)
  | altitude (degrees : α)
  | azimuth (degrees : α)
  | polarError (degrees : ErrorTriple α)
  | polarErrorArcseconds (arcseconds : ErrorTriple α)
deriving Repr, DecidableEq

/-- A report as far as it goes: why it ends early, or whether there was an axis to report on. -/
structure Report (α : Type) where
  lines : List (ReportLine α)
  ending : Except (AxisError α) Bool

namespace Report

variable {α : Type} [Trig α]

/-- An axis and its angles; with `north`, those of its northern end. -/
def oriented (axis : Vec3 α) (north : Bool) : Vec3 α × AnglePair α :=
  let p := AnglePair.ofDirection axis
  if north && axis.z < zero then (p.opposite.direction, p.opposite) else (axis, p)

def axisLines (axis : Vec3 α) (p : AnglePair α) : List (ReportLine α) :=
  [.axis axis, .hourAngle p.primary, .declination p.secondary]

def siteLines (axis : Vec3 α) (latitude : α) : Except (AxisError α) (List (ReportLine α)) := do
  let horizontal ← HorizontalDirection.ofAxis? axis (.degrees latitude)
  let e ← PolarError.ofAxis? axis (.degrees latitude)
  return [.altitude horizontal.altitude, .azimuth horizontal.azimuth, .polarError e.errors,
    .polarErrorArcseconds e.errors.toArcseconds]

/-- The report on three samples. -/
def ofSamples (samples : Samples α) (latitude : Option α) (north : Bool) : Report α :=
  match samples.rotationAxis? with
  | .error e => ⟨[], .error e⟩
  | .ok axis =>
    if isUndetermined axis zero then ⟨[], .ok false⟩
    else
      let (axis, p) := oriented axis north
      match latitude with
      | none => ⟨axisLines axis p, .ok true⟩
      | some latitude =>
        match siteLines axis latitude with
        | .ok lines => ⟨axisLines axis p ++ lines, .ok true⟩
        | .error e => ⟨axisLines axis p, .error e⟩

end Report

end EquatorialMount
