import EquatorialMount.Rotator.Controller

/-!
# Calls to a rotator

What can be asked of a converter and of a controller, as data.  A call leaves a state behind whether it answers or
fails, and the next one goes to that state, so a list of calls is a whole run of the rotator.
-/

namespace EquatorialMount

/-- A call to a converter that has a keeper for its offset. -/
inductive ConverterCall (α : Type)
  | positionAngle (rotatorAngle : α) (imageFlipped : Bool)
  | rotatorAngle (positionAngle : α)
  | offsetFor (rotatorAngle positionAngle : α)
  | shortestDifference (difference : α)
  | imageFlipped (side : Option PierSide)
  | reportSide (side : PierSide)
  | setMountFlipped (flipped : Bool)
  | setCalibrationSide (side : PierSide)
  | setImageSide (side : PierSide)
  | recalibrate (offset : α) (side : Option PierSide)
  | calibrate (rotatorAngle positionAngle : α)
deriving Repr, DecidableEq

/-- A call to a controller, or to its converter past the controller. -/
inductive ControllerCall (α ι : Type)
  | converter (call : ConverterCall α)
  /-- The mount reports its side, and the listeners are told. -/
  | sideChanged (side : PierSide)
  | addListener (listener : ι)
  | removeListener (listener : ι)
deriving Repr, DecidableEq

/-- What a call answers. -/
inductive Answer (α : Type)
  | done
  | angle (degrees : α)
  | flag (value : Bool)
deriving Repr, DecidableEq

/-- Why a call to a controller failed. -/
inductive CallError (α ε ι : Type)
  | calibration (e : CalibrationError α ε)
  | notification (e : NotificationError ι)
deriving Repr, DecidableEq

/-- What a controller works with: the keeper of its offset, what its listeners do, and how deep reports from within
reports may go. -/
structure Surroundings (α ε σ ι : Type) where
  keep : OffsetKeeper ε σ α
  behaviour : Behaviour ι
  depth : Nat

namespace ConverterCall

variable {α ε σ : Type} [Scalar α] (keep : OffsetKeeper ε σ α)

/-- A question about angles, which leaves the state as it is. -/
def answering (x : Except (AngleError α) α) (s : Calibrated α σ) :
    Outcome (CalibrationError α ε) (Calibrated α σ) (Answer α) :=
  ((x.map .angle).mapError .angle, s)

/-- A change of the converter alone. -/
def changing (c : Converter α) (s : Calibrated α σ) :
    Outcome (CalibrationError α ε) (Calibrated α σ) (Answer α) :=
  (.ok .done, { s with converter := c })

def perform (call : ConverterCall α) (s : Calibrated α σ) :
    Outcome (CalibrationError α ε) (Calibrated α σ) (Answer α) :=
  match call with
  | positionAngle a flipped => answering (s.converter.positionAngle a flipped) s
  | rotatorAngle p => answering (s.converter.rotatorAngle p) s
  | offsetFor a p => answering (s.converter.offsetFor a p) s
  | shortestDifference x => answering (Angle.shortestDifference x) s
  | imageFlipped side => (.ok (.flag (s.converter.imageFlipped side)), s)
  | reportSide side =>
    let c := s.converter.reportSide side
    (.ok (.flag c.mountFlipped), { s with converter := c })
  | setMountFlipped flipped => changing (s.converter.setMountFlipped flipped) s
  | setCalibrationSide side => changing (s.converter.setCalibrationSide side) s
  | setImageSide side => changing (s.converter.setImageSide side) s
  | recalibrate offset side =>
    let (answer, s) := s.recalibrate keep offset side
    (answer.map fun _ => .done, s)
  | calibrate a p =>
    let (answer, s) := s.calibrate keep a p
    (answer.map .angle, s)

end ConverterCall

namespace ControllerCall

variable {α ε σ ι : Type} [Scalar α] [BEq ι] (w : Surroundings α ε σ ι)

def perform (call : ControllerCall α ι) (c : Controller α σ ι) :
    Outcome (CallError α ε ι) (Controller α σ ι) (Answer α) :=
  match call with
  | converter call =>
    let (answer, c) := c.calibrated (call.perform w.keep)
    (answer.mapError .calibration, c)
  | sideChanged side =>
    let (answer, c) := c.sideChanged w.behaviour w.depth side
    ((answer.map fun _ => .done).mapError .notification, c)
  | addListener l => (.ok .done, c.addListener l)
  | removeListener l => (.ok .done, c.removeListener l)

/-- Makes calls one after the other, going on after one that fails: what each answers, and the state at the end. -/
def performAll : List (ControllerCall α ι) → Controller α σ ι →
    List (Except (CallError α ε ι) (Answer α)) × Controller α σ ι
  | [], c => ([], c)
  | call :: rest, c =>
    let (answer, c) := call.perform w c
    let (answers, c) := performAll rest c
    (answer :: answers, c)

end ControllerCall

end EquatorialMount
