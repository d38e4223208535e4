import EquatorialMount.Rotator.Calibration

/-!
# The controller of one rotator

The controller is told of each side the mount reports, brings its converter up to date, and passes the side on to the
listeners that are registered at that moment: in the order of their registration, once for each, until one fails.
A listener answers with reactions, carried out at once: it may change the register, report a side itself or fail.
-/

namespace EquatorialMount

/-- What a listener does when it is told of a side. -/
inductive Reaction (ι : Type)
  | add (listener : ι)
  /-- Takes out the first registration of a listener, if it has any. -/
  | remove (listener : ι)
  | report (side : PierSide)
  | fail
deriving Repr, DecidableEq

/-- How listeners react, given what all of them were told before, the listener and the side it is told. -/
abbrev Behaviour (ι : Type) := List (ι × PierSide) → ι → PierSide → List (Reaction ι)

/-- Why passing on a side ended early. -/
inductive NotificationError (ι : Type)
  | listener (listener : ι)
  /-- Listeners went on reporting from within reports past the depth allowed. -/
  | tooDeep
deriving Repr, DecidableEq

structure Controller (α σ ι : Type) extends Calibrated α σ where
  listeners : List ι
  /-- Every side handed to a listener so far, the latest last. -/
  delivered : List (ι × PierSide)
deriving Repr

namespace Controller

variable {α ε σ ι : Type} [Scalar α]

/-- A controller that starts on a side, with the offset its keeper holds.  Without a calibration side of its own the
offset counts as taken on the side the mount is on. -/
def start (offset : α) (kept : σ) (side : PierSide) (calibrationSide : Option PierSide) :
    Except (AngleError α) (Controller α σ ι) := do
  let calibrationSide := calibrationSide.getD side
  let converter ← Converter.ofOffset offset (side.flippedFrom calibrationSide) calibrationSide side
  return { converter, kept, listeners := [], delivered := [] }

def setConverter (f : Converter α → Converter α) (c : Controller α σ ι) : Controller α σ ι :=
  { c with converter := f c.converter }

/-- Runs an operation on the converter and its keeper. -/
def calibrated {β : Type} (f : Calibrated α σ → Outcome ε (Calibrated α σ) β) (c : Controller α σ ι) :
    Outcome ε (Controller α σ ι) β :=
  let (answer, s) := f c.toCalibrated
  (answer, { c with toCalibrated := s })

def addListener (listener : ι) (c : Controller α σ ι) : Controller α σ ι :=
  { c with listeners := c.listeners ++ [listener] }

section Notification

variable [BEq ι] (behaviour : Behaviour ι)

def removeListener (listener : ι) (c : Controller α σ ι) : Controller α σ ι :=
  { c with listeners := c.listeners.erase listener }

/-- Carries out reactions in turn; `report` says what a report from within does. -/
def react (report : PierSide → Controller α σ ι → Outcome (NotificationError ι) (Controller α σ ι) Unit)
    (listener : ι) :
    List (Reaction ι) → Controller α σ ι → Outcome (NotificationError ι) (Controller α σ ι) Unit
  | [], c => (.ok (), c)
  | .add l :: rest, c => react report listener rest (c.addListener l)
  | .remove l :: rest, c => react report listener rest (c.removeListener l)
  | .report side :: rest, c =>
    match report side c with
    | (.ok (), c) => react report listener rest c
    | (.error e, c) => (.error e, c)
  | .fail :: _, c => (.error (.listener listener), c)

/-- Hands a side to each of some listeners in turn. -/
def deliver (report : PierSide → Controller α σ ι → Outcome (NotificationError ι) (Controller α σ ι) Unit)
    (side : PierSide) :
    List ι → Controller α σ ι → Outcome (NotificationError ι) (Controller α σ ι) Unit
  | [], c => (.ok (), c)
  | l :: rest, c =>
    let told := { c with delivered := c.delivered ++ [(l, side)] }
    match react report l (behaviour c.delivered l side) told with
    | (.ok (), c) => deliver report side rest c
    | (.error e, c) => (.error e, c)

/-- Takes a side the mount reports: the converter first, then the listeners registered at that moment.  Reports from
within reports may go `depth` deep. -/
def sideChanged : Nat → PierSide → Controller α σ ι → Outcome (NotificationError ι) (Controller α σ ι) Unit
  | 0, _, c => (.error .tooDeep, c)
  | depth + 1, side, c =>
    deliver behaviour (sideChanged depth) side c.listeners (c.setConverter (·.reportSide side))

end Notification

end Controller

end EquatorialMount
