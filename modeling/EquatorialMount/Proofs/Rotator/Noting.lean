import EquatorialMount.Proofs.Rotator.Notification
import EquatorialMount.Rotator.Call

/-!
# Keepers that take notes

A run leaves behind what its keeper made of the offsets, which need not tell what offsets it was given.  A keeper that
notes each of them as well tells it, and otherwise the run is the same: with the notes forgotten, every call answers
and leaves behind what it does with the keeper that takes none (`performAll_noting`).
-/

namespace EquatorialMount

variable {α ε σ τ ι : Type}

/-- Keeps offsets as another keeper does, and notes each one it is given, the latest last. -/
def OffsetKeeper.noting (keep : OffsetKeeper ε σ α) : OffsetKeeper ε (σ × List α) α := fun offset (s, given) =>
  let (answer, s) := keep offset s
  (answer, s, given ++ [offset])

/-- The same surroundings, with notes taken of the offsets. -/
def Surroundings.noting (w : Surroundings α ε σ ι) : Surroundings α ε (σ × List α) ι :=
  ⟨w.keep.noting, w.behaviour, w.depth⟩

def Calibrated.mapKept (f : σ → τ) (s : Calibrated α σ) : Calibrated α τ := ⟨s.converter, f s.kept⟩

def Controller.mapKept (f : σ → τ) (c : Controller α σ ι) : Controller α τ ι :=
  ⟨c.toCalibrated.mapKept f, c.listeners, c.delivered⟩

/-! ### Notifications -/

namespace Controller

variable [BEq ι] (behaviour : Behaviour ι) (f : σ → τ)

private theorem react_mapKept
    {report : PierSide → Controller α σ ι → Outcome (NotificationError ι) (Controller α σ ι) Unit}
    {report' : PierSide → Controller α τ ι → Outcome (NotificationError ι) (Controller α τ ι) Unit}
    (hreport : ∀ side c, report' side (c.mapKept f) = (report side c).map id (mapKept f)) (l : ι)
    (reactions : List (Reaction ι)) (c : Controller α σ ι) :
    react report' l reactions (c.mapKept f) = (react report l reactions c).map id (mapKept f) := by
  induction reactions generalizing c with
  | nil => rfl
  | cons reaction rest ih =>
    cases reaction with
    | add m => exact ih (c.addListener m)
    | remove m => exact ih (c.removeListener m)
    | fail => rfl
    | report side =>
      rw [react_report, react_report, hreport]
      obtain ⟨answer, d⟩ := report side c
      cases answer with
      | ok _ => exact ih d
      | error _ => rfl

private theorem deliver_mapKept
    {report : PierSide → Controller α σ ι → Outcome (NotificationError ι) (Controller α σ ι) Unit}
    {report' : PierSide → Controller α τ ι → Outcome (NotificationError ι) (Controller α τ ι) Unit}
    (hreport : ∀ side c, report' side (c.mapKept f) = (report side c).map id (mapKept f)) (side : PierSide)
    (listeners : List ι) (c : Controller α σ ι) :
    deliver behaviour report' side listeners (c.mapKept f) =
      (deliver behaviour report side listeners c).map id (mapKept f) := by
  induction listeners generalizing c with
  | nil => rfl
  | cons l rest ih =>
    have hreact : react report' l (behaviour (c.mapKept f).delivered l side) ((c.mapKept f).tell l side) = _ :=
      react_mapKept f hreport l (behaviour c.delivered l side) (c.tell l side)
    rw [deliver_cons, deliver_cons, hreact]
    obtain ⟨answer, d⟩ := react report l (behaviour c.delivered l side) (c.tell l side)
    cases answer with
    | ok _ => exact ih d
    | error _ => rfl

private theorem sideChanged_mapKept (depth : Nat) (side : PierSide) (c : Controller α σ ι) :
    (c.mapKept f).sideChanged behaviour depth side = (c.sideChanged behaviour depth side).map id (mapKept f) := by
  induction depth generalizing side c with
  | zero => rfl
  | succ depth ih => exact deliver_mapKept behaviour f ih side c.listeners (c.setConverter (·.reportSide side))

end Controller

/-! ### Runs -/

variable [Scalar α]

namespace Calibrated

variable (keep : OffsetKeeper ε σ α) (s : Calibrated α (σ × List α))

private theorem recalibrate_noting (o : α) (side : Option PierSide) :
    (s.mapKept Prod.fst).recalibrate keep o side = (s.recalibrate keep.noting o side).map id (mapKept Prod.fst) := by
  unfold recalibrate
  cases Angle.checkFinite .newOffset o <;> rfl

private theorem calibrate_noting (a p : α) :
    (s.mapKept Prod.fst).calibrate keep a p = (s.calibrate keep.noting a p).map id (mapKept Prod.fst) := by
  unfold calibrate
  rw [show (s.mapKept Prod.fst).converter = s.converter from rfl]
  cases s.converter.offsetFor a p with
  | error _ => rfl
  | ok o =>
    simp only [recalibrate_noting]
    rfl

end Calibrated

private theorem ConverterCall.perform_noting (keep : OffsetKeeper ε σ α) (call : ConverterCall α)
    (s : Calibrated α (σ × List α)) :
    call.perform keep (s.mapKept Prod.fst) = (call.perform keep.noting s).map id (Calibrated.mapKept Prod.fst) := by
  cases call with
  | recalibrate o side =>
    simp only [perform, Calibrated.recalibrate_noting]
    rfl
  | calibrate a p =>
    simp only [perform, Calibrated.calibrate_noting]
    rfl
  | _ => rfl

namespace ControllerCall

variable [BEq ι] (w : Surroundings α ε σ ι)

private theorem perform_noting (call : ControllerCall α ι) (c : Controller α (σ × List α) ι) :
    call.perform w (c.mapKept Prod.fst) = (call.perform w.noting c).map id (Controller.mapKept Prod.fst) := by
  cases call with
  | converter call =>
    have hcall : call.perform w.keep (c.mapKept Prod.fst).toCalibrated = _ :=
      ConverterCall.perform_noting w.keep call c.toCalibrated
    simp only [perform, Controller.calibrated, hcall]
    rfl
  | sideChanged side =>
    simp only [perform, Controller.sideChanged_mapKept]
    rfl
  | addListener _ => rfl
  | removeListener _ => rfl

/-- Notes change nothing else of a run. -/
theorem performAll_noting (calls : List (ControllerCall α ι)) (c : Controller α (σ × List α) ι) :
    performAll w calls (c.mapKept Prod.fst) = (performAll w.noting calls c).map id (Controller.mapKept Prod.fst) := by
  induction calls generalizing c with
  | nil => rfl
  | cons call rest ih =>
    simp only [performAll, perform_noting, Prod.map_snd, ih]
    rfl

/-- Every run has its notes, whatever was noted before it. -/
theorem exists_performAll_noting (calls : List (ControllerCall α ι)) (c : Controller α σ ι) (notes : List α) :
    ∃ given, performAll w.noting calls (c.mapKept (·, notes)) =
      (performAll w calls c).map id (Controller.mapKept (·, given)) := by
  refine ⟨(performAll w.noting calls (c.mapKept (·, notes))).2.kept.2, ?_⟩
  rw [show performAll w calls c = _ from performAll_noting w calls (c.mapKept (·, notes))]
  rfl

end ControllerCall

end EquatorialMount
