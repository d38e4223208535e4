import EquatorialMount.Rotator.Call

/-!
# Invariants of a rotator

A notification reaches the converter only through reported sides, however often the listeners report further sides from
within and whether or not one of them fails.  So what every call to a converter keeps, of a class of calls that has the
reports of sides in it, is kept by every call to a controller (`perform_invariant`) and by every run of calls
(`performAll_invariant`), for any numbers and any keeper of offsets.
-/

namespace EquatorialMount

variable {α ε σ ι : Type}

/-! ### The start -/

open Angle Scalar in
theorem Controller.start_eq_ok_iff [Scalar α] {offset : α} {kept : σ} {side : PierSide}
    {calibrationSide : Option PierSide} {c : Controller α σ ι} :
    start offset kept side calibrationSide = .ok c ↔ isFinite offset = true ∧
      c = ⟨⟨⟨signed offset, side.flippedFrom (calibrationSide.getD side), calibrationSide.getD side, .unknown, side⟩,
        kept⟩, [], []⟩ := by
  unfold start Converter.ofOffset checkFinite
  cases isFinite offset <;> simp [bind, Except.bind, pure, Except.pure, eq_comm]

/-! ### Notifications -/

namespace Controller

variable {P : Calibrated α σ → Prop} [BEq ι] (behaviour : Behaviour ι)

private theorem react_invariant
    {report : PierSide → Controller α σ ι → Outcome (NotificationError ι) (Controller α σ ι) Unit}
    (hreport : ∀ side c, P c.toCalibrated → P (report side c).2.toCalibrated) (l : ι)
    (reactions : List (Reaction ι)) (c : Controller α σ ι) (hc : P c.toCalibrated) :
    P (react report l reactions c).2.toCalibrated := by
  induction reactions generalizing c with
  | nil => exact hc
  | cons reaction rest ih =>
    cases reaction with
    | add _ => exact ih _ hc
    | remove _ => exact ih _ hc
    | fail => exact hc
    | report side =>
      have hside := hreport side c hc
      unfold react
      split
      · rename_i heq
        rw [heq] at hside
        exact ih _ hside
      · rename_i heq
        rw [heq] at hside
        exact hside

private theorem deliver_invariant
    {report : PierSide → Controller α σ ι → Outcome (NotificationError ι) (Controller α σ ι) Unit}
    (hreport : ∀ side c, P c.toCalibrated → P (report side c).2.toCalibrated) (side : PierSide)
    (listeners : List ι) (c : Controller α σ ι) (hc : P c.toCalibrated) :
    P (deliver behaviour report side listeners c).2.toCalibrated := by
  induction listeners generalizing c with
  | nil => exact hc
  | cons l rest ih =>
    have hreact := react_invariant hreport l (behaviour c.delivered l side)
      { c with delivered := c.delivered ++ [(l, side)] } hc
    unfold deliver
    simp only
    split
    · rename_i heq
      rw [heq] at hreact
      exact ih _ hreact
    · rename_i heq
      rw [heq] at hreact
      exact hreact

/-- The induction is on the depth: each report from within goes one less deep. -/
theorem sideChanged_invariant
    (hside : ∀ side s, P s → P { s with converter := s.converter.reportSide side })
    (depth : Nat) (side : PierSide) (c : Controller α σ ι) (hc : P c.toCalibrated) :
    P (c.sideChanged behaviour depth side).2.toCalibrated := by
  induction depth generalizing side c with
  | zero => exact hc
  | succ depth ih =>
    exact deliver_invariant behaviour (fun side c => ih side c) side c.listeners _ (hside side _ hc)

end Controller

/-! ### Runs -/

namespace ControllerCall

theorem performAll_append [Scalar α] [BEq ι] (w : Surroundings α ε σ ι) (before after : List (ControllerCall α ι))
    (c : Controller α σ ι) :
    performAll w (before ++ after) c =
      ((performAll w before c).1 ++ (performAll w after (performAll w before c).2).1,
        (performAll w after (performAll w before c).2).2) := by
  induction before generalizing c with
  | nil => rfl
  | cons call rest ih => simp [performAll, ih]

/-- A call of the controller's own, or one of a class of calls to its converter. -/
def within (allowed : ConverterCall α → Bool) : ControllerCall α ι → Bool
  | converter call => allowed call
  | _ => true

@[simp] theorem within_true (call : ControllerCall α ι) : call.within fun _ => true := by
  cases call <;> rfl

variable [Scalar α] [BEq ι] {w : Surroundings α ε σ ι} {P : Calibrated α σ → Prop} {allowed : ConverterCall α → Bool}

theorem perform_invariant (hreport : ∀ side, allowed (.reportSide side))
    (step : ∀ call s, allowed call → P s → P (call.perform w.keep s).2) {call : ControllerCall α ι}
    (hcall : call.within allowed) {c : Controller α σ ι} (hc : P c.toCalibrated) :
    P (call.perform w c).2.toCalibrated := by
  cases call with
  | converter call => exact step call _ hcall hc
  | sideChanged side =>
    exact Controller.sideChanged_invariant w.behaviour (fun side s hs => step _ s (hreport side) hs) w.depth side c hc
  | addListener _ => exact hc
  | removeListener _ => exact hc

theorem performAll_invariant (hreport : ∀ side, allowed (.reportSide side))
    (step : ∀ call s, allowed call → P s → P (call.perform w.keep s).2) {calls : List (ControllerCall α ι)}
    (hcalls : ∀ call ∈ calls, call.within allowed) {c : Controller α σ ι} (hc : P c.toCalibrated) :
    P (performAll w calls c).2.toCalibrated := by
  induction calls generalizing c with
  | nil => exact hc
  | cons call rest ih =>
    exact ih (fun call h => hcalls call (List.mem_cons_of_mem _ h))
      (perform_invariant hreport step (hcalls call List.mem_cons_self) hc)

end ControllerCall

end EquatorialMount
