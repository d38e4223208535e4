import EquatorialMount.Rotator.Calibration

/-!
# What a calibration leaves behind

A calibration has two ways to end.  Either it is refused for its numbers, and then nothing has changed and the keeper
has not been called; or the converter has its new offset, and the calibration side that comes with it, and the keeper
has been called once, with that offset.  The keeper decides the answer then, but not the converter.
-/

namespace EquatorialMount

namespace Calibrated

open Angle Scalar

variable {α ε σ : Type} [Scalar α] (keep : OffsetKeeper ε σ α)

/-- The calibration side of a converter that takes the mount's side if it has none. -/
def adoptedSide (c : Converter α) : PierSide := if c.calibrationSide.isKnown then c.calibrationSide else c.mountSide

theorem recalibrate_cases (o : α) (side : Option PierSide) (s : Calibrated α σ) :
    (isFinite o = false ∧ s.recalibrate keep o side = (.error (.angle ⟨.newOffset, o⟩), s)) ∨
    (isFinite o = true ∧ s.recalibrate keep o side =
      ((keep (signed o) s.kept).1.mapError .keeper,
        ⟨{ s.converter with offset := signed o, calibrationSide := side.getD s.converter.calibrationSide },
          (keep (signed o) s.kept).2⟩)) := by
  cases h : isFinite o with
  | false => exact .inl ⟨rfl, by simp [recalibrate, checkFinite, h]⟩
  | true => exact .inr ⟨rfl, by simp [recalibrate, checkFinite, h]⟩

theorem calibrate_cases (a p : α) (s : Calibrated α σ) :
    ((∀ o, s.converter.offsetFor a p = .ok o → isFinite o = false) ∧
      ∃ e, s.calibrate keep a p = (.error (.angle e), s)) ∨
    ∃ o, s.converter.offsetFor a p = .ok o ∧ isFinite o = true ∧ s.calibrate keep a p =
      (((keep (signed o) s.kept).1.mapError .keeper).map fun _ => o,
        ⟨{ s.converter with offset := signed o, calibrationSide := adoptedSide s.converter },
          (keep (signed o) s.kept).2⟩) := by
  unfold calibrate
  cases ho : s.converter.offsetFor a p with
  | error e => exact .inl ⟨fun _ h => (by cases h), e, rfl⟩
  | ok o =>
    have hside : (if s.converter.calibrationSide.isKnown then none else some s.converter.mountSide).getD
        s.converter.calibrationSide = adoptedSide s.converter := by
      unfold adoptedSide
      split <;> rfl
    obtain ⟨hfin, h⟩ | ⟨hfin, h⟩ := recalibrate_cases keep o
      (if s.converter.calibrationSide.isKnown then none else some s.converter.mountSide) s
    · exact .inl ⟨fun _ h => (by cases h; exact hfin), _, by simp only [h]; rfl⟩
    · exact .inr ⟨o, rfl, hfin, by simp only [h, hside]⟩

end Calibrated

end EquatorialMount
