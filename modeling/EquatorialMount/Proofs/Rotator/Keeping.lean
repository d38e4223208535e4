import EquatorialMount.Proofs.Rotator.Calibration
import EquatorialMount.Proofs.Rotator.Invariant

/-!
# When the keeper is called

A calibration that is not refused for its numbers hands its offset to the keeper, once, and has it whatever the keeper
answers; the keeper's refusal is the answer then.  No other call changes the offset or reaches the keeper.
-/

namespace EquatorialMount

open Angle Scalar

variable {α ε σ ι : Type}

/-- Calls that set the offset. -/
def ConverterCall.calibrates : ConverterCall α → Bool
  | recalibrate _ _ | calibrate _ _ => true
  | _ => false

/-- Calls that set the offset of a controller's converter. -/
def ControllerCall.calibrates : ControllerCall α ι → Bool
  | converter call => call.calibrates
  | _ => false

variable [Scalar α]

namespace ConverterCall

variable (keep : OffsetKeeper ε σ α) (call : ConverterCall α) (s : Calibrated α σ)

/-- Neither the offset nor the keeper's state has changed: a calibration was refused for its numbers, or it is another
call. -/
structure LeavesOffset : Prop where
  offset_eq : (call.perform keep s).2.converter.offset = s.converter.offset
  kept_eq : (call.perform keep s).2.kept = s.kept
  answer : (∃ e, (call.perform keep s).1 = .error (.angle e)) ∨
    call.calibrates = false ∧ ∃ a, (call.perform keep s).1 = .ok a

/-- The converter has this offset, and the keeper was given it and has the say on the answer. -/
structure HandsOver (offset : α) : Prop where
  calibrates : call.calibrates
  offset_eq : (call.perform keep s).2.converter.offset = offset
  kept_eq : (call.perform keep s).2.kept = (keep offset s.kept).2
  answer : (keep offset s.kept).1 = .ok () ∧ (∃ a, (call.perform keep s).1 = .ok a) ∨
    ∃ e, (keep offset s.kept).1 = .error e ∧ (call.perform keep s).1 = .error (.keeper e)

theorem leavesOffset_or_handsOver :
    call.LeavesOffset keep s ∨ ∃ o, isFinite o = true ∧ call.HandsOver keep s (signed o) := by
  -- a question has an answer or is refused for its numbers
  have hquestion (x : Except (AngleError α) α) : (∃ e, (answering (ε := ε) x s).1 = .error (.angle e)) ∨
      ∃ a, (answering (ε := ε) x s).1 = .ok a := by
    cases x with
    | error e => exact .inl ⟨e, rfl⟩
    | ok y => exact .inr ⟨_, rfl⟩
  cases call with
  | positionAngle a flipped => exact .inl ⟨rfl, rfl, (hquestion _).imp_right fun h => ⟨rfl, h⟩⟩
  | rotatorAngle p => exact .inl ⟨rfl, rfl, (hquestion _).imp_right fun h => ⟨rfl, h⟩⟩
  | offsetFor a p => exact .inl ⟨rfl, rfl, (hquestion _).imp_right fun h => ⟨rfl, h⟩⟩
  | shortestDifference x => exact .inl ⟨rfl, rfl, (hquestion _).imp_right fun h => ⟨rfl, h⟩⟩
  | recalibrate o side =>
    have hanswer : ((recalibrate o side).perform keep s).1 = (s.recalibrate keep o side).1.map fun _ => .done := rfl
    obtain ⟨-, h⟩ | ⟨hfin, h⟩ := Calibrated.recalibrate_cases keep o side s
    · rw [h] at hanswer
      exact .inl ⟨by simp [perform, h], by simp [perform, h], .inl ⟨_, hanswer⟩⟩
    · refine .inr ⟨o, hfin, rfl, by simp [perform, h], by simp [perform, h], ?_⟩
      rw [h] at hanswer
      cases hkeep : (keep (signed o) s.kept).1 with
      | ok _ => exact .inl ⟨rfl, _, by rw [hanswer, hkeep]; rfl⟩
      | error e => exact .inr ⟨e, rfl, by rw [hanswer, hkeep]; rfl⟩
  | calibrate a p =>
    have hanswer : ((calibrate a p).perform keep s).1 = (s.calibrate keep a p).1.map .angle := rfl
    obtain ⟨-, e, h⟩ | ⟨o, -, hfin, h⟩ := Calibrated.calibrate_cases keep a p s
    · rw [h] at hanswer
      exact .inl ⟨by simp [perform, h], by simp [perform, h], .inl ⟨_, hanswer⟩⟩
    · refine .inr ⟨o, hfin, rfl, by simp [perform, h], by simp [perform, h], ?_⟩
      rw [h] at hanswer
      cases hkeep : (keep (signed o) s.kept).1 with
      | ok _ => exact .inl ⟨rfl, _, by rw [hanswer, hkeep]; rfl⟩
      | error e => exact .inr ⟨e, rfl, by rw [hanswer, hkeep]; rfl⟩
  | _ => exact .inl ⟨rfl, rfl, .inr ⟨rfl, _, rfl⟩⟩

variable {call s}

theorem handsOver_of_calibrates (hcall : call.calibrates) (hanswer : ∀ e, (call.perform keep s).1 ≠ .error (.angle e)) :
    ∃ o, isFinite o = true ∧ call.HandsOver keep s (signed o) := by
  obtain h | h := leavesOffset_or_handsOver keep call s
  · obtain ⟨e, he⟩ | ⟨hno, -⟩ := h.answer
    · exact absurd he (hanswer e)
    · exact absurd hcall (by simp [hno])
  · exact h

end ConverterCall

end EquatorialMount
