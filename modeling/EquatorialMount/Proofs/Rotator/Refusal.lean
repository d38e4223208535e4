import EquatorialMount.Proofs.Binary64.Angle
import EquatorialMount.Proofs.Rotator.Keeping

/-!
# Calibrations that are refused

A calibration checks its numbers before it changes anything, and a solved offset is checked once more: numbers that are
finite can be so large that their difference is not.  So the numbers alone decide whether it is refused.  If not, the
converter has its offset and its calibration side before the keeper is called, and what the keeper makes of the offset
shows in the answer only (`perform_refused_or_sets`).
-/

namespace EquatorialMount

open Angle Scalar

namespace ConverterCall

variable {α : Type} [Scalar α]

/-- A calibration that is not refused, with the offset and the calibration side it sets and the answer it gives once
the offset is kept. -/
inductive Sets (c : Converter α) : ConverterCall α → α → PierSide → Answer α → Prop
  | recalibrate {o : α} {side : Option PierSide} (hfin : isFinite o = true) :
      Sets c (recalibrate o side) (signed o) (side.getD c.calibrationSide) .done
  | calibrate {a p o : α} (ho : c.offsetFor a p = .ok o) (hfin : isFinite o = true) :
      Sets c (calibrate a p) o (if c.calibrationSide.isKnown then c.calibrationSide else c.mountSide) (.angle o)

end ConverterCall

namespace Converter

variable {α : Type} [Scalar α]

private theorem exists_of_offsetFor {c : Converter α} {a p o : α} (h : c.offsetFor a p = .ok o) :
    ∃ x, o = signed x := by
  unfold offsetFor at h
  obtain ⟨_, -, h⟩ := exists_of_bind_eq_ok h
  obtain ⟨_, -, h⟩ := exists_of_bind_eq_ok h
  cases h
  exact ⟨_, rfl⟩

/-- An offset that was solved for is in its range already, if it is a number. -/
private theorem signed_of_offsetFor {c : Converter Float} {a p o : Float} (h : c.offsetFor a p = .ok o)
    (hfin : isFinite o = true) : signed o = o := by
  obtain ⟨x, rfl⟩ := exists_of_offsetFor h
  exact Float64.signed_signed (Float64.isFinite_of_signed hfin)

end Converter

namespace ConverterCall

variable {c : Converter Float} {ε σ : Type} (keep : OffsetKeeper ε σ Float) (kept : σ)

/-- The error of a calibration that is refused depends on its numbers and on the converter only. -/
private theorem perform_of_not_sets {call : ConverterCall Float} (hcall : call.calibrates)
    (h : ∀ o side answer, ¬call.Sets c o side answer) :
    ∃ e, ∀ {ε σ : Type} (keep : OffsetKeeper ε σ Float) (kept : σ),
      call.perform keep ⟨c, kept⟩ = (.error (.angle e), ⟨c, kept⟩) := by
  have hrefused {o : Float} (hfin : isFinite o = false) {ε σ : Type} (keep : OffsetKeeper ε σ Float) (kept : σ)
      (side : Option PierSide) :
      Calibrated.recalibrate keep o side ⟨c, kept⟩ = (.error (.angle ⟨.newOffset, o⟩), ⟨c, kept⟩) := by
    simp only [Calibrated.recalibrate, checkFinite, hfin, Bool.false_eq_true, if_false]
  cases call with
  | recalibrate o side =>
    have hfin : isFinite o = false := Bool.eq_false_iff.2 fun hfin => h _ _ _ (.recalibrate hfin)
    refine ⟨⟨.newOffset, o⟩, fun keep kept => ?_⟩
    simp only [perform, hrefused hfin]
    rfl
  | calibrate a p =>
    cases ho : c.offsetFor a p with
    | error e =>
      refine ⟨e, fun keep kept => ?_⟩
      simp only [perform, Calibrated.calibrate, ho]
      rfl
    | ok o =>
      have hfin : isFinite o = false := Bool.eq_false_iff.2 fun hfin => h _ _ _ (.calibrate ho hfin)
      refine ⟨⟨.newOffset, o⟩, fun keep kept => ?_⟩
      simp only [perform, Calibrated.calibrate, ho, hrefused hfin]
      rfl
  | _ => cases hcall

private theorem perform_of_sets {call : ConverterCall Float} {o : Float} {side : PierSide} {answer : Answer Float}
    (h : call.Sets c o side answer) :
    call.perform keep ⟨c, kept⟩ = (((keep o kept).1.mapError .keeper).map fun _ => answer,
      ⟨{ c with offset := o, calibrationSide := side }, (keep o kept).2⟩) := by
  cases h with
  | recalibrate hfin =>
    rename_i o side
    obtain ⟨hno, -⟩ | ⟨-, h⟩ := Calibrated.recalibrate_cases keep o side ⟨c, kept⟩
    · cases hno.symm.trans hfin
    · simp only [perform, h]
  | calibrate ho hfin =>
    rename_i a p
    obtain ⟨hno, -⟩ | ⟨o', ho', -, h⟩ := Calibrated.calibrate_cases keep a p ⟨c, kept⟩
    · cases (hno _ ho).symm.trans hfin
    · cases ho.symm.trans ho'
      rw [Converter.signed_of_offsetFor ho hfin] at h
      simp only [perform, h, Calibrated.adoptedSide]
      cases (keep o kept).1 <;> rfl

/-- A calibration is refused for its numbers, and then the converter is what it was and the keeper has not been called;
or the converter has the new offset and the calibration side that goes with it and is otherwise what it was, the keeper
has been called once, with that offset, and if it fails its error is the answer.  Which of the two happens, and what
the converter is then, is the same for every keeper, one that fails and one that keeps nothing included. -/
theorem perform_refused_or_sets {call : ConverterCall Float} (hcall : call.calibrates) (c : Converter Float) :
    ((∀ o side answer, ¬call.Sets c o side answer) ∧
      ∃ e, ∀ {ε σ : Type} (keep : OffsetKeeper ε σ Float) (kept : σ),
        call.perform keep ⟨c, kept⟩ = (.error (.angle e), ⟨c, kept⟩)) ∨
    ∃ o side answer, call.Sets c o side answer ∧ ∀ {ε σ : Type} (keep : OffsetKeeper ε σ Float) (kept : σ),
      (call.perform keep ⟨c, kept⟩).2 = ⟨{ c with offset := o, calibrationSide := side }, (keep o kept).2⟩ ∧
        ((keep o kept).1 = .ok () → (call.perform keep ⟨c, kept⟩).1 = .ok answer) ∧
        ∀ e, (keep o kept).1 = .error e → (call.perform keep ⟨c, kept⟩).1 = .error (.keeper e) := by
  by_cases hsets : ∃ o side answer, call.Sets c o side answer
  · obtain ⟨o, side, answer, h⟩ := hsets
    refine .inr ⟨o, side, answer, h, fun keep kept => ?_⟩
    rw [perform_of_sets keep kept h]
    refine ⟨rfl, fun hok => ?_, fun e he => ?_⟩
    · rw [hok]
      rfl
    · rw [he]
      rfl
  · have hnone : ∀ o side answer, ¬call.Sets c o side answer := fun _ _ _ h => hsets ⟨_, _, _, h⟩
    exact .inl ⟨hnone, perform_of_not_sets hcall hnone⟩

/-- In the east, and not calibrated yet. -/
def uncalibrated : Converter Float := ⟨10, false, .unknown, .unknown, .east⟩

/-- A measurement whose two angles are too far apart for a difference, and one whose offset cannot be stored. -/
theorem perform_refused_or_sets_overflow :
    (∃ e, (calibrate (-1e308) 1.7e308).perform (.recording : OffsetKeeper Unit _ _) ⟨uncalibrated, [10]⟩ =
      (.error (.angle e), ⟨uncalibrated, [10]⟩)) ∧
    (calibrate 350 20).perform (.failing "full" : OffsetKeeper String Unit _) ⟨uncalibrated, ()⟩ =
      (.error (.keeper "full"), ⟨{ uncalibrated with offset := 30, calibrationSide := .east }, ()⟩) ∧
    ((calibrate 350 20).perform (.recording : OffsetKeeper Unit _ _) ⟨uncalibrated, [10]⟩).2 =
      ⟨{ uncalibrated with offset := 30, calibrationSide := .east }, [10, 30]⟩ := by
  constructor
  · have hnone {a p : Float} (h : (uncalibrated.offsetFor a p).toOption.map isFinite = some false) {o side answer} :
        ¬Sets uncalibrated (calibrate a p) o side answer := by
      intro hsets
      cases hsets with
      | calibrate ho hfin =>
        rw [ho] at h
        cases hfin.symm.trans (Option.some.inj h)
    have hcall : (calibrate (-1e308) 1.7e308).calibrates = true := rfl
    obtain ⟨-, e, h⟩ | ⟨o, side, answer, h, -⟩ := perform_refused_or_sets hcall uncalibrated
    · exact ⟨e, h _ _⟩
    · exact absurd h (hnone (by decide +kernel))
  · have hsolved : uncalibrated.offsetFor 350 20 = .ok 30 := by decide +kernel
    have hcall : (calibrate (350 : Float) 20).calibrates = true := rfl
    obtain ⟨h, -⟩ | ⟨o, side, answer, h, hall⟩ := perform_refused_or_sets hcall uncalibrated
    · exact absurd (.calibrate hsolved (by decide +kernel)) (h _ _ _)
    · cases h with
      | calibrate ho hfin =>
        cases hsolved.symm.trans ho
        obtain ⟨hstate, -, hanswer⟩ := hall (.failing "full" : OffsetKeeper String Unit Float) ()
        exact ⟨Prod.ext (hanswer "full" rfl) hstate, (hall (.recording : OffsetKeeper Unit _ _) [10]).1⟩

end ConverterCall

end EquatorialMount
