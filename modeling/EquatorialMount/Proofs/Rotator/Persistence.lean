import EquatorialMount.Document.Format
import EquatorialMount.Proofs.Options.Store
import EquatorialMount.Proofs.Rotator.Keeping
import EquatorialMount.Proofs.Wrapping

/-!
# The converter and its store

The offset of a rotator is in three places: the converter has it, the options of the store have it, and the file has
the text of the options.  A calibration changes them one after the other and can fail at each step; a save can fail at
any time and succeed the next time.  Still the converter and the options never disagree but by whole turns, and not at
all once a calibration got to the store; and the file falls behind only when a save fails, until the next one that
succeeds (`storedOffset_performAll`).
-/

namespace EquatorialMount

open Angle Scalar

variable {α σ ι : Type} [Scalar α] [NumberReading α]

namespace Calibrated

/-- The options are those of this path, and their offset is the converter's up to whole turns. -/
structure InStep (path : Option Path) (s : Calibrated α (OptionStore α × σ)) : Prop where
  path_eq : s.kept.1.path = path
  own : s.kept.1.config.IsOwnMapping
  offset_eq : s.kept.1.offset.map signed = .ok s.converter.offset

/-- The offset of the options is the converter's. -/
structure Stored (s : Calibrated α (OptionStore α × σ)) : Prop where
  own : s.kept.1.config.IsOwnMapping
  offset_eq : s.kept.1.offset = .ok s.converter.offset

end Calibrated

namespace ConverterCall

variable {save : OptionStore α → σ → Outcome SaveError σ Unit} {keep : OffsetKeeper SaveError (OptionStore α × σ) α}
  (hkeep : keep = OptionStore.setOffsetBy save) {call : ConverterCall α} {s : Calibrated α (OptionStore α × σ)}

include hkeep

theorem HandsOver.config_eq {o : α} (h : call.HandsOver keep s o) :
    (call.perform keep s).2.kept.1 = { s.kept.1 with config := OptionStore.withOffset o s.kept.1.config } := by
  rw [h.kept_eq, hkeep]
  rfl

theorem HandsOver.stored [Angle.Settled α] {o : α} (h : call.HandsOver keep s (signed o)) (ho : isFinite o = true)
    (hown : s.kept.1.config.IsOwnMapping) : (call.perform keep s).2.Stored := by
  refine ⟨?_, ?_⟩ <;> rw [h.config_eq hkeep]
  · exact OptionStore.isOwnMapping_withOffset hown _
  · rw [h.offset_eq, OptionStore.offset_withOffset hown]
    split_ifs with hzero
    · rw [Settled.signed_eq_zero ho hzero]
    · rfl

private theorem HandsOver.filed {format : DocumentFormat α} {diskOf : σ → Disk}
    (hsave : OptionStore.SavesOrFails format diskOf save) {o : α} (h : call.HandsOver keep s o)
    (hanswer : ∀ e, (call.perform keep s).1 ≠ .error (.keeper e)) :
    OptionStore.Filed format ((call.perform keep s).2.kept.1, diskOf (call.perform keep s).2.kept.2) := by
  obtain ⟨hsaved, -⟩ | ⟨e, -, he⟩ := h.answer
  · rw [h.kept_eq]
    subst hkeep
    exact (OptionStore.setOffsetBy_cases hsave o s.kept.1 s.kept.2).2 hsaved
  · exact absurd he (hanswer e)

private theorem perform_inStep [Angle.Settled α] {path : Option Path} (hs : s.InStep path) :
    (call.perform keep s).2.InStep path := by
  obtain h | ⟨o, ho, h⟩ := call.leavesOffset_or_handsOver keep s
  · refine ⟨?_, ?_, ?_⟩ <;> rw [h.kept_eq]
    · exact hs.path_eq
    · exact hs.own
    · rw [h.offset_eq]
      exact hs.offset_eq
  · have hstored := h.stored hkeep ho hs.own
    refine ⟨?_, hstored.own, ?_⟩
    · rw [h.config_eq hkeep]
      exact hs.path_eq
    · rw [hstored.offset_eq, h.offset_eq]
      exact congrArg Except.ok (Settled.signed_signed ho)

private theorem perform_stored [Angle.Settled α] (hs : s.Stored) : (call.perform keep s).2.Stored := by
  obtain h | ⟨o, ho, h⟩ := call.leavesOffset_or_handsOver keep s
  · refine ⟨?_, ?_⟩ <;> rw [h.kept_eq]
    · exact hs.own
    · rw [h.offset_eq]
      exact hs.offset_eq
  · exact h.stored hkeep ho hs.own

end ConverterCall

theorem Controller.start_inStep {format : DocumentFormat α} {disk : Disk} {path : Option Path} {store : OptionStore α}
    {world : σ} {offset : α} {side : PierSide} {calibrationSide : Option PierSide}
    {start : Controller α (OptionStore α × σ) ι} (hstore : OptionStore.ofPath format disk path = .ok store)
    (hoffset : store.offset = .ok offset)
    (hstart : Controller.start offset (store, world) side calibrationSide = .ok start) : start.InStep path := by
  obtain ⟨hfin, rfl⟩ := Controller.start_eq_ok_iff.1 hstart
  obtain ⟨hpath, hload⟩ := OptionStore.load_of_ofPath hstore
  exact ⟨hpath, OptionStore.isOwnMapping_of_load hload, congrArg (Except.map signed) hoffset⟩

namespace ControllerCall

open OptionStore (Filed)

section Runs

variable [BEq ι] {save : OptionStore α → σ → Outcome SaveError σ Unit}
  {w : Surroundings α SaveError (OptionStore α × σ) ι} (hw : w.keep = OptionStore.setOffsetBy save)
  {call : ControllerCall α ι} {c : Controller α (OptionStore α × σ) ι}

include hw

theorem stored_of_calibrates [Angle.Settled α] (hcall : call.calibrates) (hown : c.kept.1.config.IsOwnMapping)
    (hanswer : ∀ e, (call.perform w c).1 ≠ .error (.calibration (.angle e))) : (call.perform w c).2.Stored := by
  cases call with
  | converter call =>
    obtain ⟨o, ho, h⟩ := ConverterCall.handsOver_of_calibrates w.keep hcall
      fun e he => hanswer e (congrArg (Except.mapError CallError.calibration) he)
    exact h.stored hw ho hown
  | _ => cases hcall

theorem performAll_inStep [Angle.Settled α] {calls : List (ControllerCall α ι)} {path : Option Path}
    (hc : c.InStep path) : (performAll w calls c).2.InStep path :=
  performAll_invariant (P := fun s => s.InStep path) (fun _ => rfl)
    (fun _ _ _ hs => ConverterCall.perform_inStep hw hs) (fun call _ => call.within_true) hc

theorem performAll_stored [Angle.Settled α] {calls : List (ControllerCall α ι)} (hc : c.Stored) :
    (performAll w calls c).2.Stored :=
  performAll_invariant (P := fun s => s.Stored) (fun _ => rfl) (fun _ _ _ hs => ConverterCall.perform_stored hw hs)
    (fun call _ => call.within_true) hc

section Files

variable {format : DocumentFormat α} {diskOf : σ → Disk} (hsave : OptionStore.SavesOrFails format diskOf save)

include hsave

theorem filed_of_calibrates (hcall : call.calibrates) {answer : Answer α}
    (hanswer : (call.perform w c).1 = .ok answer) :
    Filed format ((call.perform w c).2.kept.1, diskOf (call.perform w c).2.kept.2) := by
  have hnone (e : CalibrationError α SaveError) : (call.perform w c).1 ≠ .error (.calibration e) := by simp [hanswer]
  cases call with
  | converter call =>
    obtain ⟨o, -, h⟩ := ConverterCall.handsOver_of_calibrates w.keep hcall
      fun e he => hnone _ (congrArg (Except.mapError CallError.calibration) he)
    exact h.filed hw hsave fun e he => hnone _ (congrArg (Except.mapError CallError.calibration) he)
  | _ => cases hcall

/-- Without a failed save a call leaves options and disk alone, or the file has the text of the options after it. -/
private theorem filed_perform (hanswer : ∀ e, (call.perform w c).1 ≠ .error (.calibration (.keeper e))) :
    (call.perform w c).2.kept = c.kept ∨
      Filed format ((call.perform w c).2.kept.1, diskOf (call.perform w c).2.kept.2) := by
  cases call with
  | converter call =>
    obtain h | ⟨o, -, h⟩ := call.leavesOffset_or_handsOver w.keep c.toCalibrated
    · exact .inl h.kept_eq
    · exact .inr (h.filed hw hsave fun e he => hanswer e (congrArg (Except.mapError CallError.calibration) he))
  | sideChanged side =>
    exact .inl (Controller.sideChanged_invariant (P := fun s => s.kept = c.kept) w.behaviour (fun _ _ h => h) w.depth
      side c rfl)
  | addListener _ => exact .inl rfl
  | removeListener _ => exact .inl rfl

theorem filed_performAll {calls : List (ControllerCall α ι)}
    (hanswers : ∀ e, .error (.calibration (.keeper e)) ∉ (performAll w calls c).1) :
    (performAll w calls c).2.kept = c.kept ∨
      Filed format ((performAll w calls c).2.kept.1, diskOf (performAll w calls c).2.kept.2) := by
  induction calls generalizing c with
  | nil => exact .inl rfl
  | cons call rest ih =>
    obtain hrest | hrest := ih fun e he => hanswers e (List.mem_cons_of_mem _ he)
    · have hcall := filed_perform hw hsave fun e he => hanswers e (he ▸ List.mem_cons_self)
      exact hrest ▸ hcall
    · exact .inr hrest

end Files

end Runs

/-- In every state `c` that a run from the start reaches, whether or not its calls failed, and in whatever way each save
may have failed, the offset of the options is the converter's up to whole turns; and it is the very same from the first
calibration on that was not refused for its numbers.  As long as no save fails after some state, options and disk are
what they were in it, or the file has the text of the options.  A calibration that answers leaves the file so, with the
offset that is the converter's then, whatever failed before. -/
theorem storedOffset_performAll [BEq ι] {format : DocumentFormat Float} {diskOf : σ → Disk}
    {save : OptionStore Float → σ → Outcome SaveError σ Unit} (hsave : OptionStore.SavesOrFails format diskOf save)
    {w : Surroundings Float SaveError (OptionStore Float × σ) ι} (hw : w.keep = OptionStore.setOffsetBy save)
    {world : σ} {path : Option Path} {store : OptionStore Float} {offset : Float} {side : PierSide}
    {calibrationSide : Option PierSide} {start c : Controller Float (OptionStore Float × σ) ι}
    (calls : List (ControllerCall Float ι)) (hstore : OptionStore.ofPath format (diskOf world) path = .ok store)
    (hoffset : store.offset = .ok offset)
    (hstart : Controller.start offset (store, world) side calibrationSide = .ok start)
    (hc : (performAll w calls start).2 = c) :
    c.kept.1.path = path ∧ c.kept.1.offset.map signed = .ok c.converter.offset ∧
      (∀ before call after, calls = before ++ call :: after → call.calibrates →
        (∀ e, (call.perform w (performAll w before start).2).1 ≠ .error (.calibration (.angle e))) →
        c.kept.1.offset = .ok c.converter.offset) ∧
      (∀ before after, calls = before ++ after →
        (∀ e, .error (.calibration (.keeper e)) ∉ (performAll w after (performAll w before start).2).1) →
        c.kept = (performAll w before start).2.kept ∨ Filed format (c.kept.1, diskOf c.kept.2)) ∧
      ∀ (call : ControllerCall Float ι) answer next, call.calibrates → call.perform w c = (.ok answer, next) →
        Filed format (next.kept.1, diskOf next.kept.2) ∧ next.kept.1.offset = .ok next.converter.offset := by
  have hinStep (calls : List (ControllerCall Float ι)) : (performAll w calls start).2.InStep path :=
    performAll_inStep hw (Controller.start_inStep hstore hoffset hstart)
  refine ⟨hc ▸ (hinStep calls).path_eq, hc ▸ (hinStep calls).offset_eq, ?_, ?_, ?_⟩
  · rintro before call after rfl hcall hanswer
    rw [performAll_append] at hc
    exact hc ▸ (performAll_stored hw (stored_of_calibrates hw hcall (hinStep before).own hanswer)).offset_eq
  · rintro before after rfl hanswers
    rw [performAll_append] at hc
    exact hc ▸ filed_performAll hw hsave hanswers
  · intro call answer next hcall hnext
    have hstored : (call.perform w c).2.Stored :=
      stored_of_calibrates hw hcall (hc ▸ (hinStep calls).own) (by simp [hnext])
    have hfiled := filed_of_calibrates hw hsave hcall (congrArg Prod.fst hnext)
    rw [hnext] at hstored hfiled
    exact ⟨hfiled, hstored.offset_eq⟩

/-- Saves in YAML, but first fails as often as it is told to, and leaves the file empty then. -/
def savingLate : OptionStore Float → Disk × Nat → Outcome SaveError (Disk × Nat) Unit
  | _, (disk, failures + 1) =>
    (.error (.file (.notFound ⟨"mount.yaml"⟩)), (disk.save ⟨"mount.yaml"⟩ "").2, failures)
  | s, (disk, 0) =>
    let (answer, disk) := s.save (.yaml .asWritten) disk
    (answer, disk, 0)

private theorem savingLate_savesOrFails : OptionStore.SavesOrFails (.yaml .asWritten) Prod.fst savingLate := by
  rintro s ⟨disk, failures⟩ hok
  cases failures with
  | zero => exact Prod.ext hok rfl
  | succ failures => cases hok

/-- Options that are saved late, and nobody who listens. -/
def storingLate : Surroundings Float SaveError (OptionStore Float × Disk × Nat) Nat :=
  ⟨OptionStore.setOffsetBy savingLate, fun _ _ _ => [], 1⟩

/-- Started in the east with the store of a file that is not there yet, and one save that is going to fail. -/
def startedLate : Controller Float (OptionStore Float × Disk × Nat) Nat :=
  ⟨⟨⟨0, false, .east, .unknown, .east⟩, (⟨some ⟨"mount.yaml"⟩, Options.defaults⟩, .empty, 1)⟩, [], []⟩

/-- A calibration whose save fails, an undefined angle that is refused, and one more calibration, which is saved. -/
theorem storedOffset_performAll_new : ∃ c next,
    OptionStore.ofPath (.yaml .asWritten) .empty (some ⟨"mount.yaml"⟩) = .ok startedLate.kept.1 ∧
      startedLate.kept.1.offset = .ok 0 ∧ Controller.start 0 startedLate.kept .east none = .ok startedLate ∧
      performAll storingLate [converter (.recalibrate 400 none), sideChanged .west, converter (.calibrate (0 / 0) 10)]
        startedLate = ([.error (.calibration (.keeper (.file (.notFound ⟨"mount.yaml"⟩)))), .ok .done,
          .error (.calibration (.angle ⟨.rotatorAngle, 0 / 0⟩))], c) ∧
      (converter (.calibrate 350 20)).perform storingLate c = (.ok (.angle (-150)), next) ∧
      c.kept.2.1.rawText? ⟨"mount.yaml"⟩ = some "" ∧ c.kept.1.offset = .ok c.converter.offset ∧
      Filed (.yaml .asWritten) (next.kept.1, next.kept.2.1) ∧ next.kept.1.offset = .ok next.converter.offset := by
  have hstore : OptionStore.ofPath (.yaml .asWritten) .empty (some ⟨"mount.yaml"⟩) = .ok startedLate.kept.1 := rfl
  have hoffset : startedLate.kept.1.offset = .ok 0 := by decide +kernel
  have hstart : Controller.start 0 startedLate.kept .east none = .ok startedLate := by
    refine Controller.start_eq_ok_iff.2 ⟨by decide +kernel, ?_⟩
    rw [(by decide +kernel : signed (0 : Float) = 0)]
    rfl
  have hanswers : (performAll storingLate [converter (.recalibrate 400 none), sideChanged .west,
      converter (.calibrate (0 / 0) 10)] startedLate).1 =
      [.error (.calibration (.keeper (.file (.notFound ⟨"mount.yaml"⟩)))), .ok .done,
        .error (.calibration (.angle ⟨.rotatorAngle, 0 / 0⟩))] := by decide +kernel
  have hfirst : ((converter (.recalibrate 400 none)).perform storingLate startedLate).1 =
      .error (.calibration (.keeper (.file (.notFound ⟨"mount.yaml"⟩)))) := List.head_eq_of_cons_eq hanswers
  have hbehind : (performAll storingLate [converter (.recalibrate 400 none), sideChanged .west,
      converter (.calibrate (0 / 0) 10)] startedLate).2.kept.2.1.rawText? ⟨"mount.yaml"⟩ = some "" := by decide +kernel
  have hnext : ((converter (.calibrate 350 20)).perform storingLate (performAll storingLate [converter
      (.recalibrate 400 none), sideChanged .west, converter (.calibrate (0 / 0) 10)] startedLate).2).1 =
      .ok (.angle (-150)) := by decide +kernel
  obtain ⟨c, hc⟩ : ∃ c, (performAll storingLate [converter (.recalibrate 400 none), sideChanged .west,
      converter (.calibrate (0 / 0) 10)] startedLate).2 = c := ⟨_, rfl⟩
  rw [hc] at hnext hbehind
  obtain ⟨-, -, hstored, -, hlast⟩ :=
    storedOffset_performAll savingLate_savesOrFails rfl _ hstore hoffset hstart hc
  refine ⟨c, _, hstore, hoffset, hstart, Prod.ext hanswers hc, Prod.ext hnext rfl, hbehind,
    hstored [] _ _ rfl rfl fun e he => ?_, hlast _ _ _ rfl (Prod.ext hnext rfl)⟩
  cases hfirst.symm.trans he

end ControllerCall

end EquatorialMount
