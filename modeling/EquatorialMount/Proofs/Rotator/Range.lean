import EquatorialMount.Proofs.Binary64.Angle
import EquatorialMount.Proofs.Options.Reopening
import EquatorialMount.Proofs.Rotator.Noting
import EquatorialMount.Proofs.Rotator.Restart

/-!
# Offsets that can be stored

Whatever numbers a rotator is given, its offset is a finite number of `(-180, 180]`, and so is every offset that its
keeper is given: a calibration wraps its offset and refuses one that is not finite, also one it has solved for itself.
So options that were written in a run have an offset to start from again, whether they are still at hand or are read
from their file (`positions_performAll`).
-/

namespace EquatorialMount

open Angle Scalar Float64

variable {ε σ ι : Type}

/-! ### The range along a run -/

/-- The offset of a converter and those its keeper was given are in range. -/
structure Calibrated.InRange (s : Calibrated Float (σ × List Float)) : Prop where
  offset : IsPosition s.converter.offset
  given : ∀ o ∈ s.kept.2, IsPosition o

private theorem ConverterCall.perform_inRange (keep : OffsetKeeper ε σ Float) (call : ConverterCall Float)
    {s : Calibrated Float (σ × List Float)} (hs : s.InRange) : (call.perform keep.noting s).2.InRange := by
  obtain h | ⟨o, ho, h⟩ := call.leavesOffset_or_handsOver keep.noting s
  · exact ⟨h.offset_eq ▸ hs.offset, h.kept_eq ▸ hs.given⟩
  · have hposition : IsPosition (signed o) := signed_isPosition ho
    refine ⟨h.offset_eq ▸ hposition, fun x hx => ?_⟩
    rw [h.kept_eq] at hx
    obtain hx | hx := List.mem_append.1 hx
    · exact hs.given x hx
    · exact List.mem_singleton.1 hx ▸ hposition

private theorem ControllerCall.performAll_inRange [BEq ι] (w : Surroundings Float ε σ ι)
    (calls : List (ControllerCall Float ι)) {c : Controller Float (σ × List Float) ι} (hc : c.InRange) :
    (performAll w.noting calls c).2.InRange :=
  performAll_invariant (P := fun s => s.InRange) (fun _ => rfl)
    (fun call _ _ hs => ConverterCall.perform_inRange w.keep call hs) (fun call _ => call.within_true) hc

private theorem Converter.isPosition_of_ofOffset {offset : Float} {flipped : Bool}
    {calibrationSide mountSide : PierSide} {c : Converter Float}
    (h : ofOffset offset flipped calibrationSide mountSide = .ok c) : IsPosition c.offset := by
  unfold ofOffset checkFinite at h
  cases hfin : isFinite offset with
  | false =>
    rw [hfin] at h
    cases h
  | true =>
    rw [hfin] at h
    cases h
    exact signed_isPosition hfin

/-- A controller starts from any offset that is in range. -/
private theorem Controller.exists_start {offset : Float} (h : IsPosition offset) (kept : σ) (side : PierSide)
    (calibrationSide : Option PierSide) :
    ∃ fresh : Controller Float σ ι, start offset kept side calibrationSide = .ok fresh :=
  ⟨_, start_eq_ok_iff.2 ⟨h.finite, rfl⟩⟩

/-! ### Options along a run -/

private theorem Options.Kept.isOwnMapping {format : DocumentFormat Float} {config : Document Float}
    (h : Options.Kept format config) : config.IsOwnMapping := by
  induction h with
  | loaded h => exact OptionStore.isOwnMapping_of_load h
  | withOffset _ x ih => exact OptionStore.isOwnMapping_withOffset ih x

private theorem ConverterCall.perform_path {save : OptionStore Float → σ → Outcome SaveError σ Unit}
    {keep : OffsetKeeper SaveError (OptionStore Float × σ) Float} (hkeep : keep = OptionStore.setOffsetBy save)
    (call : ConverterCall Float) (s : Calibrated Float (OptionStore Float × σ)) :
    (call.perform keep s).2.kept.1.path = s.kept.1.path := by
  obtain h | ⟨o, -, h⟩ := call.leavesOffset_or_handsOver keep s
  · rw [h.kept_eq]
  · rw [h.config_eq hkeep]

private theorem ControllerCall.performAll_path [BEq ι] {save : OptionStore Float → σ → Outcome SaveError σ Unit}
    {w : Surroundings Float SaveError (OptionStore Float × σ) ι} (hw : w.keep = OptionStore.setOffsetBy save)
    (calls : List (ControllerCall Float ι)) (c : Controller Float (OptionStore Float × σ) ι) :
    (performAll w calls c).2.kept.1.path = c.kept.1.path :=
  performAll_invariant (P := fun s => s.kept.1.path = c.kept.1.path) (fun _ => rfl)
    (fun call s _ hs => (ConverterCall.perform_path hw call s).trans hs) (fun call _ => call.within_true) rfl

/-! ### Options read again -/

open OptionStore (Filed) in
/-- Options whose text is in the file are read again with the offset that they have. -/
private theorem OptionStore.offset_of_filed {format : DocumentFormat Float} (hformat : format.ReadsSeparated)
    {kept : OptionStore Float × Disk} {p : Path} (hpath : kept.1.path = some p)
    (hkept : Options.Kept format kept.1.config) (hfiled : Filed format kept) (hread : format.ReadsBack kept.1.config) :
    ∃ reopened, ofPath format kept.2 (some p) = .ok reopened ∧ reopened.offset = kept.1.offset := by
  obtain ⟨text, hwrite, hraw⟩ := hfiled p hpath
  obtain ⟨d, hd, hsame⟩ := hread text hwrite
  obtain ⟨reopened, hreopened, -, hagain, -⟩ :=
    ofPath_of_read hraw hd hsame (arranged_of_kept hformat.separatesKeys hkept) (hformat.apart hd)
  exact ⟨reopened, hreopened, offset_same hagain⟩

/-! ### Runs -/

namespace ControllerCall

/-- In a run with any numbers, from a converter of any finite offset, the keeper is given nothing but offsets in range,
and the converter's offset is in range in the end, in whatever way saves may have failed.  Once a calibration was not
refused for its numbers, the offset at hand in the options is the converter's, so a controller starts from it; and if
that calibration was saved and no save failed later, so it does from the options that are read from the file, where the
text of the options is read as they are. -/
theorem positions_performAll [BEq ι] {format : DocumentFormat Float} (hformat : format.ReadsSeparated)
    {diskOf : σ → Disk} {save : OptionStore Float → σ → Outcome SaveError σ Unit}
    (hsave : OptionStore.SavesOrFails format diskOf save) {w : Surroundings Float SaveError (OptionStore Float × σ) ι}
    (hw : w.keep = OptionStore.setOffsetBy save) {world : σ} {path : Option Path} {store : OptionStore Float}
    {offset : Float} {flipped : Bool} {calibrationSide mountSide : PierSide} {calls : List (ControllerCall Float ι)}
    {start c : Controller Float (OptionStore Float × σ) ι} {answers : List (Except _ (Answer Float))}
    (hstore : OptionStore.ofPath format (diskOf world) path = .ok store) (hkept : start.kept = (store, world))
    (hstart : Converter.ofOffset offset flipped calibrationSide mountSide = .ok start.converter)
    (hc : performAll w calls start = (answers, c)) :
    (∃ given, performAll w.noting calls (start.mapKept (·, [])) = (answers, c.mapKept (·, given)) ∧
      ∀ o ∈ given, IsPosition o) ∧
    IsPosition c.converter.offset ∧
    ∀ before call after, calls = before ++ call :: after → call.calibrates →
      (∀ e, (call.perform w (performAll w before start).2).1 ≠ .error (.calibration (.angle e))) →
      (c.kept.1.offset = .ok c.converter.offset ∧
        ∀ side calibrationSide, ∃ fresh : Controller Float (OptionStore Float × σ) ι,
          Controller.start c.converter.offset c.kept side calibrationSide = .ok fresh) ∧
      ∀ p answer, path = some p → (call.perform w (performAll w before start).2).1 = .ok answer →
        (∀ e, .error (.calibration (.keeper e)) ∉
          (performAll w after (call.perform w (performAll w before start).2).2).1) →
        format.ReadsBack c.kept.1.config →
        ∃ reopened, OptionStore.ofPath format (diskOf c.kept.2) path = .ok reopened ∧
          reopened.offset = .ok c.converter.offset ∧
          ∀ side calibrationSide, ∃ fresh : Controller Float (OptionStore Float × σ) ι,
            Controller.start c.converter.offset (reopened, c.kept.2) side calibrationSide = .ok fresh := by
  obtain ⟨given, hgiven⟩ := exists_performAll_noting w calls start []
  rw [hc] at hgiven
  have hstarted : (start.mapKept (·, ([] : List Float))).InRange :=
    ⟨Converter.isPosition_of_ofOffset hstart, fun _ h => absurd h List.not_mem_nil⟩
  have hrange := performAll_inRange w calls hstarted
  rw [hgiven] at hrange
  refine ⟨⟨given, hgiven, hrange.given⟩, hrange.offset, ?_⟩
  rintro before call after rfl hcall hanswer
  obtain ⟨hpath, hload⟩ := OptionStore.load_of_ofPath hstore
  have hloaded : Options.Kept format start.kept.1.config := hkept ▸ .loaded hload
  have hfinal : (performAll w after (call.perform w (performAll w before start).2).2).2 = c := by
    rw [performAll_append] at hc
    exact congrArg Prod.snd hc
  -- the options have the offset from that calibration on
  have hown : (performAll w before start).2.kept.1.config.IsOwnMapping := (performAll_kept hw hloaded).isOwnMapping
  have hstored : c.Stored := hfinal ▸ performAll_stored hw (stored_of_calibrates hw hcall hown hanswer)
  refine ⟨⟨hstored.offset_eq, Controller.exists_start hrange.offset c.kept⟩, ?_⟩
  rintro p answer rfl hok hsaved hread
  have hfiled : OptionStore.Filed format (c.kept.1, diskOf c.kept.2) := by
    have hcalibrated := filed_of_calibrates hw hsave hcall hok
    obtain hunchanged | hfiled := filed_performAll hw hsave hsaved
    · exact hfinal ▸ hunchanged ▸ hcalibrated
    · exact hfinal ▸ hfiled
  have hsame : c.kept.1.path = some p := by
    have h := performAll_path hw (before ++ call :: after) start
    rw [hc, hkept] at h
    exact h.trans hpath
  have hkeptNow : Options.Kept format c.kept.1.config := by
    have h : Options.Kept format (performAll w (before ++ call :: after) start).2.kept.1.config :=
      performAll_kept hw hloaded
    rwa [hc] at h
  obtain ⟨reopened, hreopened, hoffset⟩ := OptionStore.offset_of_filed hformat hsame hkeptNow hfiled hread
  exact ⟨reopened, hreopened, hoffset.trans hstored.offset_eq, Controller.exists_start hrange.offset _⟩

/-- Options in YAML, and nobody who listens. -/
def storingYaml : Surroundings Float SaveError (OptionStore Float × Disk) Nat :=
  ⟨OptionStore.setOffset (.yaml .asWritten), fun _ _ _ => [], 1⟩

/-- Started in the east with the store of a file that is not there yet. -/
def startedNew : Controller Float (OptionStore Float × Disk) Nat :=
  ⟨⟨⟨0, false, .east, .unknown, .east⟩, (⟨some ⟨"mount.yaml"⟩, Options.defaults⟩, .empty)⟩, [], []⟩

/-- A measurement whose two angles are too far apart for a difference. -/
def overflowing : ControllerCall Float Nat := converter (.calibrate (-1e308) 1.7e308)

/-- An offset beyond half a turn. -/
def turned : ControllerCall Float Nat := converter (.recalibrate 400 none)

def infinite : ControllerCall Float Nat := converter (.recalibrate (1 / 0) none)

/-- Of three calibrations the second is stored, and it is what the options are read with again. -/
theorem positions_performAll_overflowing : ∃ c reopened fresh,
    performAll storingYaml [overflowing, turned, infinite] startedNew =
      ([.error (.calibration (.angle ⟨.newOffset, 0 / 0⟩)), .ok .done,
        .error (.calibration (.angle ⟨.newOffset, 1 / 0⟩))], c) ∧
    (performAll storingYaml.noting [overflowing, turned, infinite] (startedNew.mapKept (·, []))).2 =
      c.mapKept (·, [40]) ∧
    IsPosition 40 ∧ c.converter.offset = 40 ∧
    OptionStore.ofPath (.yaml .asWritten) c.kept.2 (some ⟨"mount.yaml"⟩) = .ok reopened ∧ reopened.offset = .ok 40 ∧
    (Controller.start 40 (reopened, c.kept.2) .west none : Except _ (Controller Float _ Nat)) = .ok fresh := by
  have hstore : OptionStore.ofPath (.yaml .asWritten) .empty (some ⟨"mount.yaml"⟩) = .ok startedNew.kept.1 := rfl
  have hstart : Converter.ofOffset (0 : Float) false .east .east = .ok startedNew.converter := by decide +kernel
  have hanswers : (performAll storingYaml [overflowing, turned, infinite] startedNew).1 =
      [.error (.calibration (.angle ⟨.newOffset, 0 / 0⟩)), .ok .done,
        .error (.calibration (.angle ⟨.newOffset, 1 / 0⟩))] := by decide +kernel
  have hturned : (turned.perform storingYaml (performAll storingYaml [overflowing] startedNew).2).1 = .ok .done := by
    decide +kernel
  have hinfinite : (performAll storingYaml [infinite] (turned.perform storingYaml
      (performAll storingYaml [overflowing] startedNew).2).2).1 =
        [.error (.calibration (.angle ⟨.newOffset, 1 / 0⟩))] := by decide +kernel
  have hgiven : (performAll storingYaml.noting [overflowing, turned, infinite] (startedNew.mapKept (·, []))).2.kept.2 =
      [40] := by decide +kernel
  have hoffset : (performAll storingYaml [overflowing, turned, infinite] startedNew).2.converter.offset = 40 := by
    decide +kernel
  have hread : (DocumentFormat.yaml .asWritten).ReadsBack
      (performAll storingYaml [overflowing, turned, infinite] startedNew).2.kept.1.config :=
    DocumentFormat.readsBack_of_agree textOfForty 4 (by decide +kernel) (by decide +kernel)
  obtain ⟨c, hc⟩ : ∃ c, (performAll storingYaml [overflowing, turned, infinite] startedNew).2 = c := ⟨_, rfl⟩
  rw [hc] at hoffset hread
  have hsave : OptionStore.SavesOrFails (.yaml .asWritten) id (OptionStore.save (.yaml .asWritten)) :=
    OptionStore.savesOrFails_save (.yaml .asWritten)
  obtain ⟨⟨given, hnoted, hpositions⟩, -, hlast⟩ := positions_performAll DocumentFormat.readsSeparated_yaml hsave rfl
    hstore rfl hstart (Prod.ext hanswers hc)
  obtain rfl : given = [40] := by
    rw [hnoted] at hgiven
    exact hgiven
  obtain ⟨-, hreopen⟩ := hlast [overflowing] turned [infinite] rfl rfl (by simp [hturned])
  obtain ⟨reopened, hreopened, hagain, hfresh⟩ := hreopen _ _ rfl hturned (by simp [hinfinite]) hread
  rw [hoffset] at hagain hfresh
  obtain ⟨fresh, hfresh⟩ := hfresh .west none
  exact ⟨c, reopened, fresh, Prod.ext hanswers hc, congrArg Prod.snd hnoted, hpositions 40 (List.mem_singleton.2 rfl),
    hoffset, hreopened, hagain, hfresh⟩

end ControllerCall

end EquatorialMount
