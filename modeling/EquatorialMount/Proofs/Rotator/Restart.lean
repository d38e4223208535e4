import EquatorialMount.Proofs.Exact.Reading
import EquatorialMount.Proofs.Options.Reload
import EquatorialMount.Proofs.Rotator.Flip
import EquatorialMount.Proofs.Rotator.Persistence

/-!
# A rotator that is started again

A converter says less in its options than it knows: only its offset is there, and up to whole turns.  The rest comes
from outside when it is started again, but for the flag and for the side of the latest image.  The flag follows from the
two sides, so it comes back; the side of the image is forgotten.  So a controller that is started again from its file is
a twin of the one before, and every call that names the side of its image is answered alike by both
(`performAll_restarted`).
-/

namespace EquatorialMount

open Angle Scalar

variable {α ε σ ι : Type}

/-! ### Calls without listeners -/

/-- Calls that name the side of an image if they ask for one. -/
def ConverterCall.namesImageSide : ConverterCall α → Bool
  | imageFlipped none => false
  | _ => true

namespace ControllerCall

/-- A report of a side, or one of a class of calls to the converter: no listener comes or goes. -/
def alone (allowed : ConverterCall α → Bool) : ControllerCall α ι → Bool
  | converter call => allowed call
  | sideChanged _ => true
  | _ => false

private theorem within_of_alone {allowed : ConverterCall α → Bool} {call : ControllerCall α ι}
    (h : call.alone allowed) :
    call.within allowed := by
  cases call with
  | converter call => exact h
  | _ => rfl

variable [Scalar α] [BEq ι] {w : Surroundings α ε σ ι} {allowed : ConverterCall α → Bool} {call : ControllerCall α ι}
  {c : Controller α σ ι}

omit [Scalar α] in
private theorem sideChanged_of_no_listeners (hc : c.listeners = []) (behaviour : Behaviour ι) (depth : Nat)
    (side : PierSide) :
    c.sideChanged behaviour depth side =
      if depth = 0 then (.error .tooDeep, c) else (.ok (), c.setConverter (·.reportSide side)) := by
  cases depth with
  | zero => rfl
  | succ depth =>
    unfold Controller.sideChanged
    rw [hc]
    rfl

private theorem perform_listeners (hcall : call.alone allowed) (hc : c.listeners = []) :
    (call.perform w c).2.listeners = [] := by
  cases call with
  | converter call => exact hc
  | sideChanged side =>
    show (c.sideChanged w.behaviour w.depth side).2.listeners = []
    rw [sideChanged_of_no_listeners hc]
    split <;> exact hc
  | _ => cases hcall

private theorem performAll_listeners {calls : List (ControllerCall α ι)} (hcalls : ∀ call ∈ calls, call.alone allowed)
    (hc : c.listeners = []) : (performAll w calls c).2.listeners = [] := by
  induction calls generalizing c with
  | nil => exact hc
  | cons call rest ih =>
    exact ih (fun call h => hcalls call (List.mem_cons_of_mem _ h))
      (perform_listeners (hcalls call List.mem_cons_self) hc)

end ControllerCall

/-! ### Options along a run -/

section Kept

variable [Scalar α] [NumberReading α] {format : DocumentFormat α} {save : OptionStore α → σ → Outcome SaveError σ Unit}

private theorem ConverterCall.perform_kept {keep : OffsetKeeper SaveError (OptionStore α × σ) α}
    (hkeep : keep = OptionStore.setOffsetBy save) {call : ConverterCall α} {s : Calibrated α (OptionStore α × σ)}
    (hs : Options.Kept format s.kept.1.config) : Options.Kept format (call.perform keep s).2.kept.1.config := by
  obtain h | ⟨o, -, h⟩ := call.leavesOffset_or_handsOver keep s
  · rw [h.kept_eq]
    exact hs
  · rw [h.config_eq hkeep]
    exact .withOffset hs _

theorem ControllerCall.performAll_kept [BEq ι] {w : Surroundings α SaveError (OptionStore α × σ) ι}
    (hw : w.keep = OptionStore.setOffsetBy save) {calls : List (ControllerCall α ι)}
    {c : Controller α (OptionStore α × σ) ι} (hc : Options.Kept format c.kept.1.config) :
    Options.Kept format (performAll w calls c).2.kept.1.config :=
  performAll_invariant (P := fun s : Calibrated α (OptionStore α × σ) => Options.Kept format s.kept.1.config)
    (fun _ => rfl) (fun _ _ _ hs => ConverterCall.perform_kept hw hs) (fun call _ => call.within_true) hc

end Kept

/-! ### Twins -/

variable [Scalar α] [NumberReading α] {format : DocumentFormat α}

/-- A converter and another one that differs in the side of the latest image at most, with stores that are alike. -/
structure Calibrated.Twin (s t : Calibrated α (OptionStore α × Disk)) : Prop where
  converter : ∃ side, t.converter = s.converter.setImageSide side
  kept : OptionStore.Alike s.kept t.kept

/-- Controllers with twins as converters, and without listeners. -/
structure Controller.Twin (c d : Controller α (OptionStore α × Disk) ι) : Prop where
  calibrated : c.toCalibrated.Twin d.toCalibrated
  listeners : c.listeners = []
  listeners' : d.listeners = []

/-- An outcome with the same answer as another, and a state that is a twin of the other's. -/
def TwinOutcomes {β : Type} (x y : Outcome ε (Calibrated α (OptionStore α × Disk)) β) : Prop :=
  y.1 = x.1 ∧ x.2.Twin y.2

namespace Calibrated

variable {s t : Calibrated α (OptionStore α × Disk)}

theorem Twin.recalibrate {keep : OffsetKeeper SaveError (OptionStore α × Disk) α}
    (hkeep : keep = OptionStore.setOffset format) (hformat : format.Lawful) (h : s.Twin t) (o : α)
    (side : Option PierSide) : TwinOutcomes (s.recalibrate keep o side) (t.recalibrate keep o side) := by
  obtain ⟨imageSide, hconverter⟩ := h.converter
  -- both refuse the offset for its number, or neither does
  obtain ⟨hfin, hs⟩ | ⟨hfin, hs⟩ := recalibrate_cases keep o side s
  · obtain ⟨-, ht⟩ | ⟨hfin', -⟩ := recalibrate_cases keep o side t
    · rw [hs, ht]
      exact ⟨rfl, h⟩
    · cases hfin.symm.trans hfin'
  · obtain ⟨hfin', -⟩ | ⟨-, ht⟩ := recalibrate_cases keep o side t
    · cases hfin.symm.trans hfin'
    · subst hkeep
      obtain ⟨hanswer, hkept⟩ := h.kept.setOffset hformat (signed o)
      rw [hs, ht, hconverter, hanswer]
      exact ⟨rfl, ⟨imageSide, rfl⟩, hkept⟩

theorem Twin.calibrate {keep : OffsetKeeper SaveError (OptionStore α × Disk) α}
    (hkeep : keep = OptionStore.setOffset format) (hformat : format.Lawful) (h : s.Twin t) (a p : α) :
    TwinOutcomes (s.calibrate keep a p) (t.calibrate keep a p) := by
  obtain ⟨imageSide, hconverter⟩ := h.converter
  have hoffset : t.converter.offsetFor a p = s.converter.offsetFor a p := by
    rw [hconverter]
    rfl
  unfold Calibrated.calibrate
  rw [hoffset]
  cases s.converter.offsetFor a p with
  | error e => exact ⟨rfl, h⟩
  | ok o =>
    have hside : (if t.converter.calibrationSide.isKnown then none else some t.converter.mountSide) =
        if s.converter.calibrationSide.isKnown then none else some s.converter.mountSide := by
      rw [hconverter]
      rfl
    obtain ⟨hanswer, htwin⟩ := h.recalibrate hkeep hformat o
      (if s.converter.calibrationSide.isKnown then none else some s.converter.mountSide)
    simp only [hside]
    exact ⟨congrArg (Except.map fun _ => o) hanswer, htwin⟩

end Calibrated

private theorem ConverterCall.perform_twin {keep : OffsetKeeper SaveError (OptionStore α × Disk) α}
    (hkeep : keep = OptionStore.setOffset format) (hformat : format.Lawful) {call : ConverterCall α}
    (hcall : call.namesImageSide) {s t : Calibrated α (OptionStore α × Disk)} (h : s.Twin t) :
    TwinOutcomes (call.perform keep s) (call.perform keep t) := by
  cases call with
  | recalibrate o side =>
    obtain ⟨hanswer, htwin⟩ := h.recalibrate hkeep hformat o side
    exact ⟨congrArg (Except.map fun _ => Answer.done) hanswer, htwin⟩
  | calibrate a p =>
    obtain ⟨hanswer, htwin⟩ := h.calibrate hkeep hformat a p
    exact ⟨congrArg (Except.map Answer.angle) hanswer, htwin⟩
  | imageFlipped side =>
    obtain ⟨imageSide, hconverter⟩ := h.converter
    cases side with
    | none => cases hcall
    | some side =>
      refine ⟨?_, h⟩
      show Except.ok (Answer.flag (t.converter.imageFlipped (some side))) = _
      rw [hconverter]
      rfl
  | _ =>
    -- no other call reads the side of the image or reaches the store
    obtain ⟨c, kept⟩ := t
    obtain ⟨⟨imageSide, rfl⟩, hkept⟩ := h
    exact ⟨rfl, ⟨_, rfl⟩, hkept⟩

namespace ControllerCall

variable [BEq ι] {w : Surroundings α SaveError (OptionStore α × Disk) ι} {c d : Controller α (OptionStore α × Disk) ι}

private theorem perform_twin (hw : w.keep = OptionStore.setOffset format) (hformat : format.Lawful)
    {call : ControllerCall α ι} (hcall : call.alone ConverterCall.namesImageSide) (h : c.Twin d) :
    (call.perform w d).1 = (call.perform w c).1 ∧ (call.perform w c).2.Twin (call.perform w d).2 := by
  cases call with
  | converter call =>
    obtain ⟨hanswer, htwin⟩ := ConverterCall.perform_twin hw hformat hcall h.calibrated
    exact ⟨congrArg (Except.mapError CallError.calibration) hanswer, htwin, h.listeners, h.listeners'⟩
  | sideChanged side =>
    obtain ⟨⟨imageSide, hconverter⟩, hkept⟩ := h.calibrated
    unfold perform
    simp only
    rw [sideChanged_of_no_listeners h.listeners, sideChanged_of_no_listeners h.listeners']
    split
    · exact ⟨rfl, h⟩
    · refine ⟨rfl, ⟨⟨imageSide, ?_⟩, hkept⟩, h.listeners, h.listeners'⟩
      show d.converter.reportSide side = (c.converter.reportSide side).setImageSide imageSide
      rw [hconverter]
      rfl
  | _ => cases hcall

/-- Twins answer a whole run alike. -/
private theorem performAll_twin (hw : w.keep = OptionStore.setOffset format) (hformat : format.Lawful)
    {calls : List (ControllerCall α ι)} (hcalls : ∀ call ∈ calls, call.alone ConverterCall.namesImageSide)
    (h : c.Twin d) : (performAll w calls d).1 = (performAll w calls c).1 := by
  induction calls generalizing c d with
  | nil => rfl
  | cons call rest ih =>
    obtain ⟨hanswer, htwin⟩ := perform_twin hw hformat (hcalls call List.mem_cons_self) h
    have hrest := ih (fun call h => hcalls call (List.mem_cons_of_mem _ h)) htwin
    exact congrArg₂ List.cons hanswer hrest

end ControllerCall

/-! ### Starting again -/

namespace ControllerCall

/-- The state `c` that a run from the start has reached, without listeners and without a failed save, comes back if a
new controller is started with a store of the same path and with the sides of the old one: the store opens, its offset
is a number, and the new controller has the offset, the flag and the sides of the old one.  Each later run, if it names
the sides of images, is answered alike by both. -/
theorem performAll_restarted [BEq ι] {format : DocumentFormat ℚ} (hformat : format.Lawful)
    {w : Surroundings ℚ SaveError (OptionStore ℚ × Disk) ι} (hw : w.keep = OptionStore.setOffset format)
    {disk : Disk} {path : Path} {store : OptionStore ℚ} {offset : ℚ} {side : PierSide}
    {calibrationSide : Option PierSide} {start c : Controller ℚ (OptionStore ℚ × Disk) ι}
    (calls : List (ControllerCall ℚ ι)) (hstore : OptionStore.ofPath format disk (some path) = .ok store)
    (hoffset : store.offset = .ok offset)
    (hstart : Controller.start offset (store, disk) side calibrationSide = .ok start)
    (hcalls : ∀ call ∈ calls, call.alone ConverterCall.followsSides)
    (hsaved : ∀ e, .error (.calibration (.keeper e)) ∉ (performAll w calls start).1)
    (hc : (performAll w calls start).2 = c) :
    ∃ reopened offset' fresh, OptionStore.ofPath format c.kept.2 (some path) = .ok reopened ∧
      reopened.offset = .ok offset' ∧
      Controller.start offset' (reopened, c.kept.2) c.converter.mountSide (some c.converter.calibrationSide) =
        .ok fresh ∧
      fresh.converter.offset = c.converter.offset ∧ fresh.converter.mountFlipped = c.converter.mountFlipped ∧
      fresh.converter.calibrationSide = c.converter.calibrationSide ∧
      fresh.converter.mountSide = c.converter.mountSide ∧
      ∀ later : List (ControllerCall ℚ ι), (∀ call ∈ later, call.alone ConverterCall.namesImageSide) →
        (performAll w later fresh).1 = (performAll w later c).1 := by
  obtain ⟨-, hstarted⟩ := Controller.start_eq_ok_iff.1 hstart
  have hload : OptionStore.load format disk (some path) = .ok store.config := (OptionStore.load_of_ofPath hstore).2
  have hinStep : c.InStep (some path) :=
    hc ▸ performAll_inStep hw (Controller.start_inStep hstore hoffset hstart)
  have hconsistent : c.converter.Consistent :=
    hc ▸ performAll_consistent (fun call h => within_of_alone (hcalls call h))
      (Controller.start_consistent hstart)
  have hlisteners : c.listeners = [] := hc ▸ performAll_listeners hcalls (hstarted ▸ rfl)
  have hkept : Options.Kept format c.kept.1.config :=
    hc ▸ performAll_kept hw (hstarted ▸ .loaded hload)
  -- either nothing was ever saved, and the file is as it was at the start, or it has the text of the options
  have hfile : OptionStore.ofPath format c.kept.2 (some path) = .ok c.kept.1 ∨ OptionStore.Filed format c.kept := by
    rw [← hc]
    refine (filed_performAll hw (OptionStore.savesOrFails_save format) hsaved).imp_left fun hunchanged => ?_
    rw [hunchanged, hstarted]
    exact hstore
  obtain ⟨reopened, hreopened, halike⟩ := OptionStore.ofPath_alike hformat hinStep.path_eq hkept hfile
  -- the offset of the options is the converter's up to whole turns, and so is the one that is read again
  have hread := hinStep.offset_eq
  rw [OptionStore.offset_same halike.same.symm] at hread
  obtain ⟨offset', hoffset', hsigned⟩ : ∃ x, reopened.offset = .ok x ∧ signed x = c.converter.offset := by
    cases h : reopened.offset with
    | error e =>
      rw [h] at hread
      cases hread
    | ok x =>
      rw [h] at hread
      exact ⟨x, rfl, Except.ok.inj hread⟩
  -- the flag is the one that the two sides give
  have hfresh : Controller.start offset' (reopened, c.kept.2) c.converter.mountSide
      (some c.converter.calibrationSide) =
        .ok (⟨⟨c.converter.setImageSide .unknown, (reopened, c.kept.2)⟩, [], []⟩ : Controller ℚ _ ι) := by
    refine Controller.start_eq_ok_iff.2 ⟨rfl, ?_⟩
    rw [hsigned, Option.getD_some, ← hconsistent]
    rfl
  refine ⟨reopened, offset', _, hreopened, hoffset', hfresh, rfl, rfl, rfl, rfl, fun later hlater => ?_⟩
  exact performAll_twin hw hformat hlater ⟨⟨⟨_, rfl⟩, halike⟩, hlisteners, rfl⟩

/-! ### A format of one document -/

/-- The text of the options with an offset of 40. -/
def textOfForty : String := "rotator:\n  pa_offset: 40.0\npolar_alignment:\n  latitude: null\n"

/-- The options with an offset of 40. -/
def optionsOfForty : Document ℚ := OptionStore.withOffset 40 Options.defaults

open Classical in
/-- Knows the text of one document and no other. -/
noncomputable def formatOfForty : DocumentFormat ℚ where
  read text := if text = textOfForty then .ok optionsOfForty else .error (.malformed text)
  write d := if d.Same optionsOfForty then .ok textOfForty else .error .tooManyDigits

private theorem formatOfForty_read {text : String} (h : text = textOfForty) :
    formatOfForty.read text = .ok optionsOfForty := if_pos h

private theorem formatOfForty_write {d : Document ℚ} (h : d.Same optionsOfForty) :
    formatOfForty.write d = .ok textOfForty := if_pos h

private theorem formatOfForty_write_other {d : Document ℚ} (h : ¬d.Same optionsOfForty) :
    formatOfForty.write d = .error .tooManyDigits := if_neg h

private theorem formatOfForty_lawful : formatOfForty.Lawful where
  distinct {text d entries} h hentries := by
    by_cases htext : text = textOfForty
    · obtain ⟨a, ha⟩ := Options.arranged_withOffset Options.arranged_defaults (40 : ℚ)
      rw [← Except.ok.inj ((formatOfForty_read htext).symm.trans h), optionsOfForty,
        Options.entries?_of_arrangement ha] at hentries
      exact Option.some.inj hentries ▸ a.distinct
    · have hread : formatOfForty.read text = .error _ := if_neg htext
      cases hread.symm.trans h
  read_write {config text} _ hwrite := by
    have hbreaks : String.ofList (Disk.unifyBreaks textOfForty.toList) = textOfForty := by decide +kernel
    by_cases hsame : config.Same optionsOfForty
    · rw [← Except.ok.inj ((formatOfForty_write hsame).symm.trans hwrite), hbreaks]
      exact ⟨optionsOfForty, formatOfForty_read rfl, hsame.symm⟩
    · cases (formatOfForty_write_other hsame).symm.trans hwrite
  write_same {d e} h := by
    by_cases hd : d.Same optionsOfForty
    · rw [formatOfForty_write hd, formatOfForty_write (h.symm.trans hd)]
    · rw [formatOfForty_write_other hd, formatOfForty_write_other fun he => hd (h.trans he)]

/-- Options in that format, and nobody who listens. -/
noncomputable def storingForty : Surroundings ℚ SaveError (OptionStore ℚ × Disk) Nat :=
  ⟨OptionStore.setOffset formatOfForty, fun _ _ _ => [], 1⟩

/-- Started in the east with the store of a file that is not there yet. -/
def startedExact : Controller ℚ (OptionStore ℚ × Disk) Nat :=
  ⟨⟨⟨0, false, .east, .unknown, .east⟩, (⟨some ⟨"mount.yaml"⟩, Options.defaults⟩, .empty)⟩, [], []⟩

/-- A calibration and a flip, and then the same questions to both. -/
theorem performAll_restarted_flipped : ∃ c reopened offset fresh,
    OptionStore.ofPath formatOfForty .empty (some ⟨"mount.yaml"⟩) = .ok startedExact.kept.1 ∧
      startedExact.kept.1.offset = .ok 0 ∧ Controller.start 0 startedExact.kept .east none = .ok startedExact ∧
      performAll storingForty [converter (.recalibrate 40 none), sideChanged .west] startedExact =
        ([.ok .done, .ok .done], c) ∧
      OptionStore.ofPath formatOfForty c.kept.2 (some ⟨"mount.yaml"⟩) = .ok reopened ∧
      reopened.offset = .ok offset ∧ Controller.start offset (reopened, c.kept.2) .west (some .east) = .ok fresh ∧
      fresh.converter.offset = 40 ∧ fresh.converter.mountFlipped = true ∧
      (performAll storingForty [converter (.positionAngle 10 false), converter (.recalibrate 40 none)] fresh).1 =
        (performAll storingForty [converter (.positionAngle 10 false), converter (.recalibrate 40 none)] c).1 := by
  have hstore : OptionStore.ofPath formatOfForty .empty (some ⟨"mount.yaml"⟩) = .ok startedExact.kept.1 := rfl
  have hoffset : startedExact.kept.1.offset = .ok 0 := by decide +kernel
  have hstart : Controller.start 0 startedExact.kept .east none = .ok startedExact := by
    refine Controller.start_eq_ok_iff.2 ⟨rfl, ?_⟩
    rw [signed_of_mem (by norm_num)]
    rfl
  have hsigned : signed (40 : ℚ) = 40 := signed_of_mem (by norm_num)
  have hsave : (OptionStore.setOffset formatOfForty 40 startedExact.kept).1 = .ok () := by
    show (OptionStore.save formatOfForty ⟨some ⟨"mount.yaml"⟩, optionsOfForty⟩ .empty).1 = _
    rw [OptionStore.save_of_path rfl, formatOfForty_write (.refl _)]
    rfl
  have hanswers : (performAll storingForty [converter (.recalibrate 40 none), sideChanged .west] startedExact).1 =
      [.ok .done, .ok .done] := by
    have hfirst : ((converter (.recalibrate 40 none)).perform storingForty startedExact).1 = .ok .done := by
      show (((OptionStore.setOffset formatOfForty (signed 40) startedExact.kept).1.mapError _).map _).mapError _ = _
      rw [hsigned, hsave]
      rfl
    exact congrArg (· :: [.ok .done]) hfirst
  obtain ⟨c, hc⟩ : ∃ c, (performAll storingForty [converter (.recalibrate 40 none), sideChanged .west]
      startedExact).2 = c := ⟨_, rfl⟩
  have hflipped : c.converter.mountFlipped = true := hc ▸ rfl
  have hcOffset : c.converter.offset = signed 40 := hc ▸ rfl
  have hmount : c.converter.mountSide = .west := hc ▸ rfl
  have hcalibration : c.converter.calibrationSide = .east := hc ▸ rfl
  have hw : storingForty.keep = OptionStore.setOffset formatOfForty := rfl
  obtain ⟨reopened, offset, fresh, hreopened, hread, hfresh, hfreshOffset, hfreshFlipped, -, -, hlater⟩ :=
    performAll_restarted formatOfForty_lawful hw _ hstore hoffset hstart (by decide) (by simp [hanswers]) hc
  rw [hmount, hcalibration] at hfresh
  refine ⟨c, reopened, offset, fresh, hstore, hoffset, hstart, Prod.ext hanswers hc, hreopened, hread, hfresh, ?_, ?_,
    hlater _ (by decide)⟩
  · rw [hfreshOffset, hcOffset, hsigned]
  · rw [hfreshFlipped, hflipped]

end ControllerCall

end EquatorialMount
