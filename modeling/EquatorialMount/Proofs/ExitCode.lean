import EquatorialMount.Proofs.Program
import EquatorialMount.Proofs.Sphere.Determined

/-!
# The code of a run

What a run prints and the code it ends with depend on its samples, its latitude and the end of the axis asked for, and
on nothing else that its files hold (`Run.ofSamples_congr`).  What can be wrong is looked at in a fixed order: the
options, the file of samples, whether samples and latitude can be used, whether there is an axis, and only after the
axis has been printed whether the latitude is one (`Run.Course`).
-/

namespace EquatorialMount

open Scalar

variable {α : Type}

/-! ### Numbers of latitudes -/

/-- The number a latitude stands for, if it states one. -/
def Document.statedNumber [NumberReading α] (latitude : Document α) : Except ConversionError (Option α) :=
  match latitude.view with
  | .atom .null => .ok none
  | v => v.toNumber.map some

private theorem Document.statedNumber_of_null [NumberReading α] {latitude : Document α}
    (h : latitude.view = .atom .null) :
    latitude.statedNumber = .ok none := by
  rw [statedNumber, h]

private theorem Document.statedNumber_of_stated [NumberReading α] {latitude : Document α}
    (h : latitude.view ≠ .atom .null) :
    latitude.statedNumber = latitude.view.toNumber.map some := by
  unfold statedNumber
  split
  · exact absurd ‹_› h
  · rfl

/-- A text that no number is read from, or bytes. -/
inductive Document.LacksNumber [NumberReading α] (d : Document α) : Prop
  | text {s : ScalarText} (h : d.view = .atom (.text s))
      (hs : ∀ spelling, s.string? = some spelling → (NumberReading.ofText? spelling : Option α) = none)
  | bytes {content : List UInt8} (h : d.view = .atom (.bytes content))
      (hs : ∀ spelling, Atom.asciiText? content = some spelling → (NumberReading.ofText? spelling : Option α) = none)

private theorem ofSpelling_eq_notANumber_iff [NumberReading α] {spelling? : Option String} {quoted quoted' : String} :
    (Atom.toNumber.ofSpelling spelling? quoted : Except ConversionError α) = .error (.notANumber quoted') ↔
      (∀ spelling, spelling? = some spelling → (NumberReading.ofText? spelling : Option α) = none) ∧
        quoted = quoted' := by
  unfold Atom.toNumber.ofSpelling
  cases spelling? with
  | none => simp
  | some spelling => cases h : (NumberReading.ofText? spelling : Option α) <;> simp [h]

private theorem ofInt_ne_notANumber [NumberReading α] (n : Int) (quoted : String) :
    (Atom.toNumber.ofInt n : Except ConversionError α) ≠ .error (.notANumber quoted) := by
  unfold Atom.toNumber.ofInt
  split <;> exact fun h => by cases h

/-- Of all latitudes only texts and bytes are refused for what they spell. -/
private theorem Document.statedNumber_eq_notANumber_iff [NumberReading α] {latitude : Document α} :
    (∃ quoted, latitude.statedNumber = .error (.notANumber quoted)) ↔ latitude.LacksNumber := by
  have hstated (h : latitude.view ≠ .atom .null) (quoted : String) :
      latitude.statedNumber = .error (.notANumber quoted) ↔ latitude.view.toNumber = .error (.notANumber quoted) := by
    rw [statedNumber_of_stated h]
    cases latitude.view.toNumber <;> simp [Except.map]
  constructor
  · rintro ⟨quoted, h⟩
    have hview : latitude.view ≠ .atom .null := fun hnull => by cases (statedNumber_of_null hnull).symm.trans h
    rw [hstated hview] at h
    cases hshown : latitude.view with
    | atom a =>
      rw [hshown] at h
      cases a with
      | text s => exact .text hshown (ofSpelling_eq_notANumber_iff.1 h).1
      | bytes content => exact .bytes hshown (ofSpelling_eq_notANumber_iff.1 h).1
      | truth b => exact absurd h (ofInt_ne_notANumber _ _)
      | int n => exact absurd h (ofInt_ne_notANumber _ _)
      | _ => cases h
    | _ =>
      rw [hshown] at h
      cases h
  · intro h
    cases h with
    | @text s h hs =>
      refine ⟨s.quoted, (hstated (by rw [h]; nofun) _).2 ?_⟩
      rw [h]
      exact ofSpelling_eq_notANumber_iff.2 ⟨hs, rfl⟩
    | @bytes content h hs =>
      refine ⟨Text.quotedBytes content, (hstated (by rw [h]; nofun) _).2 ?_⟩
      rw [h]
      exact ofSpelling_eq_notANumber_iff.2 ⟨hs, rfl⟩

/-- Whether a number is a latitude in degrees. -/
def Latitude.InRange [Scalar α] (x : α) : Prop := isFinite x = true ∧ -ofNat 90 ≤ x ∧ x ≤ ofNat 90

namespace Run

/-- Three finite samples, and a latitude that is no text without a number in it. -/
structure Fit [Scalar α] [NumberReading α] (samples : List (AnglePair α)) (latitude : Document α) : Prop where
  length_eq : samples.length = 3
  number : ¬latitude.LacksNumber
  finite : ∀ p ∈ samples, isFinite p.primary = true ∧ isFinite p.secondary = true

/-- How a run goes on with its samples and its latitude: the code it ends with and what it prints. -/
inductive Course [Trig α] [NumberReading α] (samples : List (AnglePair α)) (latitude : Document α) (north : Bool) :
    Nat → List (ReportLine α) → Prop
  | unfit (h : ¬Fit samples latitude) : Course samples latitude north 2 []
  /-- There is no axis, and the latitude does not count. -/
  | noAxis {s : Samples α} (h : Fit samples latitude) (hs : samples = [s.first, s.second, s.third])
      (haxis : s.rotationAxis = .zero) : Course samples latitude north 1 []
  /-- The axis is printed before the latitude is looked at. -/
  | noLatitude {s : Samples α} {v : Vec3 α} {p : AnglePair α} {x : α} (h : Fit samples latitude)
      (hs : samples = [s.first, s.second, s.third]) (haxis : s.rotationAxis ≠ .zero)
      (hend : Report.oriented s.rotationAxis north = (v, p)) (hx : latitude.statedNumber = .ok (some x))
      (hrange : ¬Latitude.InRange x) :
      Course samples latitude north 2 [.axis v, .hourAngle p.primary, .declination p.secondary]
  | full {s : Samples α} {v : Vec3 α} {p : AnglePair α} {lines : List (ReportLine α)} (h : Fit samples latitude)
      (hs : samples = [s.first, s.second, s.third]) (haxis : s.rotationAxis ≠ .zero)
      (hend : Report.oriented s.rotationAxis north = (v, p))
      (hrange : ∀ x, latitude.statedNumber = .ok (some x) → Latitude.InRange x) :
      Course samples latitude north 0 ([.axis v, .hourAngle p.primary, .declination p.secondary] ++ lines)

section Stages

variable [Trig α] [NumberReading α] {samples : List (AnglePair α)} {latitude : Document α}

private theorem ofSamples_of_length_ne (h : samples.length ≠ 3) (notices : List (Notice α)) (latitude : Document α)
    (north : Bool) :
    ofSamples notices samples latitude north = refused (notices ++ [.sampleCount samples.length]) := by
  unfold ofSamples
  split
  · exact absurd rfl h
  · rfl

private theorem ofSamples_of_three (notices : List (Notice α)) (a b c : AnglePair α) (latitude : Document α)
    (north : Bool) :
    ofSamples notices [a, b, c] latitude north = match latitude.statedNumber with
      | .ok x => ofReport notices ⟨a, b, c⟩ x north
      | .error e =>
        if e.isOfValue then refused (notices ++ [.latitudeRefused e]) else crashed notices (.latitude e) := by
  unfold ofSamples
  dsimp only
  split
  · rw [Document.statedNumber_of_null ‹_›]
  · rw [Document.statedNumber_of_stated ‹_›]
    cases latitude.view.toNumber <;> rfl

omit [NumberReading α] in
private theorem ofReport_congr (notices notices' : List (Notice α)) (s : Samples α) (latitude : Option α)
    (north : Bool) :
    (ofReport notices s latitude north).lines = (ofReport notices' s latitude north).lines ∧
      (ofReport notices s latitude north).ending = (ofReport notices' s latitude north).ending := by
  unfold ofReport
  dsimp only
  split <;> exact ⟨rfl, rfl⟩

/-- Of the latitude only the number counts that it stands for. -/
theorem ofSamples_congr {latitude' : Document α} (h : latitude.statedNumber = latitude'.statedNumber)
    (notices notices' : List (Notice α)) (samples : List (AnglePair α)) (north : Bool) :
    (ofSamples notices samples latitude north).lines = (ofSamples notices' samples latitude' north).lines ∧
      (ofSamples notices samples latitude north).ending = (ofSamples notices' samples latitude' north).ending := by
  by_cases hcount : samples.length = 3
  · obtain ⟨a, b, c, rfl⟩ := List.length_eq_three.1 hcount
    rw [ofSamples_of_three, ofSamples_of_three, h]
    cases latitude'.statedNumber with
    | ok x => exact ofReport_congr notices notices' _ x north
    | error e =>
      dsimp only
      split <;> exact ⟨rfl, rfl⟩
  · rw [ofSamples_of_length_ne hcount, ofSamples_of_length_ne hcount]
    exact ⟨rfl, rfl⟩

/-- With files that cannot be used nothing is printed. -/
private theorem lines_of_unusable {format : DocumentFormat α} {disk : Disk} {standard : Path} {request : Request α}
    (h : request.Unusable format disk standard) : (ofRequest format disk standard request).lines = [] := by
  obtain ⟨notices, hrun | ⟨crash, hrun⟩⟩ := refused_or_crashed_of_unusable h <;> rw [hrun] <;> rfl

end Stages

end Run

/-! ### The report on three samples -/

namespace Report

variable [Trig α] {s : Samples α} {v : Vec3 α} {x lat : α} {e : AxisError α}

private theorem siteLines_of_error (hv : v.checkDetermined = .ok v) (h : (Latitude.degrees x).checked = .error e) :
    siteLines v x = .error e := by
  simp only [siteLines, HorizontalDirection.ofAxis?, HorizontalDirection.ofEquatorial?, hv, h, bind, Except.bind]

private theorem siteLines_of_ok (hv : v.checkDetermined = .ok v) (h : (Latitude.degrees x).checked = .ok lat) :
    ∃ lines, siteLines v x = .ok lines := by
  simp only [siteLines, HorizontalDirection.ofAxis?, HorizontalDirection.ofEquatorial?, PolarError.ofAxis?, hv, h, bind,
    Except.bind]
  exact ⟨_, rfl⟩

private theorem ofSamples_of_error (h : s.checkFinite = .error e) (latitude : Option α) (north : Bool) :
    ofSamples s latitude north = ⟨[], .error e⟩ := by
  simp only [ofSamples, Samples.rotationAxis?, h, bind, Except.bind]

private theorem ofSamples_of_undetermined (hs : s.checkFinite = .ok ()) (h : isUndetermined s.rotationAxis zero = true)
    (latitude : Option α) (north : Bool) : ofSamples s latitude north = ⟨[], .ok false⟩ := by
  simp only [ofSamples, Samples.rotationAxis?, hs, h, bind, Except.bind, pure, Except.pure, if_true]

section Determined

variable (hs : s.checkFinite = .ok ()) (h : isUndetermined s.rotationAxis zero = false)

include hs h

private theorem ofSamples_of_determined_none (north : Bool) : ofSamples s none north =
    ⟨axisLines (oriented s.rotationAxis north).1 (oriented s.rotationAxis north).2, .ok true⟩ := by
  simp only [ofSamples, Samples.rotationAxis?, hs, h, bind, Except.bind, pure, Except.pure, Bool.false_eq_true,
    if_false]

private theorem ofSamples_of_siteLines {north : Bool} {lines : List (ReportLine α)}
    (hlines : siteLines (oriented s.rotationAxis north).1 x = .ok lines) : ofSamples s (some x) north =
      ⟨axisLines (oriented s.rotationAxis north).1 (oriented s.rotationAxis north).2 ++ lines, .ok true⟩ := by
  simp only [ofSamples, Samples.rotationAxis?, hs, h, hlines, bind, Except.bind, pure, Except.pure, Bool.false_eq_true,
    if_false]

private theorem ofSamples_of_siteLines_error {north : Bool}
    (hlines : siteLines (oriented s.rotationAxis north).1 x = .error e) : ofSamples s (some x) north =
      ⟨axisLines (oriented s.rotationAxis north).1 (oriented s.rotationAxis north).2, .error e⟩ := by
  simp only [ofSamples, Samples.rotationAxis?, hs, h, hlines, bind, Except.bind, pure, Except.pure, Bool.false_eq_true,
    if_false]

end Determined

end Report

/-! ### Runs over a library -/

section Library

variable {lib : Library}

namespace Latitude

variable {x : WithLibrary lib}

private theorem inRange_iff : InRange x ↔ (isFinite x && abs x ≤ ofNat 90) = true := by
  rw [Bool.and_eq_true, decide_eq_true_iff]
  unfold InRange
  refine and_congr_right fun hx => ?_
  have hbound : Binary64.ofFloat? (ofNat 90 : Float) = some ⟨false, 0x16800000000000, -46⟩ := by decide +kernel
  exact (Float64.abs_le_iff hx hbound (Binary64.size_nonneg _)).symm

private theorem checked_of_inRange (h : InRange x) : (degrees x).checked = .ok x := by
  rw [inRange_iff] at h
  simp only [checked, inDegrees, bind, Except.bind, h, if_true]

private theorem checked_of_not_inRange (h : ¬InRange x) : (degrees x).checked = .error (.latitudeOutOfRange x) := by
  rw [inRange_iff, Bool.not_eq_true] at h
  simp only [checked, inDegrees, bind, Except.bind, h, Bool.false_eq_true, if_false]

end Latitude

namespace Run

open Report (axisLines oriented)

variable {samples : List (AnglePair (WithLibrary lib))} {latitude : Document (WithLibrary lib)}
  {s : Samples (WithLibrary lib)} {number : Option (WithLibrary lib)} {north : Bool}
  {code : Nat} (notices : List (Notice (WithLibrary lib)))

private theorem isUndetermined_zero : isUndetermined (.zero : Vec3 (WithLibrary lib)) zero = true := by
  have hzero : (zero * zero + zero * zero + zero * zero : Float).sqrt ≤ zero := by decide +kernel
  exact decide_eq_true hzero

private theorem ofReport_of_ok {hasAxis : Bool} {lines : List (ReportLine (WithLibrary lib))}
    (h : Report.ofSamples s number north = ⟨lines, .ok hasAxis⟩) :
    (ofReport notices s number north).lines = lines ∧
      (ofReport notices s number north).ending = .ok (if hasAxis then 0 else 1) := by
  simp [ofReport, h]

private theorem ofReport_of_error {e : AxisError (WithLibrary lib)} {lines : List (ReportLine (WithLibrary lib))}
    (h : Report.ofSamples s number north = ⟨lines, .error e⟩) :
    (ofReport notices s number north).lines = lines ∧ (ofReport notices s number north).ending = .ok 2 := by
  simp [ofReport, h]

private theorem course_of_report (hlib : lib.Accurate) (hfit : Fit s.toList latitude)
    (hnumber : latitude.statedNumber = .ok number) :
    ∃ code, (ofReport notices s number north).ending = .ok code ∧
      Course s.toList latitude north code (ofReport notices s number north).lines := by
  have hs : s.checkFinite = .ok () :=
    Samples.checkFinite_ok_iff.2 fun p hp => AnglePair.checkFinite_ok_iff.2 (hfit.finite p hp)
  by_cases haxis : s.rotationAxis = .zero
  · have hzero : isUndetermined s.rotationAxis zero = true := haxis ▸ isUndetermined_zero
    obtain ⟨hlines, hending⟩ := ofReport_of_ok notices (Report.ofSamples_of_undetermined hs hzero number north)
    exact ⟨1, hending, hlines ▸ .noAxis hfit rfl haxis⟩
  · obtain ⟨hwithin, hreaches⟩ := (Samples.rotationAxis_cases hlib hs).resolve_left haxis
    have hdetermined : isUndetermined s.rotationAxis zero = false :=
      (Vec3.checkDetermined_ok_iff.1
        (hreaches.checkDetermined hwithin (by norm_num) (by norm_num) (by norm_num))).2.2
    -- no end of such an axis is refused, so only the latitude is left to be looked at
    have horiented := Report.oriented_checkDetermined hlib hwithin hreaches north
    cases number with
    | none =>
      obtain ⟨hlines, hending⟩ := ofReport_of_ok notices (Report.ofSamples_of_determined_none hs hdetermined north)
      refine ⟨0, hending, ?_⟩
      rw [hlines, ← List.append_nil (axisLines _ _)]
      exact .full hfit rfl haxis rfl fun y hy => by cases hnumber.symm.trans hy
    | some x =>
      by_cases hrange : Latitude.InRange x
      · obtain ⟨lines, hsite⟩ := Report.siteLines_of_ok horiented (Latitude.checked_of_inRange hrange)
        obtain ⟨hlines, hending⟩ := ofReport_of_ok notices (Report.ofSamples_of_siteLines hs hdetermined hsite)
        refine ⟨0, hending, hlines ▸ .full hfit rfl haxis rfl fun y hy => ?_⟩
        cases hnumber.symm.trans hy
        exact hrange
      · have hsite := Report.siteLines_of_error horiented (Latitude.checked_of_not_inRange hrange)
        obtain ⟨hlines, hending⟩ := ofReport_of_error notices
          (Report.ofSamples_of_siteLines_error hs hdetermined hsite)
        exact ⟨2, hending, hlines ▸ .noLatitude hfit rfl haxis rfl hnumber hrange⟩

private theorem refused_of_not_fit (hfit : ¬Fit samples latitude)
    (hcode : (ofSamples notices samples latitude north).ending = .ok code) :
    code = 2 ∧ (ofSamples notices samples latitude north).lines = [] := by
  by_cases hcount : samples.length = 3
  · obtain ⟨a, b, c, rfl⟩ := List.length_eq_three.1 hcount
    rw [ofSamples_of_three] at hcode ⊢
    -- the latitude is read before the samples are looked at
    cases hnumber : latitude.statedNumber with
    | ok number =>
      rw [hnumber] at hcode
      cases hfinite : Samples.checkFinite ⟨a, b, c⟩ with
      | ok _ =>
        refine absurd ⟨hcount, fun h => ?_, fun p hp => ?_⟩ hfit
        · obtain ⟨quoted, hquoted⟩ := Document.statedNumber_eq_notANumber_iff.2 h
          cases hnumber.symm.trans hquoted
        · exact AnglePair.checkFinite_ok_iff.1 (Samples.checkFinite_ok_iff.1 hfinite p hp)
      | error e =>
        obtain ⟨hlines, hending⟩ := ofReport_of_error notices (Report.ofSamples_of_error hfinite number north)
        cases hending.symm.trans hcode
        exact ⟨rfl, hlines⟩
    | error e =>
      rw [hnumber] at hcode
      dsimp only at hcode ⊢
      by_cases hvalue : e.isOfValue = true
      · rw [if_pos hvalue] at hcode ⊢
        cases hcode
        exact ⟨rfl, rfl⟩
      · rw [if_neg hvalue] at hcode
        cases hcode
  · rw [ofSamples_of_length_ne hcount] at hcode ⊢
    cases hcode
    exact ⟨rfl, rfl⟩

/-- A run that ends with a code takes the course its samples and its latitude give it. -/
private theorem course_of_ofSamples (hlib : lib.Accurate)
    (hcode : (ofSamples notices samples latitude north).ending = .ok code) :
    Course samples latitude north code (ofSamples notices samples latitude north).lines := by
  by_cases hfit : Fit samples latitude
  · obtain ⟨a, b, c, rfl⟩ := List.length_eq_three.1 hfit.length_eq
    rw [ofSamples_of_three] at hcode ⊢
    cases hnumber : latitude.statedNumber with
    | ok number =>
      rw [hnumber] at hcode
      obtain ⟨code', hending, hcourse⟩ : ∃ code', (ofReport notices ⟨a, b, c⟩ number north).ending = .ok code' ∧
          Course [a, b, c] latitude north code' (ofReport notices ⟨a, b, c⟩ number north).lines :=
        course_of_report notices hlib hfit hnumber
      cases hending.symm.trans hcode
      exact hcourse
    | error e =>
      rw [hnumber] at hcode
      cases e with
      | notANumber quoted => exact absurd (Document.statedNumber_eq_notANumber_iff.1 ⟨quoted, hnumber⟩) hfit.number
      | _ => cases hcode -- such a run has no code
  · obtain ⟨rfl, hlines⟩ := refused_of_not_fit notices hfit hcode
    rw [hlines]
    exact .unfit hfit

end Run

namespace CommandLine

open Run (Course Uncaught)

private theorem separatesKeys_yaml (lib : Library) (order : SetOrder Float) :
    (WithLibrary.yaml lib order).SeparatesKeys :=
  (DocumentFormat.readsSeparated_yaml : (DocumentFormat.yaml order).ReadsSeparated).separatesKeys

private theorem eq_ofRequest {order : SetOrder Float} {standard : Path} {arguments : List String} {disk : Disk}
    {request : Request (WithLibrary lib)} {r : Run (WithLibrary lib)} (hrequest : requested? arguments = some request)
    (hrun : runWith? lib order standard arguments disk = some r) :
    r = Run.ofRequest (WithLibrary.yaml lib order) disk standard request := by
  rw [runWith?, hrequest] at hrun
  exact (Option.some.inj hrun).symm

/-- With which code a run on the command line ends, and what it has printed by then.  It ends with a code unless a fault
of its input is not handled.  The code is 2, and nothing is printed, if the options or the file of samples cannot be
used, even a file whose samples are not needed; otherwise there are samples and a latitude, and the run takes their
course.  Two runs with the same samples, the same latitude and the same end of the axis asked for print the same and end
alike, whatever else their files hold. -/
theorem code_of_run (hlib : lib.Accurate) :
    (∀ (order : SetOrder Float) (standard : Path) (arguments : List String) (disk : Disk)
        (request : Request (WithLibrary lib)) (r : Run (WithLibrary lib)), requested? arguments = some request →
        runWith? lib order standard arguments disk = some r →
        ((∃ code, r.ending = .ok code) ↔ ∀ crash, ¬Uncaught (WithLibrary.yaml lib order) disk standard request crash) ∧
        ∀ code, r.ending = .ok code →
          (request.Unusable (WithLibrary.yaml lib order) disk standard → code = 2 ∧ r.lines = []) ∧
          (¬request.Unusable (WithLibrary.yaml lib order) disk standard →
            ∃ samples latitude, request.GoesBy (WithLibrary.yaml lib order) disk standard samples latitude) ∧
          ∀ samples latitude, request.GoesBy (WithLibrary.yaml lib order) disk standard samples latitude →
            Course samples latitude request.north code r.lines) ∧
      ∀ (order order' : SetOrder Float) (standard standard' : Path) (arguments arguments' : List String)
        (disk disk' : Disk) (request request' : Request (WithLibrary lib)) (r r' : Run (WithLibrary lib))
        (samples : List (AnglePair (WithLibrary lib))) (latitude latitude' : Document (WithLibrary lib)),
        requested? arguments = some request → runWith? lib order standard arguments disk = some r →
        requested? arguments' = some request' → runWith? lib order' standard' arguments' disk' = some r' →
        request.GoesBy (WithLibrary.yaml lib order) disk standard samples latitude →
        request'.GoesBy (WithLibrary.yaml lib order') disk' standard' samples latitude' →
        latitude.statedNumber = latitude'.statedNumber → request.north = request'.north →
        r.lines = r'.lines ∧ r.ending = r'.ending := by
  constructor
  · intro order standard arguments disk request r hrequest hrun
    have hformat := separatesKeys_yaml lib order
    obtain rfl := eq_ofRequest hrequest hrun
    constructor
    · rw [← not_iff_not]
      simp only [not_forall, not_not, ← Run.ofRequest_crash_iff hformat]
      cases (Run.ofRequest (WithLibrary.yaml lib order) disk standard request).ending <;> simp
    · intro code hcode
      refine ⟨fun hunusable => ?_, Request.exists_goesBy hformat, fun samples latitude hgoes => ?_⟩
      · refine ⟨?_, Run.lines_of_unusable hunusable⟩
        obtain hending | ⟨crash, hending⟩ := Run.ofRequest_of_unusable hunusable
        · exact Except.ok.inj (hcode.symm.trans hending)
        · cases hcode.symm.trans hending
      · obtain ⟨notices, heq⟩ := Run.ofRequest_of_goesBy hformat hgoes
        rw [heq] at hcode ⊢
        exact Run.course_of_ofSamples notices hlib hcode
  · intro order order' standard standard' arguments arguments' disk disk' request request' r r' samples latitude
      latitude' hrequest hrun hrequest' hrun' hgoes hgoes' hlatitude hnorth
    obtain rfl := eq_ofRequest hrequest hrun
    obtain rfl := eq_ofRequest hrequest' hrun'
    obtain ⟨notices, heq⟩ := Run.ofRequest_of_goesBy (separatesKeys_yaml lib order) hgoes
    obtain ⟨notices', heq'⟩ := Run.ofRequest_of_goesBy (separatesKeys_yaml lib order') hgoes'
    rw [heq, heq', hnorth]
    exact Run.ofSamples_congr hlatitude notices notices' samples request'.north

/-- Three samples a quarter turn apart, for a latitude beyond the pole. -/
def quarterRequest (config : Stated Path) : Request (WithLibrary .quarterTurns) :=
  ⟨[⟨zero, zero⟩, ⟨ofNat 90, zero⟩, ⟨ofNat 180, zero⟩], .missing, .value (ofNat 91), config, false⟩

/-- A disk with options that state a latitude. -/
def latitudeDisk : Disk := ⟨[(["c.yaml"], .file (some "polar_alignment:\n  latitude: 10"))]⟩

/-- The axis is printed before a latitude beyond the pole is refused, whatever latitude the options state, and whether
they are named or the standard ones. -/
theorem code_of_run_beyond_pole :
    ∃ r r', runWith? .quarterTurns .asWritten ⟨"c.yaml"⟩
        ["--sample", "0", "0", "--sample", "90", "0", "--sample", "180", "0", "--latitude", "91"] .empty = some r ∧
      runWith? .quarterTurns .asWritten ⟨"s.yaml"⟩
        ["-c", "c.yaml", "--sample", "0", "0", "--sample", "90", "0", "--sample", "180", "0", "--latitude", "91"]
        latitudeDisk = some r' ∧
      r.ending = .ok 2 ∧ r.lines = [.axis ⟨zero, zero, one⟩, .hourAngle zero, .declination (ofNat 90)] ∧
      r'.lines = r.lines ∧ r'.ending = r.ending := by
  obtain ⟨hcourse, hsame⟩ := code_of_run Library.quarterTurns_accurate
  have hrequest : requested?
      ["--sample", "0", "0", "--sample", "90", "0", "--sample", "180", "0", "--latitude", "91"] =
      some (quarterRequest .missing) := by decide +kernel
  have hrequest' : requested?
      ["-c", "c.yaml", "--sample", "0", "0", "--sample", "90", "0", "--sample", "180", "0", "--latitude", "91"] =
      some (quarterRequest (.value ⟨"c.yaml"⟩)) := by decide +kernel
  have hrun {standard : Path} {arguments : List String} {disk : Disk} {config : Stated Path}
      (h : requested? arguments = some (quarterRequest config)) :
      runWith? .quarterTurns .asWritten standard arguments disk =
        some (Run.ofRequest (WithLibrary.yaml .quarterTurns .asWritten) disk standard (quarterRequest config)) := by
    rw [runWith?, h]
    rfl
  have hgoes (standard path : Path) (disk : Disk) (config : Stated Path)
      (hpath : (quarterRequest config).OptionsAt standard path)
      (hok : (Options.load (WithLibrary.yaml .quarterTurns .asWritten) disk path).isOk = true) :
      (quarterRequest config).GoesBy (WithLibrary.yaml .quarterTurns .asWritten) disk standard
        (quarterRequest config).samples (.ofAtom (.number (ofNat 91))) := by
    cases hload : Options.load (WithLibrary.yaml .quarterTurns .asWritten) disk path with
    | error e =>
      rw [hload] at hok
      cases hok
    | ok options =>
      have hfinds : (quarterRequest config).Finds (WithLibrary.yaml .quarterTurns .asWritten) disk standard options :=
        ⟨path, hpath, hload⟩
      exact ⟨Request.usable_of_found hfinds rfl, .stated (List.cons_ne_nil _ _), .stated rfl⟩
  have hstandard := hgoes ⟨"c.yaml"⟩ ⟨"c.yaml"⟩ .empty .missing (.standard rfl) (by decide +kernel)
  have hnamed := hgoes ⟨"s.yaml"⟩ ⟨"c.yaml"⟩ latitudeDisk (.value ⟨"c.yaml"⟩) (.named rfl) (by decide +kernel)
  have hending : (Run.ofRequest (WithLibrary.yaml .quarterTurns .asWritten) .empty ⟨"c.yaml"⟩
      (quarterRequest .missing)).ending = .ok 2 := by decide +kernel
  obtain ⟨hlines, hending'⟩ := hsame _ _ _ _ _ _ _ _ _ _ _ _ _ _ _ hrequest' (hrun hrequest') hrequest (hrun hrequest)
    hnamed hstandard rfl rfl
  refine ⟨_, _, hrun hrequest, hrun hrequest', hending, ?_, hlines, hending'⟩
  have hcourse := ((hcourse _ _ _ _ _ _ hrequest (hrun hrequest)).2 2 hending).2.2 _ _ hstandard
  generalize (Run.ofRequest (WithLibrary.yaml .quarterTurns .asWritten) .empty ⟨"c.yaml"⟩
    (quarterRequest .missing)).lines = lines at hcourse
  cases hcourse with
  | unfit h =>
    have hfinite : ∀ p ∈ (quarterRequest .missing).samples,
        isFinite p.primary = true ∧ isFinite p.secondary = true := by decide +kernel
    exact absurd ⟨rfl, nofun, hfinite⟩ h
  | @noLatitude s v p x h hs haxis hend hx hrange =>
    obtain ⟨a, b, c⟩ := s
    cases hs
    obtain ⟨rfl, rfl⟩ := Prod.ext_iff.1 hend
    decide +kernel

end CommandLine

end Library

end EquatorialMount
