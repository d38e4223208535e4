import EquatorialMount.CommandLine.Session
import EquatorialMount.Proofs.Request
import EquatorialMount.Proofs.Samples

/-!
# How a run ends

A run ends with code 0, 1 or 2, and its log has an error exactly if the code is not zero; but a few faults of its input
are not handled, and then it ends without a code.  Those of the options are faults of the file itself, which is a folder
or no text, and scalars that denote nothing; of the file of samples and of the latitude only a few values are not
handled (`Uncaught`).  Whatever else makes the options or the file of samples unusable ends the run with code 2
(`CommandLine.ending_of_session`).
-/

namespace EquatorialMount

variable {α : Type}

/-! ### Options that cannot be loaded -/

namespace Options

/-- The faults of a file of options that a run does not handle. -/
inductive Unloadable (format : DocumentFormat α) (disk : Disk) (path : Path) : OptionsError → Prop
  | folder {place : List String} (h : disk.find path = .folder place) :
      Unloadable format disk path (.file (.isFolder path))
  | bytes {place : List String} (h : disk.find path = .file place none) :
      Unloadable format disk path (.file .undecodable)
  | name (h : disk.find path = .tooLong) : Unloadable format disk path (.file (.tooLong path))
  | scalar {text : String} {e : DocumentError} (hread : disk.read path = .ok text) (h : format.read text = .error e)
      (he : ∀ problem, e ≠ .malformed problem) : Unloadable format disk path (.unreadable e)

variable [NumberReading α]

private theorem isHandled_of_checkSection {path : Path} {name : String} {d : Document α} {e : OptionsError}
    (h : checkSection path name d = .error e) : e.isHandled = true := by
  unfold checkSection at h
  split at h
  · cases h
  · split at h
    · cases h
    · cases h
    · cases h
      rfl

private theorem isHandled_of_sectionsOf {path : Path} {d : Document α} {e : OptionsError}
    (h : sectionsOf path d = .error e) :
    e.isHandled = true := by
  have hsections {d : Document α}
      (h : checkSection path "rotator" d >>= checkSection path "polar_alignment" = .error e) : e.isHandled = true := by
    cases hrotator : checkSection path "rotator" d with
    | error e' =>
      rw [hrotator] at h
      cases h
      exact isHandled_of_checkSection hrotator
    | ok checked =>
      rw [hrotator] at h
      exact isHandled_of_checkSection (h : checkSection path "polar_alignment" checked = .error e)
  unfold sectionsOf at h
  split at h
  · exact hsections h
  · exact hsections (d := d.holding (.map [])) h
  · cases h
    rfl

variable [Scalar α]

/-- A document can only fail to be options by its shape. -/
private theorem isHandled_of_ofDocument {path : Path} {d : Document α} {e : OptionsError}
    (h : ofDocument path d = .error e) :
    e.isHandled = true := by
  unfold ofDocument at h
  cases hsections : sectionsOf path d with
  | error e' =>
    rw [hsections] at h
    cases h
    exact isHandled_of_sectionsOf hsections
  | ok checked =>
    rw [hsections] at h
    cases h

variable {format : DocumentFormat α} {disk : Disk} {path : Path} {e : OptionsError}

private theorem load_of_doesExist_error {fault : FileError} (h : disk.doesExist path = .error fault) :
    load format disk path = .error (.file fault) := by
  unfold load
  rw [h]
  rfl

private theorem load_of_absent (h : disk.doesExist path = .ok false) : load format disk path = .ok defaults := by
  unfold load
  rw [h]
  rfl

theorem load_of_read_error {fault : FileError} (hexists : disk.doesExist path = .ok true)
    (hread : disk.read path = .error fault) : load format disk path = .error (.file fault) := by
  unfold load
  rw [hexists, hread]
  rfl

/-- Loading finds a fault that is not handled exactly if the file has one. -/
theorem load_unhandled_iff :
    load format disk path = .error e ∧ e.isHandled = false ↔ Unloadable format disk path e := by
  constructor
  · rintro ⟨hload, he⟩
    cases hfind : disk.find path with
    | folder place =>
      have hexists : disk.doesExist path = .ok true := by rw [Disk.doesExist, hfind]
      have hread : disk.read path = .error (.isFolder path) := by rw [Disk.read, hfind]
      cases (load_of_read_error hexists hread).symm.trans hload
      exact .folder hfind
    | file place text? =>
      have hexists : disk.doesExist path = .ok true := by rw [Disk.doesExist, hfind]
      cases text? with
      | none =>
        have hread : disk.read path = .error .undecodable := by rw [Disk.read, hfind]
        cases (load_of_read_error hexists hread).symm.trans hload
        exact .bytes hfind
      | some text =>
        have hread : disk.read path = .ok (String.ofList (Disk.unifyBreaks text.toList)) := by rw [Disk.read, hfind]
        rw [load_of_text hexists hread] at hload
        split at hload
        · rw [isHandled_of_ofDocument hload] at he
          cases he
        · cases hload
          cases he
        · rename_i fault hne hfault
          cases hload
          exact .scalar hread hfault hne
    | tooLong =>
      have hexists : disk.doesExist path = .error (.tooLong path) := by rw [Disk.doesExist, hfind]
      cases (load_of_doesExist_error hexists).symm.trans hload
      exact .name hfind
    | _ =>
      have hexists : disk.doesExist path = .ok false := by rw [Disk.doesExist, hfind]
      cases (load_of_absent hexists).symm.trans hload
  · intro h
    cases h with
    | folder hfind =>
      exact ⟨load_of_read_error (by rw [Disk.doesExist, hfind]) (by rw [Disk.read, hfind]), rfl⟩
    | bytes hfind =>
      exact ⟨load_of_read_error (by rw [Disk.doesExist, hfind]) (by rw [Disk.read, hfind]), rfl⟩
    | name hfind => exact ⟨load_of_doesExist_error (by rw [Disk.doesExist, hfind]), rfl⟩
    | @scalar text fault hread hfault hne =>
      have hexists : disk.doesExist path = .ok true := Disk.doesExist_of_read hread
      rw [load_of_text hexists hread, hfault]
      cases fault with
      | malformed problem => exact absurd rfl (hne problem)
      | _ => exact ⟨rfl, rfl⟩

end Options

/-! ### Errors in the log -/

namespace Notice

/-- Whether a notice is an error, not a warning. -/
def isError : Notice α → Bool
  | optionsMissing _ => false
  | nearlyCollinear _ => false
  | _ => true

/-- A notice is an error exactly if its line starts so. -/
private theorem isError_iff {notice : Notice Float} {w : Wording} :
    notice.isError = true ↔ ∃ message, notice.text w = "ERROR: " ++ message := by
  have hwarning {line : String} (h : line.toList.head? = some 'W') : ¬∃ message, line = "ERROR: " ++ message := by
    rintro ⟨message, rfl⟩
    rw [String.toList_append] at h
    exact absurd h (by simp)
  have herror (start rest : String) : ∃ message, "ERROR: " ++ start ++ rest = "ERROR: " ++ message :=
    ⟨start ++ rest, String.append_assoc⟩
  cases notice with
  | optionsMissing path =>
    refine iff_of_false Bool.false_ne_true (hwarning ?_)
    unfold Notice.text
    rw [String.toList_append, String.toList_append]
    rfl
  | nearlyCollinear length =>
    refine iff_of_false Bool.false_ne_true (hwarning ?_)
    unfold Notice.text
    rw [String.toList_append, String.toList_append]
    rfl
  | samplesRefused e => exact iff_of_true rfl (herror "Failed to read samples: " _)
  | sampleCount found => exact iff_of_true rfl (herror "Exactly three samples are required, got " _)
  | undetermined => exact iff_of_true rfl ⟨"Samples are collinear or coincide, rotation axis undetermined", rfl⟩
  | optionsRefused e => exact iff_of_true rfl ⟨_, rfl⟩
  | axisRefused e => exact iff_of_true rfl ⟨_, rfl⟩
  | latitudeRefused e => exact iff_of_true rfl ⟨_, rfl⟩

end Notice

namespace Run

/-- The log of a run has an error exactly if the run ends with a code that is not zero, which is then 1 or 2. -/
structure Telling (r : Run α) : Prop where
  code_le {code : Nat} (h : r.ending = .ok code) : code ≤ 2
  error_iff : (∃ notice ∈ r.notices, notice.isError = true) ↔ ∃ code, r.ending = .ok code ∧ code ≠ 0

private theorem Telling.of_error {r : Run α} {code : Nat} {notice : Notice α} (hending : r.ending = .ok code)
    (hcode : code = 1 ∨ code = 2) (hmem : notice ∈ r.notices) (herror : notice.isError = true) : r.Telling where
  code_le h := by
    cases hending.symm.trans h
    omega
  error_iff := iff_of_true ⟨notice, hmem, herror⟩ ⟨code, hending, by omega⟩

private theorem Telling.of_not_error {r : Run α} (hnotices : ∀ notice ∈ r.notices, notice.isError = false)
    (hending : ∀ code, r.ending = .ok code → code = 0) : r.Telling where
  code_le h := by
    cases hending _ h
    exact Nat.zero_le _
  error_iff := iff_of_false
    (fun ⟨notice, hmem, herror⟩ => Bool.false_ne_true ((hnotices notice hmem).symm.trans herror))
    (fun ⟨code, h, hcode⟩ => hcode (hending code h))

variable {notices : List (Notice α)}

private theorem refused_telling {notice : Notice α} (h : notice.isError = true) :
    (refused (notices ++ [notice])).Telling :=
  .of_error rfl (.inr rfl) (List.mem_append_right _ (List.mem_singleton.2 rfl)) h

private theorem crashed_telling (h : ∀ notice ∈ notices, notice.isError = false) (crash : Crash) :
    (crashed notices crash).Telling := .of_not_error h fun _ hcode => by cases hcode

section Stages

variable [Trig α]

private theorem isError_of_mem_warnings {samples : Samples α} {notice : Notice α}
    (h : notice ∈ Report.warnings samples) :
    notice.isError = false := by
  unfold Report.warnings at h
  split at h
  · obtain ⟨length, -, rfl⟩ := Option.map_eq_some_iff.1 (Option.mem_toList.1 h)
    rfl
  · cases h

private theorem ofReport_telling (h : ∀ notice ∈ notices, notice.isError = false) (samples : Samples α)
    (latitude : Option α) (north : Bool) : (ofReport notices samples latitude north).Telling := by
  unfold ofReport
  generalize Report.ofSamples samples latitude north = r
  cases hending : r.ending with
  | error e =>
    simp only [hending]
    exact .of_error rfl (.inr rfl) (List.mem_append_right _ (List.mem_singleton_self (Notice.axisRefused e))) rfl
  | ok hasAxis =>
    have hcomplaints : r.complaints = if hasAxis then [] else [.undetermined] := by
      unfold Report.complaints
      rw [hending]
      cases hasAxis <;> rfl
    simp only [hending, hcomplaints]
    cases hasAxis with
    | false =>
      exact .of_error rfl (.inl rfl) (List.mem_append_right _ (List.mem_singleton_self Notice.undetermined)) rfl
    | true =>
      refine .of_not_error (fun notice hmem => ?_) fun _ hcode => by cases hcode; rfl
      rw [if_pos rfl, List.append_nil] at hmem
      exact (List.mem_append.1 hmem).elim (h notice) isError_of_mem_warnings

variable [NumberReading α]

private theorem ofSamples_telling (h : ∀ notice ∈ notices, notice.isError = false) (samples : List (AnglePair α))
    (latitude : Document α) (north : Bool) : (ofSamples notices samples latitude north).Telling := by
  unfold ofSamples
  split
  · split
    · exact ofReport_telling h _ _ _
    · split
      · exact ofReport_telling h _ _ _
      · split
        · exact refused_telling rfl
        · exact crashed_telling h _
  · exact refused_telling rfl

variable {format : DocumentFormat α} {disk : Disk} {request : Request α}

private theorem ofOptions_telling (h : ∀ notice ∈ notices, notice.isError = false) (options : Document α) :
    (ofOptions format disk request notices options).Telling := by
  unfold ofOptions
  split
  · exact ofSamples_telling h _ _ _
  · split
    · exact refused_telling rfl
    · exact crashed_telling h _

private theorem ofConfig_telling (path : Path) : (ofConfig format disk request path).Telling := by
  have hmissing : ∀ notice ∈ (if OptionStore.isMissing disk (some path) then [Notice.optionsMissing path] else [] :
      List (Notice α)), notice.isError = false := by
    intro notice hmem
    split at hmem
    · rw [List.mem_singleton.1 hmem]
      rfl
    · cases hmem
  unfold ofConfig
  dsimp only
  split
  · exact ofOptions_telling hmissing _
  · split
    · exact refused_telling rfl
    · exact crashed_telling hmissing _

private theorem ofRequest_telling {standard : Path} : (ofRequest format disk standard request).Telling := by
  unfold ofRequest
  split
  · exact ofConfig_telling _
  · exact crashed_telling (fun _ hmem => by cases hmem) _
  · exact ofConfig_telling _

end Stages

end Run

/-! ### Runs without a code -/

namespace Run

variable [Trig α] [NumberReading α]

/-- The faults of its input that a run does not handle.  Those of the file of samples count only if the options can be
used, and those of the latitude only if there are three samples. -/
inductive Uncaught (format : DocumentFormat α) (disk : Disk) (standard : Path) (request : Request α) : Crash → Prop
  | noPath (h : request.config = .blank) : Uncaught format disk standard request .noPath
  | options {path : Path} {e : OptionsError} (hpath : request.OptionsAt standard path)
      (he : Options.Unloadable format disk path e) : Uncaught format disk standard request (.options e)
  | samples {options : Document α} {path : Path} {e : SamplesError}
      (hoptions : request.Finds format disk standard options) (hpath : request.samplesFile = .value path)
      (he : SamplesFile.Unloadable format disk path e) : Uncaught format disk standard request (.samples e)
  | latitude {samples : List (AnglePair α)} {latitude : Document α} {e : ConversionError}
      (h : request.GoesBy format disk standard samples latitude) (hcount : samples.length = 3)
      (hstated : latitude.view ≠ .atom .null) (hnumber : latitude.view.toNumber = .error e)
      (he : e = .tooLarge ∨ e = .wrongKind) : Uncaught format disk standard request (.latitude e)

variable {format : DocumentFormat α} {disk : Disk} {standard : Path} {request : Request α} {notices : List (Notice α)}
  {options : Document α} {crash : Crash}

omit [NumberReading α] in
private theorem ofReport_ending_ne (samples : Samples α) (latitude : Option α) (north : Bool) :
    (ofReport notices samples latitude north).ending ≠ .error crash := by
  unfold ofReport
  dsimp only
  split
  · exact fun h => by cases h
  · exact fun h => by cases h

private theorem ofSamples_crash_iff {samples : List (AnglePair α)} {latitude : Document α} {north : Bool} :
    (ofSamples notices samples latitude north).ending = .error crash ↔
      samples.length = 3 ∧ latitude.view ≠ .atom .null ∧
        ∃ e, latitude.view.toNumber = .error e ∧ (e = .tooLarge ∨ e = .wrongKind) ∧ crash = .latitude e := by
  unfold ofSamples
  split
  · split
    next hnull => exact iff_of_false (ofReport_ending_ne _ _ _) fun h => h.2.1 hnull
    next hstated =>
      split
      next x hx =>
        refine iff_of_false (ofReport_ending_ne _ _ _) ?_
        rintro ⟨-, -, e, he, -⟩
        cases hx.symm.trans he
      next e he =>
        split
        next hvalue =>
          refine iff_of_false (fun h => by cases h) ?_
          rintro ⟨-, -, e', he', hkind, -⟩
          cases he.symm.trans he'
          obtain rfl | rfl := hkind <;> cases hvalue
        next hvalue =>
          constructor
          · intro h
            cases h
            refine ⟨rfl, hstated, e, he, ?_, rfl⟩
            cases e with
            | notANumber quoted => exact absurd rfl hvalue
            | tooLarge => exact .inl rfl
            | wrongKind => exact .inr rfl
          · rintro ⟨-, -, e', he', -, rfl⟩
            cases he.symm.trans he'
            rfl
  · rename_i hcount
    refine iff_of_false (fun h => by cases h) fun h => ?_
    obtain ⟨a, b, c, rfl⟩ := List.length_eq_three.1 h.1
    exact hcount a b c rfl

private theorem ofRequest_at {path : Path} (h : request.OptionsAt standard path) :
    ofRequest format disk standard request = ofConfig format disk request path := by
  unfold ofRequest
  cases h with
  | named h => rw [h]
  | standard h => rw [h]

private theorem ofRequest_of_finds (h : request.Finds format disk standard options) :
    ∃ notices, ofRequest format disk standard request = ofOptions format disk request notices options := by
  obtain ⟨path, hpath, hload⟩ := h
  rw [ofRequest_at hpath, ofConfig, hload]
  exact ⟨_, rfl⟩

/-- A run that gets past its files goes by its samples and its latitude alone. -/
theorem ofRequest_of_goesBy (hformat : format.SeparatesKeys) {samples : List (AnglePair α)} {latitude : Document α}
    (h : request.GoesBy format disk standard samples latitude) :
    ∃ notices, ofRequest format disk standard request = ofSamples notices samples latitude request.north := by
  obtain ⟨⟨options, hoptions⟩, file, hfile⟩ := Request.exists_of_usable h.usable
  obtain ⟨notices, hrun⟩ := ofRequest_of_finds hoptions
  refine ⟨notices, ?_⟩
  rw [hrun, ofOptions, hfile, (Request.takesSamples_iff hfile).1 h.samples,
    (Request.takesLatitude_iff hformat hoptions hfile).1 h.latitude]

/-! #### Files that cannot be used -/

private theorem ofRequest_of_blank (h : request.config = .blank) :
    ofRequest format disk standard request = crashed [] .noPath := by
  rw [ofRequest, h]

private theorem ofRequest_of_load_error {path : Path} {e : OptionsError} (h : request.OptionsAt standard path)
    (hload : Options.load format disk path = .error e) : ∃ notices, ofRequest format disk standard request =
      if e.isHandled then refused notices else crashed notices (.options e) := by
  rw [ofRequest_at h, ofConfig, hload]
  dsimp only
  split
  · exact ⟨_, rfl⟩
  · exact ⟨_, rfl⟩

private theorem ofRequest_of_samplesFile_error {e : SamplesError} (h : request.Finds format disk standard options)
    (hfile : samplesFile format disk request.samplesFile = .error e) :
    ∃ notices, ofRequest format disk standard request =
      if e.isHandled then refused notices else crashed notices (.samples e) := by
  obtain ⟨notices, hrun⟩ := ofRequest_of_finds h
  rw [hrun, ofOptions, hfile]
  dsimp only
  split
  · exact ⟨_, rfl⟩
  · exact ⟨_, rfl⟩

private theorem samplesFile_of_load_error {path : Path} {e : SamplesError} (hpath : request.samplesFile = .value path)
    (hload : SamplesFile.load format disk path = .error e) :
    samplesFile format disk request.samplesFile = .error e := by
  rw [hpath, samplesFile, hload]
  rfl

/-- Either the file of samples is asked for without a path, which is handled, or the file itself has the fault. -/
private theorem samplesFile_error_cases {e : SamplesError}
    (h : samplesFile format disk request.samplesFile = .error e) :
    e = .noPath ∨ ∃ path, request.samplesFile = .value path ∧ SamplesFile.load format disk path = .error e := by
  cases hstated : request.samplesFile with
  | missing =>
    rw [hstated] at h
    cases h
  | blank =>
    rw [hstated] at h
    cases h
    exact .inl rfl
  | value path =>
    rw [hstated, samplesFile] at h
    cases hload : SamplesFile.load format disk path with
    | ok loaded =>
      rw [hload] at h
      cases h
    | error e' =>
      rw [hload] at h
      cases h
      exact .inr ⟨path, rfl, hload⟩

/-- A run ends without a code exactly if a fault of its input is not handled. -/
theorem ofRequest_crash_iff (hformat : format.SeparatesKeys) :
    (ofRequest format disk standard request).ending = .error crash ↔ Uncaught format disk standard request crash := by
  constructor
  · intro hcrash
    obtain ⟨options, hoptions⟩ | hblank | ⟨path, e, hpath, hload⟩ := Request.finds_or format disk standard request
    · cases hfile : samplesFile format disk request.samplesFile with
      | ok file =>
        have hgoes := Request.goesBy_of_found hformat hoptions hfile
        obtain ⟨notices, hrun⟩ := ofRequest_of_goesBy hformat hgoes
        rw [hrun] at hcrash
        obtain ⟨hcount, hstated, e, hnumber, he, rfl⟩ := ofSamples_crash_iff.1 hcrash
        exact .latitude hgoes hcount hstated hnumber he
      | error e =>
        obtain ⟨notices, hrun⟩ := ofRequest_of_samplesFile_error hoptions hfile
        rw [hrun] at hcrash
        split at hcrash
        · cases hcrash
        · rename_i he
          cases hcrash
          obtain rfl | ⟨path, hpath, hload⟩ := samplesFile_error_cases hfile
          · exact absurd rfl he
          · exact .samples hoptions hpath (SamplesFile.load_unhandled_iff.1 ⟨hload, Bool.eq_false_iff.2 he⟩)
    · rw [ofRequest_of_blank hblank] at hcrash
      cases hcrash
      exact .noPath hblank
    · obtain ⟨notices, hrun⟩ := ofRequest_of_load_error hpath hload
      rw [hrun] at hcrash
      split at hcrash
      · cases hcrash
      · rename_i he
        cases hcrash
        exact .options hpath (Options.load_unhandled_iff.1 ⟨hload, Bool.eq_false_iff.2 he⟩)
  · intro h
    cases h with
    | noPath h =>
      rw [ofRequest_of_blank h]
      rfl
    | options hpath he =>
      obtain ⟨hload, hunhandled⟩ := Options.load_unhandled_iff.2 he
      obtain ⟨notices, hrun⟩ := ofRequest_of_load_error hpath hload
      rw [hrun, hunhandled]
      rfl
    | samples hoptions hpath he =>
      obtain ⟨hload, hunhandled⟩ := SamplesFile.load_unhandled_iff.2 he
      obtain ⟨notices, hrun⟩ := ofRequest_of_samplesFile_error hoptions (samplesFile_of_load_error hpath hload)
      rw [hrun, hunhandled]
      rfl
    | latitude h hcount hstated hnumber he =>
      obtain ⟨notices, hrun⟩ := ofRequest_of_goesBy hformat h
      rw [hrun]
      exact ofSamples_crash_iff.2 ⟨hcount, hstated, _, hnumber, he, rfl⟩

omit [Trig α] [NumberReading α] in
private theorem refused_or_crashed {r : Run α} {handled : Bool}
    (h : ∃ notices, r = if handled then refused notices else crashed notices crash) :
    ∃ notices, r = refused notices ∨ ∃ crash, r = crashed notices crash := by
  obtain ⟨notices, rfl⟩ := h
  cases handled with
  | true => exact ⟨notices, .inl rfl⟩
  | false => exact ⟨notices, .inr ⟨crash, rfl⟩⟩

/-- With files that cannot be used there is nothing to report on. -/
theorem refused_or_crashed_of_unusable (h : request.Unusable format disk standard) :
    ∃ notices, ofRequest format disk standard request = refused notices ∨
      ∃ crash, ofRequest format disk standard request = crashed notices crash := by
  have hfile {e : SamplesError} (hfile : samplesFile format disk request.samplesFile = .error e) :
      ∃ notices, ofRequest format disk standard request = refused notices ∨
        ∃ crash, ofRequest format disk standard request = crashed notices crash := by
    -- the file of samples is read only if there are options
    obtain ⟨options, hoptions⟩ | hblank | ⟨path, e, hpath, he⟩ := Request.finds_or format disk standard request
    · exact refused_or_crashed (ofRequest_of_samplesFile_error hoptions hfile)
    · exact ⟨[], .inr ⟨_, ofRequest_of_blank hblank⟩⟩
    · exact refused_or_crashed (ofRequest_of_load_error hpath he)
  cases h with
  | optionsBlank h => exact ⟨[], .inr ⟨_, ofRequest_of_blank h⟩⟩
  | options hpath he => exact refused_or_crashed (ofRequest_of_load_error hpath he)
  | samplesBlank h => exact hfile (by rw [h]; rfl)
  | samples hpath he => exact hfile (samplesFile_of_load_error hpath he)

/-- So a run ends with code 2, or else for a fault that is not handled. -/
theorem ofRequest_of_unusable (h : request.Unusable format disk standard) :
    (ofRequest format disk standard request).ending = .ok 2 ∨
      ∃ crash, (ofRequest format disk standard request).ending = .error crash := by
  obtain ⟨notices, hrun | ⟨crash, hrun⟩⟩ := refused_or_crashed_of_unusable h
  · exact .inl (by rw [hrun]; rfl)
  · exact .inr ⟨crash, by rw [hrun]; rfl⟩

end Run

/-! ### Sessions -/

namespace CommandLine

open Run (Uncaught)

/-- How a run on the command line ends: without a code exactly for the faults that are not handled; else with 0, 1 or 2,
and not with 0 exactly if an error is in the log; and with 2 for options and samples that cannot be used. -/
theorem ending_of_session {order : SetOrder Float} {standard : Path} {arguments : List String} {disk : Disk}
    {r : Run Float} (h : session order standard arguments disk = .run r) :
    ∃ request verbose, ofArguments arguments = .ok (.run request verbose) ∧
      (∀ crash, r.ending = .error crash ↔ Uncaught (.yaml order) disk standard request crash) ∧
      (∀ code, r.ending = .ok code → code ≤ 2) ∧
      (∀ w, (∃ notice ∈ r.notices, ∃ message, notice.text w = "ERROR: " ++ message) ↔
        ∃ code, r.ending = .ok code ∧ code ≠ 0) ∧
      (request.Unusable (.yaml order) disk standard →
        r.ending = .ok 2 ∨ ∃ crash, Uncaught (.yaml order) disk standard request crash) := by
  have hformat : (DocumentFormat.yaml order).SeparatesKeys := DocumentFormat.readsSeparated_yaml.separatesKeys
  unfold session at h
  split at h
  · cases h
  · rename_i request verbose harguments
    cases h
    refine ⟨request, verbose, harguments, fun crash => Run.ofRequest_crash_iff hformat, fun code => ?_, fun w => ?_, ?_⟩
    · exact Run.ofRequest_telling.code_le
    · rw [← Run.ofRequest_telling.error_iff]
      simp only [Notice.isError_iff (w := w)]
    · intro hunusable
      exact (Run.ofRequest_of_unusable hunusable).imp_right fun ⟨crash, hcrash⟩ =>
        ⟨crash, (Run.ofRequest_crash_iff hformat).1 hcrash⟩
  · cases h

/-- How a session ends that is a run. -/
def Session.ending? : Session → Option (Except Crash Nat)
  | .run r => some r.ending
  | _ => none

private theorem Session.exists_of_ending? {s : Session} {ending : Except Crash Nat} (h : s.ending? = some ending) :
    ∃ r, s = .run r ∧ r.ending = ending := by
  cases s with
  | run r => exact ⟨r, rfl, Option.some.inj h⟩
  | _ => cases h

/-- Options that are no document. -/
theorem ending_of_session_malformed : ∃ r request verbose,
    session .asWritten ⟨"standard.yaml"⟩ ["--config", "m.yaml"] ⟨[(["m.yaml"], .file (some "rotator: ["))]⟩ = .run r ∧
      ofArguments ["--config", "m.yaml"] = .ok (.run request verbose) ∧ r.ending = .ok 2 ∧
      (∀ crash,
        ¬Uncaught (.yaml .asWritten) ⟨[(["m.yaml"], .file (some "rotator: ["))]⟩ ⟨"standard.yaml"⟩ request crash) ∧
      ∃ notice ∈ r.notices, ∃ message, notice.text .standard = "ERROR: " ++ message := by
  obtain ⟨r, hr, hending⟩ := Session.exists_of_ending?
    (by decide +kernel : (session .asWritten ⟨"standard.yaml"⟩ ["--config", "m.yaml"]
      ⟨[(["m.yaml"], .file (some "rotator: ["))]⟩).ending? = some (.ok 2))
  obtain ⟨request, verbose, harguments, hcrash, -, hnotices, -⟩ := ending_of_session hr
  refine ⟨r, request, verbose, hr, harguments, hending, fun crash huncaught => ?_, ?_⟩
  · cases hending.symm.trans ((hcrash crash).2 huncaught)
  · exact (hnotices .standard).2 ⟨2, hending, by decide⟩

/-- A folder in place of a file of options is a fault that is not handled. -/
theorem session_of_folder : ∃ r,
    session .asWritten ⟨"standard.yaml"⟩ ["--config", "d"] ⟨[(["d"], .folder)]⟩ = .run r ∧
      r.ending = .error (.options (.file (.isFolder ⟨"d"⟩))) :=
  Session.exists_of_ending? (by decide +kernel)

end CommandLine

end EquatorialMount
