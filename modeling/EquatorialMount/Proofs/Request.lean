import EquatorialMount.Program
import EquatorialMount.Proofs.Options.Shapes

/-!
# What a request goes by

A request can have its samples from two places and its latitude from three, and its options from the file that it names
or from the standard one.  Which samples and which latitude count is told here case by case (`Request.TakesSamples`,
`Request.TakesLatitude`), and so is which files cannot be used (`Request.Unusable`).  If all of its files can be, a
request has both (`Request.exists_goesBy`), and they are the ones a run works out (`Request.takesSamples_iff`,
`Request.takesLatitude_iff`).
-/

namespace EquatorialMount

variable {α : Type}

namespace Request

/-! ### Where samples and latitude are from -/

section

variable [Scalar α] [NumberReading α]

/-- Where the options of a request are: at the path that it names, or at the standard one if it names none. -/
inductive OptionsAt (standard : Path) (request : Request α) : Path → Prop
  | named {path : Path} (h : request.config = .value path) : request.OptionsAt standard path
  | standard (h : request.config = .missing) : request.OptionsAt standard standard

/-- The options that a request has. -/
def Finds (format : DocumentFormat α) (disk : Disk) (standard : Path) (request : Request α) (options : Document α) :
    Prop :=
  ∃ path, request.OptionsAt standard path ∧ Options.load format disk path = .ok options

/-- The samples that a request has: those that it states, else the three of its file of samples, and none if it has no
such file. -/
inductive TakesSamples (format : DocumentFormat α) (disk : Disk) (request : Request α) : List (AnglePair α) → Prop
  | stated (h : request.samples ≠ []) : request.TakesSamples format disk request.samples
  | file {path : Path} {file : SamplesFile α} (h : request.samples = []) (hpath : request.samplesFile = .value path)
      (hload : SamplesFile.load format disk path = .ok file) :
      request.TakesSamples format disk [file.samples.first, file.samples.second, file.samples.third]
  | none (h : request.samples = []) (hfile : request.samplesFile = .missing) : request.TakesSamples format disk []

/-- The latitude that a request has: the one that it states, else that of its file of samples if there is one there,
else that of the section on polar alignment of its options.  One that is asked for without a value is no number. -/
inductive TakesLatitude (format : DocumentFormat α) (disk : Disk) (standard : Path) (request : Request α) :
    Document α → Prop
  | stated {x : α} (h : request.latitude = .value x) :
      request.TakesLatitude format disk standard (.ofAtom (.number x))
  | blank (h : request.latitude = .blank) : request.TakesLatitude format disk standard .emptyList
  | file {path : Path} {file : SamplesFile α} (h : request.latitude = .missing)
      (hpath : request.samplesFile = .value path) (hload : SamplesFile.load format disk path = .ok file)
      (hstated : file.latitude.view ≠ .atom .null) : request.TakesLatitude format disk standard file.latitude
  | options {options alignment latitude : Document α} (h : request.latitude = .missing)
      (hfile : ∀ path file, request.samplesFile = .value path → SamplesFile.load format disk path = .ok file →
        file.latitude.view = .atom .null)
      (hoptions : request.Finds format disk standard options)
      (halignment : options.entry? (.text "polar_alignment") = some alignment)
      (hlatitude : alignment.entry? (.text "latitude") = some latitude) :
      request.TakesLatitude format disk standard latitude

/-- The options or the file of samples of a request cannot be used. -/
inductive Unusable (format : DocumentFormat α) (disk : Disk) (standard : Path) (request : Request α) : Prop
  | optionsBlank (h : request.config = .blank)
  | options {path : Path} {e : OptionsError} (hpath : request.OptionsAt standard path)
      (hload : Options.load format disk path = .error e)
  | samplesBlank (h : request.samplesFile = .blank)
  | samples {path : Path} {e : SamplesError} (hpath : request.samplesFile = .value path)
      (hload : SamplesFile.load format disk path = .error e)

/-- The samples and the latitude that a request has if its files can be used. -/
structure GoesBy (format : DocumentFormat α) (disk : Disk) (standard : Path) (request : Request α)
    (samples : List (AnglePair α)) (latitude : Document α) : Prop where
  usable : ¬request.Unusable format disk standard
  samples : request.TakesSamples format disk samples
  latitude : request.TakesLatitude format disk standard latitude

end

/-! ### What a run works out -/

section Sources

variable [Trig α] [NumberReading α] {format : DocumentFormat α} {disk : Disk} {standard : Path} {request : Request α}
  {options latitude : Document α} {samples : List (AnglePair α)} {file : List (AnglePair α) × Document α}

omit [Trig α] [NumberReading α] in
private theorem OptionsAt.unique {path path' : Path} (h : request.OptionsAt standard path)
    (h' : request.OptionsAt standard path') : path' = path := by
  cases h with
  | named h =>
    cases h' with
    | named h' =>
      cases h.symm.trans h'
      rfl
    | standard h' => cases h.symm.trans h'
  | standard h =>
    cases h' with
    | named h' => cases h.symm.trans h'
    | standard => rfl

private theorem Finds.unique {options' : Document α} (h : request.Finds format disk standard options)
    (h' : request.Finds format disk standard options') : options' = options := by
  obtain ⟨path, hpath, hload⟩ := h
  obtain ⟨path', hpath', hload'⟩ := h'
  rw [hpath.unique hpath'] at hload'
  exact Except.ok.inj (hload'.symm.trans hload)

theorem finds_or (format : DocumentFormat α) (disk : Disk) (standard : Path) (request : Request α) :
    (∃ options, request.Finds format disk standard options) ∨ request.config = .blank ∨
      ∃ path e, request.OptionsAt standard path ∧ Options.load format disk path = .error e := by
  have hat {path : Path} (hpath : request.OptionsAt standard path) :
      (∃ options, request.Finds format disk standard options) ∨ request.config = .blank ∨
        ∃ path e, request.OptionsAt standard path ∧ Options.load format disk path = .error e := by
    cases hload : Options.load format disk path with
    | ok options => exact .inl ⟨options, path, hpath, hload⟩
    | error e => exact .inr (.inr ⟨path, e, hpath, hload⟩)
  cases hconfig : request.config with
  | missing => exact hconfig ▸ hat (.standard hconfig)
  | blank => exact .inr (.inl rfl)
  | value path => exact hconfig ▸ hat (.named hconfig)

/-- What a file of samples holds as far as a run is concerned. -/
private theorem samplesFile_ok_iff {stated : Stated Path} : Run.samplesFile format disk stated = .ok file ↔
    stated = .missing ∧ file = ([], .nothing) ∨
      ∃ path loaded, stated = .value path ∧ SamplesFile.load format disk path = .ok loaded ∧
        file = ([loaded.samples.first, loaded.samples.second, loaded.samples.third], loaded.latitude) := by
  constructor
  · intro h
    cases stated with
    | missing =>
      cases h
      exact .inl ⟨rfl, rfl⟩
    | blank => cases h
    | value path =>
      cases hload : SamplesFile.load format disk path with
      | error e =>
        rw [Run.samplesFile, hload] at h
        cases h
      | ok loaded =>
        rw [Run.samplesFile, hload] at h
        cases h
        exact .inr ⟨path, loaded, rfl, hload, rfl⟩
  · rintro (⟨rfl, rfl⟩ | ⟨path, loaded, rfl, hload, rfl⟩)
    · rfl
    · rw [Run.samplesFile, hload]
      rfl

/-- A request whose files can be used has options, and a file of samples unless it names none. -/
theorem exists_of_usable (h : ¬request.Unusable format disk standard) :
    (∃ options, request.Finds format disk standard options) ∧
      ∃ file, Run.samplesFile format disk request.samplesFile = .ok file := by
  constructor
  · obtain hoptions | hblank | ⟨path, e, hpath, hload⟩ := finds_or format disk standard request
    · exact hoptions
    · exact absurd (.optionsBlank hblank) h
    · exact absurd (.options hpath hload) h
  · cases hstated : request.samplesFile with
    | missing => exact ⟨_, rfl⟩
    | blank => exact absurd (.samplesBlank hstated) h
    | value path =>
      cases hload : SamplesFile.load format disk path with
      | ok loaded => exact ⟨_, samplesFile_ok_iff.2 (.inr ⟨path, loaded, rfl, hload, rfl⟩)⟩
      | error e => exact absurd (.samples hstated hload) h

theorem usable_of_found (hoptions : request.Finds format disk standard options)
    (hfile : Run.samplesFile format disk request.samplesFile = .ok file) :
    ¬request.Unusable format disk standard := by
  obtain ⟨path, hpath, hload⟩ := hoptions
  intro h
  cases h with
  | optionsBlank h => cases hpath <;> rename_i hconfig <;> cases h.symm.trans hconfig
  | options hpath' hload' =>
    rw [hpath.unique hpath', hload] at hload'
    cases hload'
  | samplesBlank h =>
    rw [h] at hfile
    cases hfile
  | samples h hload' =>
    rw [h, Run.samplesFile, hload'] at hfile
    cases hfile

theorem takesSamples_iff (hfile : Run.samplesFile format disk request.samplesFile = .ok file) :
    request.TakesSamples format disk samples ↔
      samples = if request.samples.isEmpty then file.1 else request.samples := by
  by_cases hstated : request.samples = []
  · rw [hstated]
    obtain ⟨hmissing, rfl⟩ | ⟨path, loaded, hpath, hload, rfl⟩ := samplesFile_ok_iff.1 hfile
    · refine ⟨fun h => ?_, fun h => h ▸ .none hstated hmissing⟩
      cases h with
      | stated h => exact absurd hstated h
      | file _ hpath _ => cases hmissing.symm.trans hpath
      | none => rfl
    · refine ⟨fun h => ?_, fun h => h ▸ .file hstated hpath hload⟩
      cases h with
      | stated h => exact absurd hstated h
      | file _ hpath' hload' =>
        cases hpath.symm.trans hpath'
        cases hload.symm.trans hload'
        rfl
      | none _ hmissing => cases hmissing.symm.trans hpath
  · rw [if_neg (List.isEmpty_iff.not.2 hstated)]
    refine ⟨fun h => ?_, fun h => h ▸ .stated hstated⟩
    cases h with
    | stated => rfl
    | file h _ _ => exact absurd h hstated
    | none h _ => exact absurd h hstated

/-- No latitude is worked out from a file of samples exactly if no file that is loaded states one. -/
private theorem view_of_file (hfile : Run.samplesFile format disk request.samplesFile = .ok file) :
    file.2.view = .atom .null ↔ ∀ path loaded, request.samplesFile = .value path →
      SamplesFile.load format disk path = .ok loaded → loaded.latitude.view = .atom .null := by
  obtain ⟨hmissing, rfl⟩ | ⟨path, loaded, hpath, hload, rfl⟩ := samplesFile_ok_iff.1 hfile
  · exact iff_of_true rfl fun path loaded hpath _ => by cases hmissing.symm.trans hpath
  · refine ⟨fun h path' loaded' hpath' hload' => ?_, fun h => h path loaded hpath hload⟩
    cases hpath.symm.trans hpath'
    cases hload.symm.trans hload'
    exact h

omit [Trig α] [NumberReading α] in
private theorem firstStated_of_null {v w : Document α} (h : v.view = .atom .null) : Run.firstStated v w = w := by
  unfold Run.firstStated
  rw [h]

omit [Trig α] [NumberReading α] in
private theorem firstStated_of_stated {v w : Document α} (h : v.view ≠ .atom .null) : Run.firstStated v w = v := by
  unfold Run.firstStated
  split
  · exact absurd ‹_› h
  · rfl

omit [Trig α] in
private theorem rawLatitude_of_entries {alignment : Document α}
    (halignment : options.entry? (.text "polar_alignment") = some alignment)
    (hlatitude : alignment.entry? (.text "latitude") = some latitude) : OptionStore.rawLatitude options = latitude := by
  simp only [OptionStore.rawLatitude, Document.entryOrNothing, Options.alignmentKey, Options.latitudeKey, halignment,
    hlatitude, Option.getD_some]

private theorem exists_entries_of_finds (hformat : format.SeparatesKeys)
    (h : request.Finds format disk standard options) :
    ∃ alignment latitude, options.entry? (.text "polar_alignment") = some alignment ∧
      alignment.entry? (.text "latitude") = some latitude := by
  obtain ⟨path, -, hload⟩ := h
  have hopened : OptionStore.load format disk (some path) = .ok options := hload
  have harranged : Options.Arranged (OptionStore.mk none options).config := OptionStore.arranged_of_load hformat hopened
  obtain ⟨-, alignment, latitude, halignment, -, hlatitude, -⟩ := Options.entries_of_arranged harranged
  exact ⟨alignment, latitude, halignment, hlatitude⟩

/-! #### The latitude, by where it is from -/

private theorem takesLatitude_of_value {x : α} (h : request.latitude = .value x) :
    request.TakesLatitude format disk standard latitude ↔ latitude = .ofAtom (.number x) := by
  refine ⟨fun htakes => ?_, fun heq => heq ▸ .stated h⟩
  cases htakes with
  | stated h' =>
    cases h.symm.trans h'
    rfl
  | blank h' => cases h.symm.trans h'
  | file h' => cases h.symm.trans h'
  | options h' => cases h.symm.trans h'

private theorem takesLatitude_of_blank (h : request.latitude = .blank) :
    request.TakesLatitude format disk standard latitude ↔ latitude = .emptyList := by
  refine ⟨fun htakes => ?_, fun heq => heq ▸ .blank h⟩
  cases htakes with
  | blank => rfl
  | stated h' => cases h.symm.trans h'
  | file h' => cases h.symm.trans h'
  | options h' => cases h.symm.trans h'

private theorem takesLatitude_of_file {path : Path} {loaded : SamplesFile α} (h : request.latitude = .missing)
    (hpath : request.samplesFile = .value path) (hload : SamplesFile.load format disk path = .ok loaded)
    (hstated : loaded.latitude.view ≠ .atom .null) :
    request.TakesLatitude format disk standard latitude ↔ latitude = loaded.latitude := by
  refine ⟨fun htakes => ?_, fun heq => heq ▸ .file h hpath hload hstated⟩
  cases htakes with
  | stated h' => cases h.symm.trans h'
  | blank h' => cases h.symm.trans h'
  | file _ hpath' hload' _ =>
    cases hpath.symm.trans hpath'
    cases hload.symm.trans hload'
    rfl
  | options _ hother => exact absurd (hother path loaded hpath hload) hstated

private theorem takesLatitude_of_options {alignment own : Document α} (h : request.latitude = .missing)
    (hfile : ∀ path loaded, request.samplesFile = .value path → SamplesFile.load format disk path = .ok loaded →
      loaded.latitude.view = .atom .null)
    (hoptions : request.Finds format disk standard options)
    (halignment : options.entry? (.text "polar_alignment") = some alignment)
    (hown : alignment.entry? (.text "latitude") = some own) :
    request.TakesLatitude format disk standard latitude ↔ latitude = own := by
  refine ⟨fun htakes => ?_, fun heq => heq ▸ .options h hfile hoptions halignment hown⟩
  cases htakes with
  | stated h' => cases h.symm.trans h'
  | blank h' => cases h.symm.trans h'
  | file _ hpath hload hstated => exact absurd (hfile _ _ hpath hload) hstated
  | options _ _ hoptions' halignment' hlatitude =>
    rw [hoptions.unique hoptions'] at halignment'
    cases halignment.symm.trans halignment'
    exact Option.some.inj (hlatitude.symm.trans hown)

theorem takesLatitude_iff (hformat : format.SeparatesKeys)
    (hoptions : request.Finds format disk standard options)
    (hfile : Run.samplesFile format disk request.samplesFile = .ok file) :
    request.TakesLatitude format disk standard latitude ↔
      latitude = Run.firstStated (Run.askedLatitude request.latitude)
        (Run.firstStated file.2 (OptionStore.rawLatitude options)) := by
  cases hstated : request.latitude with
  | value x =>
    rw [firstStated_of_stated (v := Run.askedLatitude (.value x)) nofun, takesLatitude_of_value hstated]
    rfl
  | blank =>
    rw [firstStated_of_stated (v := Run.askedLatitude .blank) nofun, takesLatitude_of_blank hstated]
    rfl
  | missing =>
    rw [firstStated_of_null (v := Run.askedLatitude .missing) rfl]
    by_cases hnull : file.2.view = .atom .null
    · obtain ⟨alignment, own, halignment, hown⟩ := exists_entries_of_finds hformat hoptions
      have hnone := (view_of_file hfile).1 hnull
      rw [firstStated_of_null hnull, rawLatitude_of_entries halignment hown,
        takesLatitude_of_options hstated hnone hoptions halignment hown]
    · obtain ⟨-, rfl⟩ | ⟨path, loaded, hpath, hload, rfl⟩ := samplesFile_ok_iff.1 hfile
      · exact absurd rfl hnull
      · rw [firstStated_of_stated hnull, takesLatitude_of_file hstated hpath hload hnull]

/-- What a request goes by is what a run works out from its options and its file of samples. -/
theorem goesBy_of_found (hformat : format.SeparatesKeys) (hoptions : request.Finds format disk standard options)
    (hfile : Run.samplesFile format disk request.samplesFile = .ok file) :
    request.GoesBy format disk standard (if request.samples.isEmpty then file.1 else request.samples)
      (Run.firstStated (Run.askedLatitude request.latitude)
        (Run.firstStated file.2 (OptionStore.rawLatitude options))) where
  usable := usable_of_found hoptions hfile
  samples := (takesSamples_iff hfile).2 rfl
  latitude := (takesLatitude_iff hformat hoptions hfile).2 rfl

/-- A request whose files can be used has samples and a latitude to go by. -/
theorem exists_goesBy (hformat : format.SeparatesKeys) (h : ¬request.Unusable format disk standard) :
    ∃ samples latitude, request.GoesBy format disk standard samples latitude := by
  obtain ⟨⟨options, hoptions⟩, file, hfile⟩ := exists_of_usable h
  exact ⟨_, _, goesBy_of_found hformat hoptions hfile⟩

end Sources

end Request

end EquatorialMount
