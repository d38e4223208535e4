import EquatorialMount.Report
import EquatorialMount.Samples

/-!
# The polar alignment program

A run takes its samples from the command line or else from a file, and its latitude from the command line, the file of
samples or the options, whichever states one first.  The options are in a file that it is given, or else in a standard
one.  The run ends with code 0 after a full report, 1 if the samples single out no axis, and 2 if something it was given
cannot be used; the log says what.
-/

namespace EquatorialMount

/-- What a request states of something that it need not state. -/
inductive Stated (β : Type)
  | missing
  /-- Asked for, but with no value. -/
  | blank
  | value (b : β)
deriving Repr, DecidableEq

/-- What a run is asked for. -/
structure Request (α : Type) where
  samples : List (AnglePair α)
  samplesFile : Stated Path
  latitude : Stated α
  config : Stated Path
  north : Bool
deriving Repr, DecidableEq

/-- What a run has to tell apart from its report. -/
inductive Notice (α : Type)
  | optionsMissing (path : Path)
  /-- The samples are so nearly on one line that the axis is unreliable; with the length that shows it. -/
  | nearlyCollinear (length : α)
  | optionsRefused (e : OptionsError)
  | samplesRefused (e : SamplesError)
  | sampleCount (found : Nat)
  | undetermined
  | axisRefused (e : AxisError α)
  | latitudeRefused (e : ConversionError)
deriving Repr, DecidableEq

/-- What a run does not handle: it ends without a code. -/
inductive Crash
  /-- The options are asked for without a path. -/
  | noPath
  | options (e : OptionsError)
  | samples (e : SamplesError)
  | latitude (e : ConversionError)
deriving Repr, DecidableEq

/-- What a run prints, what it logs and the code it ends with. -/
structure Run (α : Type) where
  lines : List (ReportLine α)
  notices : List (Notice α)
  ending : Except Crash Nat

namespace ScalarError

/-- Whether a run handles a fault in its file of samples: a fault of a value, or a date that is none. -/
def isHandled : ScalarError → Bool
  | integer .. => true
  | tooManyDigits _ => true
  | number _ => true
  | calendar _ => true
  | notAText => true
  | tooLarge => false
  | truth _ => false
  | nothing => false
  | notADate => false
  | endless => false

end ScalarError

namespace DocumentError

/-- The greatest code of an escape that is refused as a code point, and not as a number already. -/
def codeLimit : Nat := 0x7fffffff

/-- Whether a run handles a fault in its file of samples. -/
def isHandled : DocumentError → Bool
  | malformed _ => true
  | codePoint code => code ≤ codeLimit
  | scalar e => e.isHandled

end DocumentError

namespace OptionsError

/-- Whether a run handles an error in its options: those in the shape of the file. -/
def isHandled : OptionsError → Bool
  | malformed .. => true
  | notAMapping .. => true
  | sectionNotAMapping .. => true
  | file _ => false
  | unreadable _ => false

end OptionsError

namespace ConversionError

/-- Whether an error is one of a value, and not of its kind or size. -/
def isOfValue : ConversionError → Bool
  | notANumber _ => true
  | tooLarge => false
  | wrongKind => false

end ConversionError

namespace SamplesError

/-- Whether a run handles an error in its file of samples: all but numbers that are too large and a few tags that do
not go with their text. -/
def isHandled : SamplesError → Bool
  | document e => e.isHandled
  | conversion .tooLarge => false
  | _ => true

end SamplesError

namespace Report

variable {α : Type} [Trig α]

/-- What the log says of three samples before their axis is reported on. -/
def warnings (samples : Samples α) : List (Notice α) :=
  match samples.checkFinite with
  | .ok () => (samples.nearlyCollinear?.map Notice.nearlyCollinear).toList
  | .error _ => []

/-- What the log says of samples without an axis. -/
def complaints (r : Report α) : List (Notice α) :=
  match r.ending with
  | .ok false => [.undetermined]
  | _ => []

end Report

namespace Run

variable {α : Type} [Trig α] [NumberReading α]

/-- A run that ends before there is anything to report on. -/
def refused (notices : List (Notice α)) : Run α := ⟨[], notices, .ok 2⟩

def crashed (notices : List (Notice α)) (crash : Crash) : Run α := ⟨[], notices, .error crash⟩

/-- The report on three samples as the end of a run. -/
def ofReport (notices : List (Notice α)) (samples : Samples α) (latitude : Option α) (north : Bool) : Run α :=
  let r := Report.ofSamples samples latitude north
  let notices := notices ++ Report.warnings samples ++ r.complaints
  match r.ending with
  | .ok hasAxis => ⟨r.lines, notices, .ok (if hasAxis then 0 else 1)⟩
  | .error e => ⟨r.lines, notices ++ [.axisRefused e], .ok 2⟩

/-- A run with its samples and its latitude; this is a value of the options or the file of samples, or nothing. -/
def ofSamples (notices : List (Notice α)) (samples : List (AnglePair α)) (latitude : Document α) (north : Bool) :
    Run α :=
  match samples with
  | [a, b, c] =>
    match latitude.view with
    | .atom .null => ofReport notices ⟨a, b, c⟩ none north
    | v =>
      match v.toNumber with
      | .ok x => ofReport notices ⟨a, b, c⟩ (some x) north
      | .error e =>
        if e.isOfValue then refused (notices ++ [.latitudeRefused e]) else crashed notices (.latitude e)
  | _ => refused (notices ++ [.sampleCount samples.length])

/-- The first of two values that is not missing. -/
def firstStated (a b : Document α) : Document α :=
  match a.view with
  | .atom .null => b
  | _ => a

/-- The latitude of a request as a value; one that is blank is no number, whatever else states one. -/
def askedLatitude : Stated α → Document α
  | .missing => .nothing
  | .blank => .emptyList
  | .value x => .ofAtom (.number x)

/-- What the file of samples of a request holds, no samples and no latitude if there is none. -/
def samplesFile (format : DocumentFormat α) (disk : Disk) :
    Stated Path → Except SamplesError (List (AnglePair α) × Document α)
  | .missing => .ok ([], .nothing)
  | .blank => .error .noPath
  | .value path => (SamplesFile.load format disk path).map fun file => (file.samples.toList, file.latitude)

/-- A run with its options. -/
def ofOptions (format : DocumentFormat α) (disk : Disk) (request : Request α) (notices : List (Notice α))
    (options : Document α) : Run α :=
  match samplesFile format disk request.samplesFile with
  | .ok (fileSamples, fileLatitude) =>
    let samples := if request.samples.isEmpty then fileSamples else request.samples
    let latitude :=
      firstStated (askedLatitude request.latitude) (firstStated fileLatitude (OptionStore.rawLatitude options))
    ofSamples notices samples latitude request.north
  | .error e =>
    if e.isHandled then refused (notices ++ [.samplesRefused e]) else crashed notices (.samples e)

/-- A run with the options at a path. -/
def ofConfig (format : DocumentFormat α) (disk : Disk) (request : Request α) (path : Path) : Run α :=
  let missing : List (Notice α) := if OptionStore.isMissing disk (some path) then [.optionsMissing path] else []
  match Options.load format disk path with
  | .ok options => ofOptions format disk request missing options
  | .error e =>
    if e.isHandled then refused (missing ++ [.optionsRefused e]) else crashed missing (.options e)

/-- The run that a request asks for.  If it names no options, it has those at the standard path. -/
def ofRequest (format : DocumentFormat α) (disk : Disk) (standard : Path) (request : Request α) : Run α :=
  match request.config with
  | .missing => ofConfig format disk request standard
  | .blank => crashed [] .noPath
  | .value path => ofConfig format disk request path

end Run

end EquatorialMount
