import EquatorialMount.Program
import EquatorialMount.Sexagesimal

/-!
# The wording of messages and reports

Every error and every line of a report has one text.  Three faults have no fixed wording of their own, since they are
told by what finds them; how these are put is a parameter.
-/

namespace EquatorialMount

/-- How the faults without a wording of their own are put. -/
structure Wording where
  /-- A text that is no document. -/
  malformed : String → String
  /-- A value of a kind that cannot be used. -/
  wrongKind : String
  /-- A file whose bytes are no text. -/
  undecodable : String

/-- The wording for readers of the log. -/
def Wording.standard : Wording :=
  ⟨id, "a value of this kind cannot be used here", "the bytes of the file are no text"⟩

/-! ### Errors -/

namespace AngleRole

def name : AngleRole → String
  | offset => "offset"
  | newOffset => "new_offset"
  | rotatorAngle => "rotator_angle"
  | positionAngle => "position_angle"
  | difference => "diff"

end AngleRole

def AngleError.message (e : AngleError Float) : String :=
  e.role.name ++ " must be finite, got " ++ Decimal.exact e.value

/-- Items between brackets as a tuple; a single one is followed by a comma. -/
def tupleText (items : List String) : String :=
  match items with
  | [item] => "(" ++ item ++ ",)"
  | items => "(" ++ ", ".intercalate items ++ ")"

def dimensionsText (dimensions : List Nat) : String := tupleText (dimensions.map toString)

def AxisError.message : AxisError Float → String
  | .shape name dimensions => name ++ " must be a 3-element vector, got shape " ++ dimensionsText dimensions
  | .ragged dimensions =>
    "setting an array element with a sequence. The requested array has an inhomogeneous shape after "
      ++ toString dimensions.length ++ " dimensions. The detected shape was " ++ dimensionsText dimensions
      ++ " + inhomogeneous part."
  | .tooDeep =>
    "setting an array element with a sequence. The requested array would exceed the maximum number of dimension of "
      ++ toString NestedList.levelLimit ++ "."
  | .vectorNotFinite name v =>
    name ++ " must be finite, got " ++ tupleText ([v.x, v.y, v.z].map Decimal.exact)
  | .pairNotFinite p =>
    "angle pair must be finite, got " ++ tupleText ([p.primary, p.secondary].map Decimal.exact)
  | .undetermined => "Rotation axis is undetermined (degenerate samples)"
  | .latitudeOutOfRange degrees => "latitude must be within [-90, 90] deg, got " ++ Decimal.exact degrees
  | .latitudeUnit unit kind => "'" ++ unit ++ "' (" ++ kind ++ ") and 'deg' (angle) are not convertible"

def ConversionError.message (w : Wording) : ConversionError → String
  | notANumber quoted => "could not convert string to float: " ++ quoted
  | tooLarge => "int too large to convert to float"
  | wrongKind => w.wrongKind

def FileError.message (w : Wording) : FileError → String
  | notFound path => "[Errno 2] No such file or directory: " ++ Text.quoted path.text
  | isFolder path => "[Errno 21] Is a directory: " ++ Text.quoted path.text
  | notAFolder path => "[Errno 20] Not a directory: " ++ Text.quoted path.text
  | taken path => "[Errno 17] File exists: " ++ Text.quoted path.text
  | tooLong path => "[Errno 36] File name too long: " ++ Text.quoted path.text
  | nullInPath => "embedded null byte"
  | undecodable => w.undecodable

/-- The end of messages on integers of too many digits. -/
def digitLimitAdvice : String := "use sys.set_int_max_str_digits() to increase the limit"

/-- The start of messages on integers of too many digits. -/
def digitLimitText : String :=
  "Exceeds the limit (" ++ toString integerDigitLimit ++ " digits) for integer string conversion"

/-- How much of a quoted text is told if it is no integer. -/
def quotedLimit : Nat := 200

def ScalarError.message (w : Wording) : ScalarError → String
  | integer base quoted =>
    "invalid literal for int() with base " ++ toString base ++ ": " ++ String.ofList (quoted.toList.take quotedLimit)
  | tooManyDigits count => digitLimitText ++ ": value has " ++ toString count ++ " digits; " ++ digitLimitAdvice
  | number quoted => (ConversionError.notANumber quoted).message w
  | tooLarge => ConversionError.tooLarge.message w
  | truth quoted => quoted
  | nothing => "string index out of range"
  | notADate => "'NoneType' object has no attribute 'groupdict'"
  | notAText => w.wrongKind
  | endless => "maximum recursion depth exceeded"
  | calendar e => e.message

def WritingError.message : WritingError → String
  | tooManyDigits => digitLimitText ++ "; " ++ digitLimitAdvice

def SaveError.message (w : Wording) : SaveError → String
  | file e => e.message w
  | document e => e.message

def DocumentError.message (w : Wording) : DocumentError → String
  | malformed problem => w.malformed problem
  | codePoint code =>
    if code ≤ DocumentError.codeLimit then "chr() arg not in range(0x110000)"
    else "Python int too large to convert to C int"
  | scalar e => e.message w

def OptionsError.message (w : Wording) : OptionsError → String
  | file e => e.message w
  | malformed path problem => "Failed to parse config " ++ path.text ++ ": " ++ w.malformed problem
  | unreadable e => e.message w
  | notAMapping path kind => "Config " ++ path.text ++ " must contain a mapping, got " ++ kind
  | sectionNotAMapping path name kind =>
    "Config " ++ path.text ++ ": section '" ++ name ++ "' must be a mapping, got " ++ kind

def SamplesError.message (w : Wording) : SamplesError → String
  | noPath => w.wrongKind
  | file e => e.message w
  | document e => e.message w
  | notAMapping path kind => path.text ++ ": expected a mapping with 'samples', got " ++ kind
  | noMembers _ => w.wrongKind
  | count path found => path.text ++ ": expected 3 samples, got " ++ toString found
  | noPair _ => w.wrongKind
  | pairTooShort found => "not enough values to unpack (expected 2, got " ++ toString found ++ ")"
  | pairTooLong _ => "too many values to unpack (expected 2)"
  | conversion e => e.message w

def Crash.message (w : Wording) : Crash → String
  | noPath => w.wrongKind
  | options e => e.message w
  | samples e => e.message w
  | latitude e => e.message w

/-- A line of the log, with its level in front. -/
def Notice.text (w : Wording) : Notice Float → String
  | optionsMissing path => "WARNING: Config file not found: " ++ path.text ++ ", using defaults"
  | nearlyCollinear length =>
    "WARNING: Nearly collinear sample points (|n|=" ++ Decimal.scientific 3 length
      ++ "), axis direction unreliable"
  | optionsRefused e => "ERROR: " ++ e.message w
  | samplesRefused e => "ERROR: Failed to read samples: " ++ e.message w
  | sampleCount found => "ERROR: Exactly three samples are required, got " ++ toString found
  | undetermined => "ERROR: Samples are collinear or coincide, rotation axis undetermined"
  | axisRefused e => "ERROR: " ++ e.message
  | latitudeRefused e => "ERROR: " ++ e.message w

/-! ### Reports -/

/-- The three errors in degrees, minutes and seconds. -/
def ErrorTriple.describe (e : ErrorTriple Float) : String :=
  "alt " ++ Sexagesimal.text true e.altitude ++ "  az " ++ Sexagesimal.text true e.azimuth
    ++ "  total " ++ Sexagesimal.text false e.total

def ReportLine.text : ReportLine Float → String
  | axis v =>
    "Axis vector:      [" ++ ", ".intercalate ([v.x, v.y, v.z].map (Decimal.signedFixed 6)) ++ "]"
  | hourAngle x => "Hour angle:       " ++ Decimal.signedFixed 4 x ++ " deg"
  | declination x => "Declination:      " ++ Decimal.signedFixed 4 x ++ " deg"
  | altitude x => "Altitude:         " ++ Decimal.fixed 4 x ++ " deg"
  | azimuth x => "Azimuth:          " ++ Decimal.fixed 4 x ++ " deg"
  | polarError e => "Polar error:      " ++ e.describe
  | polarErrorArcseconds e =>
    "                  alt " ++ Decimal.signedFixed 1 e.altitude ++ "\"  az "
      ++ Decimal.signedFixed 1 e.azimuth ++ "\"  total " ++ Decimal.fixed 1 e.total ++ "\""

end EquatorialMount
