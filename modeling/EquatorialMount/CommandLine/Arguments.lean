import EquatorialMount.Decimal.Reading
import EquatorialMount.Program

/-!
# The arguments of the program

Options have a long name, which may be cut short as long as one option alone starts so, and a short one of a single
letter; short ones without values may be joined, and a value may follow its letter at once.  An argument that starts
with a dash is an option unless it is a negative number or has a blank in it.  All arguments are told apart first; then
the options are taken in turn, and the first fault counts.
-/

namespace EquatorialMount.CommandLine

/-- The options of the program. -/
inductive Flag
  | help
  | sample
  | samplesFile
  | latitude
  | config
  | north
  | verbose
deriving Repr, DecidableEq

namespace Flag

/-- The names of the options, in the order of their declaration. -/
def names : List (String × Flag) :=
  [("-h", help), ("--help", help), ("--sample", sample), ("-s", sample), ("--samples-file", samplesFile),
   ("-f", samplesFile), ("--latitude", latitude), ("-l", latitude), ("--config", config), ("-c", config),
   ("--north", north), ("-n", north), ("--verbose", verbose), ("-v", verbose)]

/-- Both names of an option, as messages have them. -/
def label (f : Flag) : String := "/".intercalate ((names.filter (·.2 = f)).map (·.1))

/-- How many values an option takes. -/
def valueCount : Flag → Nat
  | help => 0
  | sample => 2
  | samplesFile => 1
  | latitude => 1
  | config => 1
  | north => 0
  | verbose => 0

end Flag

/-- A fault of the command line. -/
inductive UsageError
  | ambiguous (argument : String) (candidates : List String)
  | valuesMissing (flag : Flag)
  | valueIgnored (flag : Flag) (value : String)
  | notANumber (flag : Flag) (value : String)
  | unrecognized (arguments : List String)
deriving Repr, DecidableEq

def UsageError.message : UsageError → String
  | ambiguous argument candidates =>
    "ambiguous option: " ++ argument ++ " could match " ++ ", ".intercalate candidates
  | valuesMissing flag =>
    "argument " ++ flag.label ++ ": expected "
      ++ (if flag.valueCount = 1 then "one argument" else toString flag.valueCount ++ " arguments")
  | valueIgnored flag value =>
    "argument " ++ flag.label ++ ": ignored explicit argument " ++ Text.quoted value
  | notANumber flag value => "argument " ++ flag.label ++ ": invalid float value: " ++ Text.quoted value
  | unrecognized arguments => "unrecognized arguments: " ++ " ".intercalate arguments

/-- What an argument is. -/
inductive Argument
  | value (text : String)
  /-- An option, whether it is written with its long name, and what is attached to the name. -/
  | option (text : String) (flag : Flag) (long : Bool) (attached : Option String)
  /-- The start of an option that there is not. -/
  | unknown (text : String)
  /-- Two dashes alone, after which all arguments are values. -/
  | separator
deriving Repr, DecidableEq

def Argument.text : Argument → String
  | value text => text
  | option text _ _ _ => text
  | unknown text => text
  | separator => "--"

/-! ### Telling arguments apart -/

/-- Whether a text is a negative number without an exponent. -/
def isNegativeNumber (s : List Char) : Bool :=
  match s with
  | '-' :: body =>
    let body := if body.getLast? = some '\n' then body.dropLast else body
    let fraction := (body.dropWhile Text.isDecimalDigit).drop 1
    (body ≠ [] && body.all Text.isDecimalDigit)
      || ((body.dropWhile Text.isDecimalDigit).head? = some '.' && fraction ≠ []
        && fraction.all Text.isDecimalDigit)
  | _ => false

/-- A text up to its first equals sign, and what follows that. -/
def splitAtEquals (s : List Char) : List Char × Option (List Char) :=
  match s.dropWhile (· ≠ '=') with
  | _ :: rest => (s.takeWhile (· ≠ '='), some rest)
  | [] => (s, none)

def isLongName (s : List Char) : Bool := ['-', '-'].isPrefixOf s

/-- The options whose names an argument can be short for, with what it attaches to them. -/
def candidates (s : List Char) : List (String × Flag × Option String) :=
  if isLongName s then
    let (name, attached) := splitAtEquals s
    (Flag.names.filter fun (n, _) => name.isPrefixOf n.toList).map fun (n, flag) =>
      (n, flag, attached.map String.ofList)
  else
    (Flag.names.filter fun (n, _) => n.toList = s.take 2).map fun (n, flag) =>
      (n, flag, some (String.ofList (s.drop 2)))

/-- Tells what an argument is. -/
def classify (text : String) : Except UsageError Argument :=
  let s := text.toList
  let named (n : String) (flag : Flag) (attached : Option String) : Argument :=
    .option text flag (isLongName n.toList) attached
  let (name, attached) := splitAtEquals s
  if s.head? ≠ some '-' || s.length = 1 then
    .ok (.value text)
  else
    match Flag.names.lookup text, attached.bind fun v => (Flag.names.lookup (String.ofList name)).map (·, v) with
    | some flag, _ => .ok (named text flag none)
    | none, some (flag, v) => .ok (named (String.ofList name) flag (some (String.ofList v)))
    | none, none =>
      match candidates s with
      | [(n, flag, attached)] => .ok (named n flag attached)
      | [] => .ok (if isNegativeNumber s || s.contains ' ' then .value text else .unknown text)
      | several => .error (.ambiguous text (several.map (·.1)))

/-- Tells what each argument is. -/
def classifyAll : List String → Except UsageError (List Argument)
  | [] => .ok []
  | text :: rest =>
    if text = "--" then .ok (.separator :: rest.map .value)
    else do
      let argument ← classify text
      return argument :: (← classifyAll rest)

/-! ### Taking the options -/

variable {α : Type} [NumberReading α]

/-- What the arguments so far ask for, and those that there is no use for. -/
structure Taken (α : Type) where
  request : Request α
  verbose : Bool
  unused : List String

/-- What a command line asks for: the help text, or a run. -/
inductive Asked (α : Type)
  | help
  | run (request : Request α) (verbose : Bool)

/-- Why the arguments are not taken to their end: for a fault, or to show the help text. -/
inductive Stop
  | fault (e : UsageError)
  | help

def number (flag : Flag) (value : String) : Except Stop α :=
  match NumberReading.ofText? value with
  | some x => .ok x
  | none => .error (.fault (.notANumber flag value))

/-- What an option states with its value; two dashes are no value at all. -/
def stated {β : Type} (read : String → Except Stop β) (value : String) : Except Stop (Stated β) :=
  if value = "--" then .ok .blank else (read value).map .value

/-- Takes an option with its values, of which there are as many as it takes. -/
def apply (t : Taken α) (flag : Flag) (values : List String) : Except Stop (Taken α) :=
  match flag, values with
  | .help, _ => .error .help
  | .north, _ => .ok { t with request := { t.request with north := true } }
  | .verbose, _ => .ok { t with verbose := true }
  | .sample, [a, b] => do
    let primary ← number flag a
    let secondary ← number flag b
    return { t with request := { t.request with samples := t.request.samples ++ [⟨primary, secondary⟩] } }
  | .samplesFile, [v] => do
    let path ← stated (fun v => .ok (Path.ofText v)) v
    return { t with request := { t.request with samplesFile := path } }
  | .latitude, [v] => do
    let latitude ← stated (number flag) v
    return { t with request := { t.request with latitude } }
  | .config, [v] => do
    let path ← stated (fun v => .ok (Path.ofText v)) v
    return { t with request := { t.request with config := path } }
  | _, _ => .error (.fault (.valuesMissing flag))

/-- Takes the options joined in one argument: `flag` with what is attached to it, of which the first letters may be
further options if it has its short name.  The answer are the options to apply in turn, and a last one that still needs
its values from the arguments after it. -/
def joined (flag : Flag) (long : Bool) :
    Option (List Char) → Except Stop (List (Flag × List String) × Option Flag)
  | none => .ok ([], some flag)
  | some attached => go flag attached
where
  go (flag : Flag) (attached : List Char) : Except Stop (List (Flag × List String) × Option Flag) :=
    let text := String.ofList attached
    if flag.valueCount = 1 then .ok ([(flag, [text])], none)
    else if flag.valueCount ≠ 0 then .error (.fault (.valuesMissing flag))
    else
      match attached with
      | [] => .error (.fault (.valueIgnored flag text))
      | c :: rest =>
        match if long then none else Flag.names.lookup (String.ofList ['-', c]) with
        | none => .error (.fault (.valueIgnored flag text))
        | some next =>
          if rest.isEmpty then .ok ([(flag, [])], some next)
          else do
            let (flags, last) ← go next rest
            return ((flag, []) :: flags, last)

/-- The texts of as many values as are needed, if they come next. -/
def nextValues? : Nat → List Argument → Option (List String × List Argument)
  | 0, rest => some ([], rest)
  | n + 1, .value text :: rest => (nextValues? n rest).map fun (values, rest) => (text :: values, rest)
  | _ + 1, _ => none

/-- Takes arguments in turn. -/
def takeAll : Nat → Taken α → List Argument → Except Stop (Taken α)
  | 0, t, _ => .ok t
  | _, t, [] => .ok t
  | fuel + 1, t, .option _ flag long attached :: rest => do
    let (flags, last) ← joined flag long (attached.map String.toList)
    let (lastFlags, rest) ←
      match last with
      | none => pure ([], rest)
      | some flag =>
        match nextValues? flag.valueCount rest with
        | some (values, rest) => pure ([(flag, values)], rest)
        | none => throw (.fault (.valuesMissing flag))
    let t ← (flags ++ lastFlags).foldlM (fun t (flag, values) => apply t flag values) t
    takeAll fuel t rest
  | fuel + 1, t, argument :: rest => takeAll fuel { t with unused := t.unused ++ [argument.text] } rest

/-- What a command line asks for. -/
def ofArguments (arguments : List String) : Except UsageError (Asked α) := do
  let all ← classifyAll arguments
  let start : Taken α :=
    { request := { samples := [], samplesFile := .missing, latitude := .missing, config := .missing, north := false }
      verbose := false
      unused := [] }
  match takeAll (all.length + 1) start all with
  | .ok t => if t.unused.isEmpty then return .run t.request t.verbose else throw (.unrecognized t.unused)
  | .error .help => return .help
  | .error (.fault e) => throw e

end EquatorialMount.CommandLine
