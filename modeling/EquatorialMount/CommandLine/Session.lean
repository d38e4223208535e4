import EquatorialMount.CommandLine.Arguments
import EquatorialMount.Document.Format
import EquatorialMount.Wording

/-!
# A session on the command line

What the program does with its arguments and the files it is given: it shows its help text, refuses the arguments with
exit code 2, or makes a run.
-/

namespace EquatorialMount.CommandLine

def programName : String := "run_polar_alignment.py"

/-- The help text, for lines of 80 columns. -/
def helpLines : List String :=
  ["usage: run_polar_alignment.py [-h] [--sample HA DEC]",
   "                              [--samples-file SAMPLES_FILE]",
   "                              [--latitude LATITUDE] [--config CONFIG]",
   "                              [--north] [--verbose]",
   "",
   "Mount polar axis solver",
   "",
   "options:",
   "  -h, --help            show this help message and exit",
   "  --sample HA DEC, -s HA DEC",
   "                        Sampled position in degrees (give exactly three)",
   "  --samples-file SAMPLES_FILE, -f SAMPLES_FILE",
   "                        YAML file with three samples and an optional latitude",
   "  --latitude LATITUDE, -l LATITUDE",
   "                        Site latitude in degrees, north positive",
   "  --config CONFIG, -c CONFIG",
   "                        Path to mount alignment configuration YAML file",
   "  --north, -n           Report the northern end of the axis",
   "  --verbose, -v         Enable verbose logging",
   "",
   "Examples:",
   "  run_polar_alignment.py --sample 0 40 --sample 60 40 --sample 120 40",
   "  run_polar_alignment.py --sample 0 40 --sample 60 40 --sample 120 40 --latitude 35.55",
   "  run_polar_alignment.py --samples-file samples.yaml --north",
   "        "]

/-- The part of the help text that is shown with a fault. -/
def usageLines : List String := helpLines.takeWhile (· ≠ "")

/-- How a session goes. -/
inductive Session
  | help
  | refused (e : UsageError)
  | run (r : Run Float)

/-- The line that tells of a fault in the arguments. -/
def faultText (e : UsageError) : String := programName ++ ": error: " ++ e.message

/-- The session for some arguments on a disk, with the machine's order of sets and the path of the standard options. -/
def session (order : SetOrder Float) (standard : Path) (arguments : List String) (disk : Disk) : Session :=
  match ofArguments arguments with
  | .ok .help => .help
  | .ok (.run request _) => .run (Run.ofRequest (.yaml order) disk standard request)
  | .error e => .refused e

/-- The paths whose files a session looks at: those that the command line names, and that of the standard options. -/
def namedPaths (standard : Path) (arguments : List String) : List Path :=
  match (ofArguments arguments : Except UsageError (Asked Float)) with
  | .ok (.run request _) => standard :: named request.config ++ named request.samplesFile
  | _ => []
where
  named : Stated Path → List Path
    | .value p => [p]
    | _ => []

end EquatorialMount.CommandLine
