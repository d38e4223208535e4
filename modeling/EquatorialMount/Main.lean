import EquatorialMount.CommandLine.Session

/-!
# The program

Reads the files that the command line names and the standard options, makes the session and prints what it has to say.
-/

namespace EquatorialMount.CommandLine

/-- What the system has at a path. -/
def lookUp (p : Path) : IO (Option DiskEntry) := do
  try
    let bytes ← IO.FS.readBinFile p.text
    return some (.file (String.fromUTF8? bytes))
  catch _ =>
    try
      let _ ← IO.FS.Handle.mk (p.text ++ "/.") .read
      return some .folder
    catch _ => return none

/-- Sets are gone through as they are written. -/
def setOrder : SetOrder Float := .asWritten

/-- The file of the options that come with the program. -/
def standardPath : Path := ⟨"mount_alignment/defaults/mount_alignment.yaml"⟩

/-- The part of the system's disk that a session looks at. -/
def diskFor (arguments : List String) : IO Disk := do
  let mut disk := Disk.empty
  for p in namedPaths standardPath arguments do
    if let some entry ← lookUp p then
      disk := disk.place p entry
  return disk

/-- Prints a session and answers its exit code. -/
def report : Session → IO UInt32
  | .help => do
    for line in helpLines do IO.println line
    return 0
  | .refused e => do
    for line in usageLines do IO.eprintln line
    IO.eprintln (faultText e)
    return 2
  | .run r => do
    for notice in r.notices do IO.eprintln (notice.text .standard)
    for line in r.lines do IO.println line.text
    match r.ending with
    | .ok code => return code.toUInt32
    | .error crash => do
      IO.eprintln (crash.message .standard)
      return 1

end EquatorialMount.CommandLine

open EquatorialMount.CommandLine in
def main (arguments : List String) : IO UInt32 := do
  report (session setOrder standardPath arguments (← diskFor arguments))
