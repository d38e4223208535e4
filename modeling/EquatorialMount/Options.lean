import EquatorialMount.Disk
import EquatorialMount.Document.Basic
import EquatorialMount.Document.Error
import EquatorialMount.Rotator.Calibration

/-!
# Persisted options

The options of a mount are a document of sections.  The two known sections, for the rotator and for polar alignment,
always have their default entries; everything else in the file is kept as it is, in its order.  The store of options
keeps them at hand, writes each new offset to its file at once, and without a path has no file.
-/

namespace EquatorialMount

/-- A format of documents: how a text is read, and how a document is written. -/
structure DocumentFormat (α : Type) where
  read : String → Except DocumentError (Document α)
  write : Document α → Except WritingError String

/-- Why a file of options cannot be used. -/
inductive OptionsError
  | file (e : FileError)
  /-- The file is no document. -/
  | malformed (path : Path) (problem : String)
  /-- The file is a document with something in it that denotes no value. -/
  | unreadable (e : DocumentError)
  | notAMapping (path : Path) (kind : String)
  | sectionNotAMapping (path : Path) (name kind : String)
deriving Repr, DecidableEq

/-- Why options cannot be saved. -/
inductive SaveError
  | file (e : FileError)
  | document (e : WritingError)
deriving Repr, DecidableEq

namespace Options

variable {α : Type} [Scalar α] [NumberReading α]

def rotatorKey : Atom α := .text "rotator"

def alignmentKey : Atom α := .text "polar_alignment"

def offsetKey : Atom α := .text "pa_offset"

def latitudeKey : Atom α := .text "latitude"

def rotatorDefaults : Value α := .map [(.new offsetKey, Document.atom (.number Scalar.zero))]

def alignmentDefaults : Value α := .map [(.new latitudeKey, Document.atom .null)]

/-- The entries that every set of options has. -/
def defaultEntries : List (Leaf α × Value α) :=
  [(.new rotatorKey, rotatorDefaults), (.new alignmentKey, alignmentDefaults)]

def defaults : Document α := ⟨.map defaultEntries, #[]⟩

/-- Leaves a section without a value out, so that it has its defaults, and refuses one that is no mapping. -/
def checkSection (path : Path) (name : String) (d : Document α) : Except OptionsError (Document α) :=
  match d.entry? (.text name) with
  | none => .ok d
  | some found =>
    match found.view with
    | .map _ => .ok d
    | .atom .null => .ok (d.erase (.text name))
    | v => .error (.sectionNotAMapping path name v.kindName)

/-- A document with sections; a document without a value has none. -/
def sectionsOf (path : Path) (d : Document α) : Except OptionsError (Document α) := do
  let d ←
    match d.view with
    | .map _ => pure d
    | .atom .null => pure (d.holding (.map []))
    | v => .error (.notAMapping path v.kindName)
  checkSection path "polar_alignment" (← checkSection path "rotator" d)

/-- The entries of a document to be laid over the defaults, where a section with defaults becomes a mapping of its
own. -/
def upperEntries (d : Document α) : List (Leaf α × Value α) :=
  (d.entries?.getD []).map fun (key, v) =>
    (key, if Entries.contains key (defaultEntries : List (Leaf α × Value α)) then d.opened v else v)

/-- The options in a document. -/
def ofDocument (path : Path) (d : Document α) : Except OptionsError (Document α) := do
  let d ← sectionsOf path d
  return d.holding (.map (Tree.overlayEntries defaultEntries (upperEntries d)))

/-- The options in the file at a path, the defaults if there is none. -/
def load (format : DocumentFormat α) (disk : Disk) (path : Path) : Except OptionsError (Document α) := do
  if !(← (disk.doesExist path).mapError .file) then return defaults
  let text ← (disk.read path).mapError .file
  match format.read text with
  | .ok d => ofDocument path d
  | .error (.malformed problem) => throw (.malformed path problem)
  | .error e => throw (.unreadable e)

end Options

/-- The options of one mount and the file they are kept in, if any. -/
structure OptionStore (α : Type) where
  path : Option Path
  config : Document α

namespace OptionStore

open Options

variable {α : Type} [Scalar α] [NumberReading α]

/-- The options a store with this path has at its start; they are read from its file each time. -/
def load (format : DocumentFormat α) (disk : Disk) (path : Option Path) : Except OptionsError (Document α) :=
  match path with
  | some p => Options.load format disk p
  | none => .ok defaults

def ofPath (format : DocumentFormat α) (disk : Disk) (path : Option Path) : Except OptionsError (OptionStore α) :=
  return ⟨path, ← load format disk path⟩

/-- Whether the file of a store is missing, so that it has the defaults. -/
def isMissing (disk : Disk) (path : Option Path) : Bool :=
  match path.map disk.doesExist with
  | some (.ok there) => !there
  | _ => false

/-- The stored offset of the rotator.  A value that counts as empty is an offset of zero. -/
def offset (s : OptionStore α) : Except ConversionError α :=
  let v := ((s.config.entryOrNothing rotatorKey).entryOrNothing offsetKey).view
  if v.isEmpty then .ok Scalar.zero else v.toNumber

/-- The stored latitude as it stands in the options. -/
def rawLatitude (config : Document α) : Document α :=
  (config.entryOrNothing alignmentKey).entryOrNothing latitudeKey

def latitude (s : OptionStore α) : Except ConversionError (Option α) :=
  match (rawLatitude s.config).view with
  | .atom .null => .ok none
  | v => v.toNumber.map some

/-- The options with another offset. -/
def withOffset (x : α) (config : Document α) : Document α :=
  match config.content with
  | .map entries =>
    let old :=
      match Entries.get? (.new rotatorKey) entries with
      | some (.map old) => old
      | _ => []
    let sectionWith : Value α := .map (Entries.put (.new offsetKey) (Document.atom (.number x)) old)
    config.holding (.map (Entries.put (.new rotatorKey) sectionWith entries))
  | _ => config

/-- Writes the options to their file, if they have one.  The file is emptied before there is a text for it. -/
def save (format : DocumentFormat α) (s : OptionStore α) (disk : Disk) : Outcome SaveError Disk Unit :=
  match s.path with
  | none => (.ok (), disk)
  | some p =>
    let written := format.write s.config
    let (answer, disk) := disk.save p (written.toOption.getD "")
    (answer.mapError .file *> (written.mapError .document).map fun _ => (), disk)

/-- Stores an offset and saves the options, in whatever way and wherever they are saved.  The store has the offset even
if it cannot be saved. -/
def setOffsetBy {σ : Type} (save : OptionStore α → σ → Outcome SaveError σ Unit) :
    OffsetKeeper SaveError (OptionStore α × σ) α := fun x (s, world) =>
  let s := { s with config := withOffset x s.config }
  let (answer, world) := save s world
  (answer, s, world)

/-- Stores an offset and saves the options on the disk. -/
def setOffset (format : DocumentFormat α) : OffsetKeeper SaveError (OptionStore α × Disk) α := setOffsetBy (save format)

end OptionStore

end EquatorialMount
