import EquatorialMount.Options
import EquatorialMount.Sphere

/-!
# Samples in a file

A file of samples is a mapping with three samples of two numbers each and perhaps a latitude.  What counts is what the
values consist of: a list of its items, a text of its characters and a mapping of its keys.
-/

namespace EquatorialMount

/-- Why a file of samples cannot be used. -/
inductive SamplesError
  /-- The file is asked for without a path. -/
  | noPath
  | file (e : FileError)
  | document (e : DocumentError)
  | notAMapping (path : Path) (kind : String)
  /-- The samples are of a kind that has no members. -/
  | noMembers (kind : String)
  | count (path : Path) (found : Nat)
  /-- One sample is of a kind that has no members. -/
  | noPair (kind : String)
  | pairTooShort (found : Nat)
  | pairTooLong (found : Nat)
  | conversion (e : ConversionError)
deriving Repr, DecidableEq

/-- What those who handle errors tell apart: faults of a value, of its kind and of its size. -/
inductive ErrorClass
  | value
  | kind
  | size
deriving Repr, DecidableEq

def ConversionError.errorClass : ConversionError → ErrorClass
  | notANumber _ => .value
  | tooLarge => .size
  | wrongKind => .kind

/-- The class of an error, unless it is one of the file or of its text. -/
def SamplesError.errorClass? : SamplesError → Option ErrorClass
  | noPath => some .kind
  | file _ => none
  | document _ => none
  | notAMapping .. => some .value
  | noMembers _ => some .kind
  | count .. => some .value
  | noPair _ => some .kind
  | pairTooShort _ => some .value
  | pairTooLong _ => some .value
  | conversion e => some e.errorClass

/-- The samples of a file and its latitude as it stands there. -/
structure SamplesFile (α : Type) where
  samples : Samples α
  latitude : Document α

namespace SamplesFile

variable {α : Type} [Scalar α] [NumberReading α]

/-- The two numbers of a sample, the hour angle first. -/
def pairOf (v : Document α) : Except SamplesError (AnglePair α) :=
  match v.members? with
  | none => .error (.noPair v.view.kindName)
  | some [a, b] => do
    let primary ← a.view.toNumber.mapError .conversion
    let secondary ← b.view.toNumber.mapError .conversion
    return ⟨primary, secondary⟩
  | some members =>
    .error (if members.length < 2 then .pairTooShort members.length else .pairTooLong members.length)

/-- The three samples of a value; nothing, like all that counts as empty, has no samples. -/
def samplesOf (path : Path) (v : Document α) : Except SamplesError (Samples α) :=
  match (if v.view.isEmpty then some [] else v.members?) with
  | none => .error (.noMembers v.view.kindName)
  | some [a, b, c] => return ⟨← pairOf a, ← pairOf b, ← pairOf c⟩
  | some members => .error (.count path members.length)

/-- The samples of a document; one that counts as empty is an empty mapping. -/
def ofDocument (path : Path) (d : Document α) : Except SamplesError (SamplesFile α) := do
  let d := if d.view.isEmpty then d.holding (.map []) else d
  match d.view with
  | .map _ =>
    let samples ← samplesOf path (d.entryOrNothing (.text "samples"))
    return ⟨samples, d.entryOrNothing (.text "latitude")⟩
  | v => throw (.notAMapping path v.kindName)

def load (format : DocumentFormat α) (disk : Disk) (path : Path) : Except SamplesError (SamplesFile α) := do
  let text ← (disk.read path).mapError .file
  ofDocument path (← (format.read text).mapError .document)

end SamplesFile

end EquatorialMount
