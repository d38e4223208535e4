import EquatorialMount.Decimal.Reading
import EquatorialMount.Document.Calendar
import EquatorialMount.Document.ScalarText

/-!
# The simple values of a document

The leaves of a document, and its keys, are atoms: nothing, truth values, integers, numbers, texts, bytes, days and
moments.  Keys that are equal as numbers are one key, whichever way they are written.
-/

namespace EquatorialMount

inductive Atom (α : Type)
  | null
  | truth (b : Bool)
  | int (n : Int)
  | number (x : α)
  | text (s : ScalarText)
  | bytes (content : List UInt8)
  | day (d : Day)
  | moment (m : Moment)
deriving Repr, DecidableEq

/-- Why a value cannot be used as a number. -/
inductive ConversionError
  /-- A text or bytes that spell no number, as messages quote them. -/
  | notANumber (quoted : String)
  | tooLarge
  /-- A value of a kind that is never a number. -/
  | wrongKind
deriving Repr, DecidableEq

namespace Atom

variable {α : Type}

section Keys

variable [NumberReading α]

/-- The integer an integer or a truth value counts as. -/
def asInt? : Atom α → Option Int
  | truth b => some (if b then 1 else 0)
  | int n => some n
  | _ => none

/-- Whether a number is not even equal to itself. -/
def isUndefined (x : α) : Bool := !NumberReading.equal x x

/-- Whether two atoms are one key. -/
def same (a b : Atom α) : Bool :=
  match a.asInt?, b.asInt? with
  | some m, some n => m = n
  | some m, none =>
    match b with
    | number y => NumberReading.isInt y m
    | _ => false
  | none, some n =>
    match a with
    | number x => NumberReading.isInt x n
    | _ => false
  | none, none =>
    match a, b with
    | null, null => true
    | number x, number y => NumberReading.equal x y || (isUndefined x && isUndefined y)
    | text s, text t => s = t
    | bytes s, bytes t => s = t
    | day d, day e => d = e
    | moment m, moment n => m.same n
    | _, _ => false

instance : BEq (Atom α) := ⟨same⟩

/-- Whether an atom is not an undefined number. -/
def isDefined : Atom α → Bool
  | number x => !isUndefined x
  | _ => true

/-- Bytes as the text that they are in ASCII. -/
def asciiText? (content : List UInt8) : Option String :=
  if content.all (· < 0x80) then some (String.ofList (content.map fun b => Char.ofNat b.toNat)) else none

/-- The number an atom stands for.  A truth value is zero or one; text is read as a number, and so are bytes. -/
def toNumber : Atom α → Except ConversionError α
  | truth b => ofInt (if b then 1 else 0)
  | int n => ofInt n
  | number x => .ok x
  | text s => ofSpelling s.string? s.quoted
  | bytes content => ofSpelling (asciiText? content) (Text.quotedBytes content)
  | _ => .error .wrongKind
where
  ofInt (n : Int) : Except ConversionError α :=
    match NumberReading.ofInt? n with
    | some x => .ok x
    | none => .error .tooLarge
  ofSpelling (spelling : Option String) (quoted : String) : Except ConversionError α :=
    match spelling.bind NumberReading.ofText? with
    | some x => .ok x
    | none => .error (.notANumber quoted)

end Keys

/-- The name messages use for the kind of an atom. -/
def kindName : Atom α → String
  | null => "NoneType"
  | truth _ => "bool"
  | int _ => "int"
  | number _ => "float"
  | text _ => "str"
  | bytes _ => "bytes"
  | day _ => "date"
  | moment _ => "datetime"

/-- Whether an atom counts as empty: nothing, false, a zero, the empty text or no bytes. -/
def isEmpty [Scalar α] : Atom α → Bool
  | null => true
  | truth b => !b
  | int n => n = 0
  | number x => Scalar.isZero x
  | text s => s = ScalarText.whole ""
  | bytes content => content.isEmpty
  | day _ => false
  | moment _ => false

/-- What an atom consists of, for those that consist of anything: a text of characters, bytes of integers. -/
def members? : Atom α → Option (List (Atom α))
  | text s => some (s.characters.map text)
  | bytes content => some (content.map fun b => int b.toNat)
  | _ => none

end Atom

end EquatorialMount
