import EquatorialMount.Decimal.Notation
import EquatorialMount.Document.Error
import EquatorialMount.Document.Layout
import EquatorialMount.Document.Style
import EquatorialMount.Text.Base64

/-!
# Writing documents

A document is written in blocks: an entry or an item a line, two blanks more for each mapping inside another, and the
items of a list at the indentation of its key.  What several places hold is written once, with an anchor; the other
places refer to it.  A set is a mapping with a tag, and bytes are written in base 64.
-/

namespace EquatorialMount

namespace Atom

/-- The text of a number: the fewest digits that read back, always with a point. -/
def numberText (x : Float) : String :=
  if x.isNaN then ".nan"
  else if x.isInf then (if x < 0 then "-.inf" else ".inf")
  else
    let s := (Decimal.exact x).toList
    let mantissa := s.takeWhile (· ≠ 'e')
    String.ofList (if mantissa.contains '.' then s else mantissa ++ ['.', '0'] ++ s.dropWhile (· ≠ 'e'))

/-- The text of an atom as it stands in a document, before any quotes. -/
def written : Atom Float → ScalarText
  | null => "null"
  | truth b => if b then "true" else "false"
  | int n => toString n
  | number x => numberText x
  | text t => t
  | bytes content => .ofCharacters (Text.Base64.encode content)
  | day d => d.text
  | moment m => m.text " "

def style : Atom Float → TextStyle
  | text t => .of t
  | bytes _ => .singleQuoted
  | _ => .plain

/-- The length of the tag that an atom would have if it were written with one. -/
def tagLength : Atom Float → Nat
  | null => 6
  | truth _ => 6
  | int _ => 5
  | number _ => 7
  | text _ => 5
  | bytes _ => 8
  | day _ => 11
  | moment _ => 11

/-- Whether an atom that is written on one line with a text of the given length is short enough for a key that stands on
the line of its value. -/
def fitsKey (a : Atom Float) (length : Nat) : Bool := length + a.tagLength < 128

def isBytes : Atom Float → Bool
  | bytes _ => true
  | _ => false

/-- Whether an integer has more digits than are written. -/
def isTooLong : Atom Float → Bool
  | int n => integerDigitLimit < (toString n.natAbs).length
  | _ => false

end Atom

namespace Document

/-- The length of the lines that bytes are written in. -/
def bytesLineLength : Nat := 76

/-- The lines of a text, each but the last of the given length. -/
def linesOf (length : Nat) : Nat → List Char → List String
  | 0, _ => []
  | fuel + 1, s => if s.isEmpty then [] else String.ofList (s.take length) :: linesOf length fuel (s.drop length)

/-- An atom from a column on. -/
def writeAtom (fold : Bool) (indent column : Nat) : Atom Float → String
  | .bytes content =>
    let lines := linesOf bytesLineLength (2 * content.length + 4) (Text.Base64.encode content)
    if lines.isEmpty then "!!binary ''"
    else "!!binary |" ++ String.join (lines.map (TextStyle.newLine indent ++ ·))
  | a => a.style.write fold indent column a.written

/-- What a value is written behind: the colon of a key on the same line, the colon of a key on lines of its own, or the
dash of an item. -/
inductive Lead
  | key
  | longKey
  | dash
deriving Repr, DecidableEq

section Marks

variable (labels : List Nat)

/-- The label of a node, which counts those that are referred to. -/
def labelText (n : Nat) : String := "id" ++ Decimal.padLeft 3 '0' (toString (labels.idxOf n + 1))

def referenceText (n : Nat) : String := "*" ++ labelText labels n

/-- The anchor of a node that is referred to, empty for any other. -/
def anchorText : Option Nat → String
  | some n => if labels.contains n then "&" ++ labelText labels n else ""
  | none => ""

/-- What stands in front of a collection, with a blank before each mark. -/
def marksText (node : Option Nat) (tag : String) : String :=
  String.join (([anchorText labels node, tag].filter (· ≠ "")).map (" " ++ ·))

/-- The key of an entry if it can stand on the line of its value. -/
def simpleKey? (indent : Nat) : Layout Float → Option String
  | .reference n => some (referenceText labels n)
  | .atom node a =>
    let points := a.written.points
    let anchor := anchorText labels node
    let isOneLine := points ≠ [] && !points.any fun n => TextStyle.breaksLine (Char.ofNat n)
    if isOneLine && !a.isBytes && a.fitsKey (points.length + (anchor.length - 1)) then
      let anchor := if anchor = "" then "" else anchor ++ " "
      some (anchor ++ writeAtom false indent (indent + anchor.length) a)
    else none
  | _ => none

/-- The key of an entry on lines of its own, behind its mark. -/
def longKey (indent : Nat) : Layout Float → String
  | .atom _ a => writeAtom true indent indent a
  | _ => ""

mutual

/-- A value behind its lead, which ends at `column` in a block indented by `indent`. -/
def writeValue (lead : Lead) (indent column : Nat) : Layout Float → String
  | .reference n => " " ++ referenceText labels n
  | .atom node a =>
    let marks := marksText labels node ""
    marks ++ " " ++ writeAtom true (indent + 2) (column + marks.length + 1) a
  | .list node items =>
    let marks := marksText labels node ""
    if items.isEmpty then marks ++ " []"
    else if marks ≠ "" then
      let indent := if lead = .dash then indent + 2 else indent
      marks ++ TextStyle.newLine indent ++ writeItems indent true items
    else if lead = .key then TextStyle.newLine indent ++ writeItems indent true items
    else " " ++ writeItems (indent + 2) true items
  | .map node isSet entries =>
    let marks := marksText labels node (if isSet then "!!set" else "")
    if entries.isEmpty then marks ++ " \x7b\x7d"
    else
      let start := if marks ≠ "" || lead = .key then TextStyle.newLine (indent + 2) else " "
      marks ++ start ++ writeEntries (indent + 2) entries

/-- The items of a list, from where the first dash stands. -/
def writeItems (indent : Nat) (first : Bool) : List (Layout Float) → String
  | [] => ""
  | item :: rest =>
    (if first then "-" else TextStyle.newLine indent ++ "-")
      ++ writeValue .dash indent (indent + 1) item ++ writeItems indent false rest

/-- The entries of a mapping, from where the first key stands. -/
def writeEntries (indent : Nat) : List (Layout Float × Layout Float) → String
  | [] => ""
  | entry :: rest =>
    writeEntry indent entry ++ (if rest.isEmpty then "" else TextStyle.newLine indent) ++ writeEntries indent rest

def writeEntry (indent : Nat) : Layout Float × Layout Float → String
  | (key, value) =>
    match simpleKey? labels indent key with
    | some key => key ++ ":" ++ writeValue .key indent (indent + key.length + 1) value
    | none =>
      "? " ++ longKey (indent + 2) key ++ TextStyle.newLine indent ++ ":"
        ++ writeValue .longKey indent (indent + 1) value

end

/-- What stands in front of a collection at the root, up to the collection itself. -/
def rootLead (marks : String) (isEmpty : Bool) : String :=
  if marks = "" then "" else String.ofList (marks.toList.drop 1) ++ (if isEmpty then " " else "\n")

/-- A layout as a whole text. -/
def writeRoot : Layout Float → String
  | .reference n => referenceText labels n ++ "\n"
  | .atom _ a => writeAtom true 2 0 a ++ (if a.style = .plain then "\n...\n" else "\n")
  | .list node items =>
    rootLead (marksText labels node "") items.isEmpty
      ++ (if items.isEmpty then "[]" else writeItems labels 0 true items) ++ "\n"
  | .map node isSet entries =>
    rootLead (marksText labels node (if isSet then "!!set" else "")) entries.isEmpty
      ++ (if entries.isEmpty then "\x7b\x7d" else writeEntries labels 0 entries) ++ "\n"

end Marks

/-- The text of a document. -/
def text (d : Document Float) : Except WritingError String :=
  let layout := Layout.ofDocument d
  if layout.atoms.any (·.isTooLong) then .error .tooManyDigits
  else .ok (writeRoot layout.references.eraseDups layout)

end Document

end EquatorialMount
