import EquatorialMount.Document.Atom
import EquatorialMount.Document.Error
import EquatorialMount.Document.Kind
import EquatorialMount.Text.Base64
import EquatorialMount.Text.Casing

/-!
# What a text means

The value that a text has as a scalar of some kind, whether it has the form of that kind or is made it by a tag.  Texts
are taken by their code points here, so that the faulty part of a text can be told even where that holds halves of
surrogate pairs.
-/

namespace EquatorialMount

/-- A text by its code points. -/
abbrev Points := List Nat

namespace Meaning

def point (c : Char) : Nat := c.toNat

def pointsOf (s : String) : Points := s.toList.map point

/-- The characters of a text that has nothing else. -/
def characters? (s : Points) : Option (List Char) := (ScalarText.ofPoints s).string?.map (·.toList)

/-- A text in lower case, where halves of surrogate pairs end words. -/
def lower (s : Points) : Points :=
  (s.splitBy fun a b => ScalarText.isHalf a = ScalarText.isHalf b).flatMap fun run =>
    if run.any ScalarText.isHalf then run else (Text.lower (run.map Char.ofNat)).map point

def withoutJoints (s : Points) : Points := s.filter (· ≠ point '_')

/-- What follows the lead of a text, if it has it. -/
def after? (lead : String) (s : Points) : Option Points :=
  if (pointsOf lead).isPrefixOf s then some (s.drop lead.length) else none

/-! ### Numbers -/

def digitValue (c : Char) : Option Nat :=
  match Text.decimalDigit? c with
  | some d => some d
  | none =>
    if 'a' ≤ c && c ≤ 'z' then some (c.toNat - 87)
    else if 'A' ≤ c && c ≤ 'Z' then some (c.toNat - 55)
    else none

/-- The value of digits in a base, each of which is one. -/
def natInBase? (base : Nat) (digits : List Char) : Option Nat :=
  digits.foldl (fun sum c => do
    let d ← digitValue c
    if d < base then return (← sum) * base + d else none) (some 0)

/-- The letters that may stand behind a zero in front of the digits in a base. -/
def baseMarks : Nat → List Char
  | 2 => ['b', 'B']
  | 8 => ['o', 'O']
  | 16 => ['x', 'X']
  | _ => []

/-- An integer in a base, with blanks around it and a sign; a mark for the base may come before the digits. -/
def intInBase (base : Nat) (s : Points) : Except ScalarError Int :=
  let (negative, body) := Decimal.splitSign (Text.trimBlanks ((characters? s).getD []))
  let digits :=
    match body with
    | '0' :: mark :: rest => if (baseMarks base).contains mark then rest else body
    | _ => body
  match if digits.isEmpty then none else natInBase? base digits with
  | some n =>
    if base = 10 && integerDigitLimit < digits.length then .error (.tooManyDigits digits.length)
    else .ok (if negative then -n else n)
  | none => .error (.integer base (Text.quotedPoints s))

/-- A sign, and the text that goes on behind it; without any text there is neither. -/
def signed? (s : Points) : Except ScalarError (Bool × Points) :=
  match s with
  | [] => .error .nothing
  | c :: rest => .ok (c = point '-', if c = point '-' || c = point '+' then rest else s)

/-- The sum of the parts of a base-60 number, of which the last has weight one and each other sixty times that of the
next. -/
def base60 {β : Type} (zero : β) (step : β → β → Int → Except ScalarError β) (parts : List β) : Except ScalarError β :=
  return (← parts.reverse.foldlM (fun (sum, weight) part => do return (← step sum part weight, weight * 60))
    (zero, 1)).1

def magnitude (body : Points) : Except ScalarError Int :=
  if body = [] then .error .nothing
  else if body = pointsOf "0" then .ok 0
  else
    match after? "0b" body, after? "0x" body with
    | some rest, _ => intInBase 2 rest
    | none, some rest => intInBase 16 rest
    | none, none =>
      if body.head? = some (point '0') then intInBase 8 body
      else if body.contains (point ':') then do
        base60 0 (fun sum part weight => .ok (sum + part * weight))
          (← (Form.partsAt (point ':') body).mapM (intInBase 10))
      else intInBase 10 body

def int (s : Points) : Except ScalarError Int := do
  let (negative, body) ← signed? (withoutJoints s)
  let n ← magnitude body
  return if negative then -n else n

section Numbers

variable {α : Type} [Scalar α] [NumberReading α]

def plainNumber (s : Points) : Except ScalarError α :=
  match (characters? s).bind fun chars => NumberReading.ofText? (String.ofList chars) with
  | some x => .ok x
  | none => .error (.number (Text.quotedPoints s))

/-- A part of a base-60 number with its weight added to a sum. -/
def addWeighted (sum part : α) (weight : Int) : Except ScalarError α :=
  match NumberReading.ofInt? weight with
  | some w => .ok (sum + part * w)
  | none => .error .tooLarge

def number (s : Points) : Except ScalarError α := do
  let (negative, body) ← signed? (lower (withoutJoints s))
  if body = pointsOf ".nan" then return ← plainNumber (pointsOf "nan")
  let x ←
    if body = pointsOf ".inf" then plainNumber (pointsOf "inf")
    else if body.contains (point ':') then do
      base60 Scalar.zero addWeighted (← (Form.partsAt (point ':') body).mapM plainNumber)
    else plainNumber body
  return if negative then -x else x

end Numbers

/-- Whether a text is the sign for the undefined number, which is one and the same wherever it stands. -/
def isUndefinedSign (s : Points) : Bool :=
  match signed? (lower (withoutJoints s)) with
  | .ok (_, body) => body = pointsOf ".nan"
  | .error _ => false

/-! ### Other values -/

def truth (s : Points) : Except ScalarError Bool :=
  let word := lower s
  match Form.truthWords.find? fun (known, _) => pointsOf known = word with
  | some (_, b) => .ok b
  | none => .error (.truth (Text.quotedPoints word))

def date {α : Type} (s : Points) : Except ScalarError (Atom α) :=
  let line := if s.getLast? = some (point '\n') then s.dropLast else s
  match (characters? line).bind (Form.date? false) with
  | some (.inl d) => (d.check.map Atom.day).mapError .calendar
  | some (.inr m) => (m.check.map Atom.moment).mapError .calendar
  | none => .error .notADate

/-- The bytes a text stands for in base 64, none for a text that is not all ASCII. -/
def bytes? (s : Points) : Option (List UInt8) :=
  if s.all (· < 0x80) then Text.Base64.decode? (s.map Char.ofNat) else none

end Meaning

namespace Kind

variable {α : Type} [Scalar α] [NumberReading α]

/-- The value of a text of this kind.  There is none for a kind that is not one of scalars, and for a text that stands
for no bytes. -/
def atom? (kind : Kind) (t : ScalarText) : Except ScalarError (Option (Atom α)) :=
  match kind with
  | null => .ok (some .null)
  | truth => (Meaning.truth t.points).map (some <| .truth ·)
  | int => (Meaning.int t.points).map (some <| .int ·)
  | number => (Meaning.number t.points).map (some <| .number ·)
  | text => .ok (some (.text t))
  | date => (Meaning.date t.points).map some
  | bytes => .ok ((Meaning.bytes? t.points).map .bytes)
  | _ => .ok none

end Kind

end EquatorialMount
