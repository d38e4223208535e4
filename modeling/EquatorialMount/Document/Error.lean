import EquatorialMount.Document.Calendar

/-!
# What can be wrong with a document

A document can break the grammar of its format; then there is no value at all.  Or it is well formed, and a single
scalar has the form of a number or a date, or a tag that asks for one, and denotes none.
-/

namespace EquatorialMount

/-- Why a scalar denotes nothing of the kind that its form or its tag asks for.  Texts are as messages quote them. -/
inductive ScalarError
  /-- No integer in the given base. -/
  | integer (base : Nat) (quoted : String)
  /-- An integer of more decimal digits than are read. -/
  | tooManyDigits (count : Nat)
  | number (quoted : String)
  /-- A number in base 60 whose first part has a weight beyond all numbers. -/
  | tooLarge
  /-- None of the words for true and false. -/
  | truth (quoted : String)
  /-- No digit at all where a number is asked for. -/
  | nothing
  /-- Not laid out as a date or a time is. -/
  | notADate
  /-- A date asked of a mapping, where only a text can be one. -/
  | notAText
  /-- A mapping asked for the text of its default value, which is the mapping itself. -/
  | endless
  | calendar (e : CalendarError)
deriving Repr, DecidableEq

/-- Why a text is no document. -/
inductive DocumentError
  | malformed (problem : String)
  /-- An escape for a code point beyond the last one. -/
  | codePoint (code : Nat)
  /-- A scalar that denotes nothing, or a part of a version with too many digits. -/
  | scalar (e : ScalarError)
deriving Repr, DecidableEq

/-- The greatest number of decimal digits of an integer. -/
def integerDigitLimit : Nat := 4300

/-- Why a document has no text. -/
inductive WritingError
  /-- An integer of more decimal digits than are written. -/
  | tooManyDigits
deriving Repr, DecidableEq

end EquatorialMount
