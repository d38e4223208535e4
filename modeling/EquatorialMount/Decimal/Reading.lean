import EquatorialMount.Scalar
import EquatorialMount.Text.Classes

/-!
# Numbers read from text

A number in text is a decimal with optional sign, point and exponent, or one of the words for infinity and for an
undefined number in any case.  Blanks may stand around it, underscores between two digits, and digits may come from any
script.
-/

namespace EquatorialMount

/-- Numbers that text and integers can be read as. -/
class NumberReading (α : Type) where
  /-- The number an integer rounds to, unless it is too large. -/
  ofInt? : Int → Option α
  /-- The number a text denotes, unless it denotes none. -/
  ofText? : String → Option α
  /-- Whether a number is exactly an integer. -/
  isInt : α → Int → Bool
  /-- Whether two numbers are equal; an undefined one is equal to none. -/
  equal : α → α → Bool

namespace Decimal

/-- A number as written: its digits read as one natural number, and the power of ten that goes with them. -/
inductive Numeral
  | finite (negative : Bool) (digits : Nat) (exponent : Int)
  | infinite (negative : Bool)
  | undefined
deriving Repr, DecidableEq

/-- A digit of any script as the plain one; other characters stay. -/
def plainDigit (c : Char) : Char :=
  match Text.decimalDigit? c with
  | some d => Char.ofNat (48 + d)
  | none => c

/-- Takes out underscores, each of which has to stand between two digits. -/
def joinDigits : List Char → Option (List Char)
  | [] => some []
  | '_' :: _ => none
  | [c] => some [c]
  | c :: '_' :: d :: rest => if c.isDigit && d.isDigit then (joinDigits (d :: rest)).map (c :: ·) else none
  | c :: rest => (joinDigits rest).map (c :: ·)

def natOfDigits (digits : List Char) : Nat := digits.foldl (fun n c => 10 * n + (c.toNat - 48)) 0

/-- A leading sign and what follows it. -/
def splitSign : List Char → Bool × List Char
  | '-' :: rest => (true, rest)
  | '+' :: rest => (false, rest)
  | s => (false, s)

/-- The value of an exponent with its mark, zero for an empty text. -/
def exponent? : List Char → Option Int
  | [] => some 0
  | c :: rest =>
    let (negative, digits) := splitSign rest
    if (c = 'e' || c = 'E') && digits ≠ [] && digits.all (·.isDigit) then
      some (if negative then -natOfDigits digits else natOfDigits digits)
    else none

/-- A decimal without its sign. -/
def unsigned? (negative : Bool) (s : List Char) : Option Numeral := do
  let whole := s.takeWhile (·.isDigit)
  let (fraction, rest) :=
    match s.dropWhile (·.isDigit) with
    | '.' :: rest => (rest.takeWhile (·.isDigit), rest.dropWhile (·.isDigit))
    | rest => ([], rest)
  if whole ++ fraction = [] then none
  let e ← exponent? rest
  return .finite negative (natOfDigits (whole ++ fraction)) (e - fraction.length)

/-- The numeral a text spells. -/
def numeral? (s : String) : Option Numeral := do
  let (negative, body) := splitSign (← joinDigits ((Text.trimBlanks s.toList).map plainDigit))
  let word := String.ofList (body.map Char.toLower)
  if word = "inf" || word = "infinity" then return .infinite negative
  if word = "nan" then return .undefined
  unsigned? negative body

end Decimal

end EquatorialMount
