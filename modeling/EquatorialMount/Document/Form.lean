import EquatorialMount.Decimal.Reading
import EquatorialMount.Document.Calendar

/-!
# The forms of plain text

Truth values, numbers, dates and nothing each have forms of text that they are recognized by.  Integers have a decimal,
octal, hexadecimal, binary and a base-60 form; a number that is no integer has a point.
-/

namespace EquatorialMount.Form

def truthWords : List (String × Bool) :=
  [("yes", true), ("true", true), ("on", true), ("no", false), ("false", false), ("off", false)]

def capitalized (word : String) : String :=
  match word.toList with
  | c :: rest => String.ofList (c.toUpper :: rest)
  | [] => ""

def upper (word : String) : String := String.ofList (word.toList.map Char.toUpper)

/-- A word in lower case, with a capital, or in upper case. -/
def spellings (word : String) : List String := [word, capitalized word, upper word]

def isTruthWord (s : String) : Bool := truthWords.any fun (word, _) => (spellings word).contains s

def isNullWord (s : String) : Bool := s = "" || s = "~" || (spellings "null").contains s

def isDigitOrJoint (c : Char) : Bool := c.isDigit || c = '_'

/-- The parts of a text, or of its code points, between separators. -/
def partsAt {β : Type} [DecidableEq β] (separator : β) : List β → List (List β)
  | [] => [[]]
  | c :: rest =>
    if c = separator then [] :: partsAt separator rest
    else
      match partsAt separator rest with
      | first :: others => (c :: first) :: others
      | [] => [[c]]

/-- A part of a base-60 number after the first: one digit, or two below sixty. -/
def isSixtieth : List Char → Bool
  | [c] => c.isDigit
  | [c, d] => '0' ≤ c && c ≤ '5' && d.isDigit
  | _ => false

/-- Whether a text has the base-60 form, with a first part that `first` accepts and at least one more. -/
def isBase60 (first : List Char → Bool) (s : List Char) : Bool :=
  match partsAt ':' s with
  | head :: parts@(_ :: _) => first head && parts.all isSixtieth
  | _ => false

/-- Digits and joints, of which the first is a digit. -/
def isDigits : List Char → Bool
  | c :: rest => c.isDigit && rest.all isDigitOrJoint
  | [] => false

/-- As `isDigits`, not starting with a zero. -/
def isLongDigits : List Char → Bool
  | c :: rest => c.isDigit && c ≠ '0' && rest.all isDigitOrJoint
  | [] => false

def withoutSign (s : List Char) : List Char := (Decimal.splitSign s).2

def isInt (s : List Char) : Bool :=
  match withoutSign s with
  | ['0'] => true
  | '0' :: 'b' :: rest => rest ≠ [] && rest.all fun c => c = '0' || c = '1' || c = '_'
  | '0' :: 'x' :: rest =>
    rest ≠ [] && rest.all fun c => isDigitOrJoint c || ('a' ≤ c && c ≤ 'f') || ('A' ≤ c && c ≤ 'F')
  | '0' :: rest => rest.all fun c => ('0' ≤ c && c ≤ '7') || c = '_'
  | body => isLongDigits body || isBase60 isLongDigits body

/-- The exponent of a number: with a mark, a sign and digits, or missing. -/
def isExponent : List Char → Bool
  | [] => true
  | mark :: sign :: digits =>
    (mark = 'e' || mark = 'E') && (sign = '+' || sign = '-') && digits ≠ [] && digits.all (·.isDigit)
  | _ => false

/-- Digits and joints with nothing but an exponent after them. -/
def isFraction (s : List Char) : Bool := isExponent (s.dropWhile isDigitOrJoint)

def isNumber (s : List Char) : Bool :=
  let body := withoutSign s
  let whole := body.takeWhile (· ≠ '.')
  match body.dropWhile (· ≠ '.') with
  | '.' :: fraction =>
    if whole.isEmpty then
      ["inf", "Inf", "INF"].contains (String.ofList fraction)
        || (body = s && (["nan", "NaN", "NAN"].contains (String.ofList fraction)
          || (fraction.head?.any (·.isDigit) && isFraction fraction)))
    else (isDigits whole && isFraction fraction)
      || (isBase60 isDigits whole && fraction.all isDigitOrJoint)
  | _ => false

/-! ### Dates -/

/-- Digits at the start of a text, at most `most` of them, as a number with how many there are. -/
def leadingDigits (most : Nat) (s : List Char) : Nat × Nat × List Char :=
  let digits := (s.take most).takeWhile (·.isDigit)
  (digits.length, Decimal.natOfDigits digits, s.drop digits.length)

/-- A number of `least` to `most` digits and what follows it. -/
def digits? (least most : Nat) (s : List Char) : Option (Nat × List Char) :=
  let (count, value, rest) := leadingDigits most s
  if least ≤ count then some (value, rest) else none

def take? (c : Char) : List Char → Option (List Char)
  | d :: rest => if c = d then some rest else none
  | [] => none

def isSpace (c : Char) : Bool := c = ' ' || c = '\t'

/-- What stands between a day and a time of day. -/
def afterDay? (s : List Char) : Option (List Char) :=
  match s with
  | c :: rest =>
    if c = 'T' || c = 't' then some rest
    else if isSpace c then some (rest.dropWhile isSpace)
    else none
  | [] => none

/-- The digits of a fraction of a second as microseconds; further digits are cut off. -/
def microseconds (digits : List Char) : Nat :=
  Decimal.natOfDigits ((digits ++ List.replicate 6 '0').take 6)

/-- An offset from universal time, in minutes. -/
def offset? (s : List Char) : Option (Option Int) := do
  match s.dropWhile isSpace with
  | [] => if s.isEmpty then return none else none
  | ['Z'] => return some 0
  | sign :: rest =>
    if sign ≠ '+' && sign ≠ '-' then none
    let (hours, rest) ← digits? 1 2 rest
    let minutes ←
      match rest with
      | [] => pure 0
      | rest => do
        let (minutes, rest) ← digits? 2 2 (← take? ':' rest)
        if rest ≠ [] then none
        pure minutes
    let total : Int := hours * 60 + minutes
    return some (if sign = '-' then -total else total)

/-- A day, or a day with a time of day, as written; neither is checked against the calendar.  With `strict`, month and
day without a time have two digits each. -/
def date? (strict : Bool) (s : List Char) : Option (Day ⊕ Moment) := do
  let (year, rest) ← digits? 4 4 s
  let afterYear ← take? '-' rest
  let (month, rest) ← digits? 1 2 afterYear
  let (day, rest) ← digits? 1 2 (← take? '-' rest)
  let d : Day := ⟨year, month, day⟩
  if rest.isEmpty then
    if strict && afterYear.length ≠ 5 then none
    return .inl d
  let (hour, rest) ← digits? 1 2 (← afterDay? rest)
  let (minute, rest) ← digits? 2 2 (← take? ':' rest)
  let (second, rest) ← digits? 2 2 (← take? ':' rest)
  let (fraction, rest) :=
    match rest with
    | '.' :: rest => (rest.takeWhile (·.isDigit), rest.dropWhile (·.isDigit))
    | rest => ([], rest)
  let offset ← offset? rest
  return .inr ⟨d, hour, minute, second, microseconds fraction, offset⟩

end EquatorialMount.Form
