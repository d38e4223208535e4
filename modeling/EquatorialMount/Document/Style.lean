import EquatorialMount.Document.Kind
import EquatorialMount.Document.Token

/-!
# How texts are written in a document

A text is written plain where it reads back as itself, else in single quotes, and in double quotes with escapes if it
has characters outside printable ASCII or blanks next to line breaks.  Lines are folded at blanks once they are longer
than 80 characters, but never within a key.
-/

namespace EquatorialMount

inductive TextStyle
  | plain
  | singleQuoted
  | doubleQuoted
deriving Repr, DecidableEq

namespace TextStyle

/-! ### The style of a text -/

def breaksLine (c : Char) : Bool := c = '\n' || c = '\x85' || c = '\u2028' || c = '\u2029'

/-- Whether a character needs an escape. -/
def isSpecial (c : Char) : Bool := !(c = '\n' || (' ' ≤ c && c ≤ '~'))

/-- Whether two characters in a row anywhere pass a test. -/
def anyPair (p : Char → Char → Bool) : List Char → Bool
  | c :: d :: rest => p c d || anyPair p (d :: rest)
  | _ => false

/-- Whether a blank stands next to a line break. -/
def blankAtBreak (s : List Char) : Bool :=
  anyPair (fun c d => (c = ' ' && breaksLine d) || (breaksLine c && d = ' ')) s

def leadingIndicators : List Char := "#,[]\x7b\x7d&*!|>'\"%@\x60".toList

/-- Whether a text starts with something else than text. -/
def startsAsIndicator (s : List Char) : Bool :=
  ['-', '-', '-'].isPrefixOf s || ['.', '.', '.'].isPrefixOf s
    || match s with
      | c :: rest => leadingIndicators.contains c || (['?', ':', '-'].contains c && endsWord rest.head?)
      | [] => false

/-- Whether a text holds a colon or a number sign where that ends plain text. -/
def holdsIndicator (s : List Char) : Bool :=
  anyPair (fun c d => endsWord (some c) && d = '#') s || anyPair (fun c d => c = ':' && endsWord (some d)) s
    || s.getLast? = some ':'

/-- Whether a text can stand without quotes. -/
def allowsPlain (s : List Char) : Bool :=
  s ≠ [] && !s.any isSpecial && !s.any breaksLine && s.head? ≠ some ' ' && s.getLast? ≠ some ' '
    && !startsAsIndicator s && !holdsIndicator s

def allowsSingleQuotes (s : List Char) : Bool := !s.any isSpecial && !blankAtBreak s

/-- The style of a text. -/
def of : ScalarText → TextStyle
  | .whole s =>
    if allowsPlain s.toList && Kind.ofText s = .text then plain
    else if allowsSingleQuotes s.toList then singleQuoted
    else doubleQuoted
  | .broken _ => doubleQuoted

/-! ### The written text -/

/-- The column past which a line is folded. -/
def lineWidth : Nat := 80

def newLine (indent : Nat) : String := "\n" ++ String.ofList (List.replicate indent ' ')

/-- A plain text from a column on: a single blank past the line width becomes a line break. -/
def plainFrom (fold : Bool) (indent : Nat) : Nat → Nat → List Char → String
  | 0, _, s => String.ofList s
  | fuel + 1, column, s =>
    let word := s.takeWhile (· ≠ ' ')
    let blanks := (s.dropWhile (· ≠ ' ')).takeWhile (· = ' ')
    let rest := (s.dropWhile (· ≠ ' ')).dropWhile (· = ' ')
    let column := column + word.length
    if blanks.isEmpty then String.ofList word
    else if blanks.length = 1 && lineWidth < column && fold then
      String.ofList word ++ newLine indent ++ plainFrom fold indent fuel indent rest
    else String.ofList (word ++ blanks) ++ plainFrom fold indent fuel (column + blanks.length) rest

/-- A text between single quotes from a column on; `first` at its start.  A quote is written twice and a line break
once more than it is there. -/
def singleQuotedFrom (fold : Bool) (indent : Nat) : Nat → Bool → Nat → List Char → String
  | 0, _, _, s => String.ofList s
  | fuel + 1, first, column, s =>
    match s with
    | [] => ""
    | c :: rest =>
      if c = '\'' then "''" ++ singleQuotedFrom fold indent fuel false (column + 2) rest
      else if c = ' ' then
        let blanks := s.takeWhile (· = ' ')
        let rest := s.dropWhile (· = ' ')
        if blanks.length = 1 && lineWidth < column && fold && !first && !rest.isEmpty then
          newLine indent ++ singleQuotedFrom fold indent fuel false indent rest
        else String.ofList blanks ++ singleQuotedFrom fold indent fuel false (column + blanks.length) rest
      else if c = '\n' then
        let breaks := s.takeWhile (· = '\n')
        String.ofList breaks ++ newLine indent
          ++ singleQuotedFrom fold indent fuel false indent (s.dropWhile (· = '\n'))
      else c.toString ++ singleQuotedFrom fold indent fuel false (column + 1) rest

/-- The letters that stand for characters after a backslash. -/
def escapeLetters : List (Char × Char) :=
  [('\x00', '0'), ('\x07', 'a'), ('\x08', 'b'), ('\t', 't'), ('\n', 'n'), ('\x0b', 'v'), ('\x0c', 'f'), ('\r', 'r'),
   ('\x1b', 'e'), ('"', '"'), ('\\', '\\'), ('\x85', 'N'), ('\xa0', '_'), ('\u2028', 'L'), ('\u2029', 'P')]

def upperHex (width n : Nat) : String := Form.upper (Text.hex width n)

/-- The escape of a code point that needs one between double quotes. -/
def escape? (n : Nat) : Option String :=
  match escapeLetters.find? fun (c, _) => c.toNat = n with
  | some (_, letter) => some ("\\" ++ letter.toString)
  | none =>
    if 0x20 ≤ n && n ≤ 0x7e then none
    else if n ≤ 0xff then some ("\\x" ++ upperHex 2 n)
    else if n ≤ 0xffff then some ("\\u" ++ upperHex 4 n)
    else some ("\\U" ++ upperHex 8 n)

/-- A text between double quotes from a column on, by its code points.  `held` are characters not written out yet,
`afterEscape` tells that the last one was an escape, and `position` counts those before.  A folded line ends in a
backslash, and a blank at the start of the next line has one in front. -/
def doubleQuotedFrom (fold : Bool) (indent total : Nat) :
    List Char → Bool → Nat → Nat → List Nat → String
  | held, _, _, _, [] => String.ofList held
  | held, afterEscape, column, position, n :: rest =>
    let inside := 0 < position && position + 1 < total
    let blank := ' '.toNat
    match escape? n with
    | some e =>
      let column := column + held.length + e.length
      let written := String.ofList held ++ e
      if inside && lineWidth + 1 < column && fold then
        let lead := if rest.head? = some blank then "\\" else ""
        written ++ "\\" ++ newLine indent ++ lead
          ++ doubleQuotedFrom fold indent total [] true (indent + lead.length) (position + 1) rest
      else written ++ doubleQuotedFrom fold indent total [] true column (position + 1) rest
    | none =>
      let c := Char.ofNat n
      let foldsHere :=
        inside && (n = blank || (afterEscape && held.isEmpty)) && lineWidth < column + held.length && fold
      if foldsHere then
        let lead := if n = blank then "\\" else ""
        String.ofList held ++ "\\" ++ newLine indent ++ lead
          ++ doubleQuotedFrom fold indent total [c] false (indent + lead.length) (position + 1) rest
      else doubleQuotedFrom fold indent total (held ++ [c]) false column (position + 1) rest

/-- A text in a style from a column on.  Its further lines are indented by `indent`, and there are none unless it may
`fold`.  Only between double quotes a text can be written that is not all characters. -/
def write (style : TextStyle) (fold : Bool) (indent column : Nat) (t : ScalarText) : String :=
  let chars := (t.string?.getD "").toList
  match style with
  | plain => plainFrom fold indent (chars.length + 1) column chars
  | singleQuoted => "'" ++ singleQuotedFrom fold indent (chars.length + 1) true (column + 1) chars ++ "'"
  | doubleQuoted =>
    "\"" ++ doubleQuotedFrom fold indent t.points.length [] false (column + 1) 0 t.points ++ "\""

end TextStyle

end EquatorialMount
