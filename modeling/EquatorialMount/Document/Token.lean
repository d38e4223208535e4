import EquatorialMount.Document.Error
import EquatorialMount.Document.ScalarText

/-!
# Tokens of a document's text

The tokens, and the reader they are taken from: what is left of the text, where it stands, and the state that decides
which tokens the layout stands for.  A `:` makes a key of what came before it on its line, so each place where a key
could have started is kept pending until it is settled; the tokens that open the key are then put in at that place.
-/

namespace EquatorialMount

inductive Token
  | blockSequenceStart
  | blockMappingStart
  | blockEnd
  | flowSequenceStart
  | flowSequenceEnd
  | flowMappingStart
  | flowMappingEnd
  | blockEntry
  | flowEntry
  | key
  | value
  | reference (name : String)
  | anchor (name : String)
  | tag (handle : Option String) (suffix : String)
  | scalar (text : ScalarText) (plain : Bool)
  /-- A directive that states the version, by its major number. -/
  | versionDirective (major : Nat)
  | tagDirective (handle lead : String)
  | otherDirective
  | documentStart
  | documentEnd
deriving Repr, DecidableEq

/-- A place where a key may have started. -/
structure PendingKey where
  /-- How many tokens came before it. -/
  token : Nat
  /-- Whether nothing but a key may stand there. -/
  required : Bool
  index : Nat
  line : Nat
  column : Nat
deriving Repr, DecidableEq

/-- The reader of a text. -/
structure Reader where
  rest : List Char
  /-- The length of the whole text, which bounds every loop over the rest of it. -/
  size : Nat
  index : Nat
  line : Nat
  column : Nat
  /-- The tokens so far, the latest first. -/
  tokens : List Token
  tokenCount : Nat
  /-- How many flow collections are open. -/
  flowLevel : Nat
  /-- The column of the innermost open block collection, below zero for none. -/
  indent : Int
  outerIndents : List Int
  keyAllowed : Bool
  /-- The pending key of each flow level that has one. -/
  pending : List (Nat × PendingKey)

abbrev Reading := StateT Reader (Except DocumentError)

/-! ### Characters -/

def isLineBreak (c : Char) : Bool :=
  c = '\n' || c = '\r' || c = '\x85' || c = '\u2028' || c = '\u2029'

/-- Whether a character is a blank, a tab or a line break, or the text has ended before it. -/
def endsWord : Option Char → Bool
  | none => true
  | some c => c = ' ' || c = '\t' || isLineBreak c

/-- As `endsWord`, but a tab does not count. -/
def endsField : Option Char → Bool
  | none => true
  | some c => c = ' ' || isLineBreak c

def isLineEnd : Option Char → Bool
  | none => true
  | some c => isLineBreak c

/-- The characters of which anchors and handles are made. -/
def isWordChar (c : Char) : Bool := c.isAlphanum || c = '-' || c = '_'

def isHexDigit (c : Char) : Bool :=
  c.isDigit || ('a' ≤ c && c ≤ 'f') || ('A' ≤ c && c ≤ 'F')

def hexValue (digits : List Char) : Nat :=
  digits.foldl (fun n c =>
    16 * n + (if c.isDigit then c.toNat - 48 else if c.isUpper then c.toNat - 55 else c.toNat - 87)) 0

/-- The mark of the byte order, which takes no column. -/
def byteOrderMark : Char := '\uFEFF'

/-- The characters a document may hold at all. -/
def isDocumentChar (c : Char) : Bool :=
  let n := c.toNat
  n = 9 || n = 10 || n = 13 || (0x20 ≤ n && n ≤ 0x7e) || n = 0x85 || (0xa0 ≤ n && n ≤ 0xd7ff)
    || (0xe000 ≤ n && n ≤ 0xfffd) || (0x10000 ≤ n && n ≤ 0x10ffff)

/-! ### Moves of the reader -/

namespace Reader

def ofText (text : List Char) : Reader :=
  { rest := text, size := text.length, index := 0, line := 0, column := 0, tokens := [], tokenCount := 0,
    flowLevel := 0, indent := -1, outerIndents := [], keyAllowed := true, pending := [] }

/-- Goes on by one character. -/
def next (r : Reader) : Reader :=
  match r.rest with
  | [] => r
  | c :: rest =>
    let r := { r with rest, index := r.index + 1 }
    if isLineBreak c && !(c = '\r' && rest.head? = some '\n') then { r with line := r.line + 1, column := 0 }
    else if c = byteOrderMark then r
    else { r with column := r.column + 1 }

/-- Puts in tokens before the token at a place, which is counted from the first one. -/
def insertAt (place : Nat) (new : List Token) (r : Reader) : Reader :=
  let later := r.tokenCount - place
  { r with
    tokens := r.tokens.take later ++ new.reverse ++ r.tokens.drop later
    tokenCount := r.tokenCount + new.length }

/-- Puts in a token after all others. -/
def push (t : Token) (r : Reader) : Reader :=
  { r with tokens := t :: r.tokens, tokenCount := r.tokenCount + 1 }

def peek : Reading (Option Char) := return (← get).rest.head?

def peekAt (k : Nat) : Reading (Option Char) := return (← get).rest[k]?

def advance (count : Nat) : Reading Unit := modify (Nat.repeat next count)

def malformed {β : Type} (problem : String) : Reading β := throw (.malformed problem)

/-- Takes the characters up to the first that fails the test. -/
def takeWhile (p : Char → Bool) : Reading (List Char) := do
  let taken := (← get).rest.takeWhile p
  advance taken.length
  return taken

def skipWhile (p : Char → Bool) : Reading Unit := do
  let _ ← takeWhile p

def skipBlanks : Reading Unit := skipWhile (· = ' ')

/-- Takes a comment up to the end of its line. -/
def skipComment : Reading Unit := do
  if (← peek) = some '#' then skipWhile (!isLineBreak ·)

/-- Takes one line break, if there is one, and gives what it counts as in a text. -/
def lineBreak : Reading (List Char) := do
  match (← get).rest with
  | '\r' :: '\n' :: _ => advance 2; return ['\n']
  | c :: _ =>
    if c = '\u2028' || c = '\u2029' then advance 1; return [c]
    else if isLineBreak c then advance 1; return ['\n']
    else return []
  | [] => return []

/-- Takes what may follow on a line that holds nothing more, with its line break. -/
def endOfLine : Reading Unit := do
  skipBlanks
  skipComment
  if isLineEnd (← peek) then
    let _ ← lineBreak
  else malformed "expected a comment or the end of the line"

/-- Whether the text goes on with the given mark and a blank, a line break or its end. -/
def startsWithMark (mark : List Char) (text : List Char) : Bool :=
  mark.isPrefixOf text && endsWord text[mark.length]?

/-- Whether the text goes on with a mark that starts or ends a document. -/
def atDocumentMark : Reading Bool := do
  let text := (← get).rest
  return startsWithMark ['-', '-', '-'] text || startsWithMark ['.', '.', '.'] text

def emit (t : Token) : Reading Unit := modify (push t)

end Reader

end EquatorialMount
