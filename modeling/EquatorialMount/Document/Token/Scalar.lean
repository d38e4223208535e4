import EquatorialMount.Document.Token

/-!
# Scalars in a document's text

A plain scalar ends where an indicator could start; a quoted one at its quote; a block scalar where a line is indented
less than its first one.  In plain and quoted scalars a single line break counts as a blank and each further one as a
line break; a block scalar keeps its lines, or folds them in the same way.
-/

namespace EquatorialMount.Reader

/-! ### Plain scalars -/

/-- Whether a character ends a run of a plain scalar, given what follows it. -/
def endsPlainRun (inFlow : Bool) (c : Char) (following : Option Char) : Bool :=
  endsWord (some c)
    || (c = ':' && (endsWord following || (inFlow && following.any (",[]\x7b\x7d".toList.contains ·))))
    || (inFlow && ",?[]\x7b\x7d".toList.contains c)

def plainRun (inFlow : Bool) : List Char → List Char
  | [] => []
  | c :: rest => if endsPlainRun inFlow c rest.head? then [] else c :: plainRun inFlow rest

/-- Takes line breaks and the blanks between them; nothing if a document mark comes up at the start of a line. -/
def breaksAndBlanks : Nat → List Char → Reading (Option (List Char))
  | 0, taken => return some taken
  | fuel + 1, taken => do
    match ← peek with
    | some c =>
      if c = ' ' then
        advance 1
        breaksAndBlanks fuel taken
      else if isLineBreak c then
        let taken := taken ++ (← lineBreak)
        if ← atDocumentMark then return none
        breaksAndBlanks fuel taken
      else return some taken
    | none => return some taken

/-- A line break and the further ones after it, as they count inside a scalar. -/
def foldBreaks (first further : List Char) : List Char :=
  (if first ≠ ['\n'] then first else if further.isEmpty then [' '] else []) ++ further

/-- Takes the blanks and line breaks after a run of a plain scalar and gives what they count as, nothing where the
scalar ends.  After a line break a key may start. -/
def plainSpaces : Reading (List Char) := do
  let blanks ← takeWhile (· = ' ')
  if (← peek).any isLineBreak then
    let first ← lineBreak
    modify fun r => { r with keyAllowed := true }
    if ← atDocumentMark then return []
    match ← breaksAndBlanks ((← get).size + 1) [] with
    | some further => return foldBreaks first further
    | none => return []
  else return blanks

/-- Takes the runs of a plain scalar with what stands between them.  Spaces before nothing do not belong to it. -/
def plainRuns (indent : Int) : Nat → Reading (List Char)
  | 0 => return []
  | fuel + 1 => do
    let r ← get
    let inFlow := r.flowLevel ≠ 0
    let run := plainRun inFlow r.rest
    if r.rest.head? = some '#' || run.isEmpty then return []
    modify fun r => { r with keyAllowed := false }
    advance run.length
    let spaces ← plainSpaces
    let r ← get
    if spaces.isEmpty || r.rest.head? = some '#' || (!inFlow && (r.column : Int) < indent) then return run
    let further ← plainRuns indent fuel
    return run ++ (if further.isEmpty then [] else spaces ++ further)

def plainScalar : Reading Token := do
  let r ← get
  let text ← plainRuns (r.indent + 1) (r.size + 1)
  return .scalar (.ofCharacters text) true

/-! ### Quoted scalars -/

/-- The characters that a letter after a backslash stands for. -/
def escapes : List (Char × Char) :=
  [('0', '\x00'), ('a', '\x07'), ('b', '\x08'), ('t', '\t'), ('\t', '\t'), ('n', '\n'), ('v', '\x0b'), ('f', '\x0c'),
   ('r', '\r'), ('e', '\x1b'), (' ', ' '), ('"', '"'), ('\\', '\\'), ('/', '/'), ('N', '\x85'), ('_', '\xa0'),
   ('L', '\u2028'), ('P', '\u2029')]

/-- How many hexadecimal digits follow a letter after a backslash. -/
def escapeWidths : List (Char × Nat) := [('x', 2), ('u', 4), ('U', 8)]

/-- Takes the line breaks inside a quoted scalar, with the blanks and tabs at the starts of lines. -/
def quotedBreaks : Nat → List Char → Reading (List Char)
  | 0, taken => return taken
  | fuel + 1, taken => do
    if ← atDocumentMark then malformed "found a document mark inside a quoted scalar"
    skipWhile fun c => c = ' ' || c = '\t'
    if (← peek).any isLineBreak then
      let taken := taken ++ (← lineBreak)
      quotedBreaks fuel taken
    else return taken

/-- Takes blanks, tabs and line breaks inside a quoted scalar and gives what they count as. -/
def quotedSpaces : Reading (List Char) := do
  let blanks ← takeWhile fun c => c = ' ' || c = '\t'
  match ← peek with
  | none => malformed "found the end of the text inside a quoted scalar"
  | some c =>
    if isLineBreak c then
      let first ← lineBreak
      let further ← quotedBreaks ((← get).size + 1) []
      return foldBreaks first further
    else return blanks

/-- The code points of some characters. -/
def codes (s : List Char) : List Nat := s.map (·.toNat)

/-- Takes an escape, the backslash being taken already, and gives the code points it stands for. -/
def escape : Reading (List Nat) := do
  match ← peek with
  | none => malformed "found the end of the text in an escape"
  | some c =>
    match escapes.lookup c, escapeWidths.lookup c with
    | some meant, _ =>
      advance 1
      return [meant.toNat]
    | none, some width =>
      advance 1
      let digits := (← get).rest.take width
      if digits.length < width || !digits.all isHexDigit then malformed "expected hexadecimal digits"
      let code := hexValue digits
      if 0x110000 ≤ code then throw (.codePoint code)
      advance width
      return [code]
    | none, none =>
      if isLineBreak c then
        let _ ← lineBreak
        return codes (← quotedBreaks ((← get).size + 1) [])
      else malformed "found an unknown escape"

/-- Takes what a quoted scalar holds up to the next blank, line break or closing quote. -/
def quotedRun (quote : Char) : Nat → Reading (List Nat)
  | 0 => return []
  | fuel + 1 => do
    let run := codes (← takeWhile fun c => !(endsWord (some c) || c = '\'' || c = '"' || c = '\\'))
    match (← get).rest with
    | '\'' :: '\'' :: _ =>
      advance (if quote = '\'' then 2 else 1)
      return run ++ codes ['\''] ++ (← quotedRun quote fuel)
    | '\\' :: _ =>
      advance 1
      let meant ← if quote = '"' then escape else pure (codes ['\\'])
      return run ++ meant ++ (← quotedRun quote fuel)
    | c :: _ =>
      if c = quote || endsWord (some c) then return run
      advance 1
      return run ++ codes [c] ++ (← quotedRun quote fuel)
    | [] => return run

/-- Takes what a quoted scalar holds, and its closing quote. -/
def quotedRuns (quote : Char) : Nat → Reading (List Nat)
  | 0 => return []
  | fuel + 1 => do
    let run ← quotedRun quote ((← get).size + 1)
    if (← peek) = some quote then
      advance 1
      return run
    let spaces ← quotedSpaces
    return run ++ codes spaces ++ (← quotedRuns quote fuel)

def quotedScalar (quote : Char) : Reading Token := do
  advance 1
  let text ← quotedRuns quote ((← get).size + 1)
  return .scalar (.ofPoints text) false

/-! ### Block scalars -/

/-- What is done with the line breaks at the end of a block scalar. -/
inductive Chomping
  | strip
  | clip
  | keep
deriving Repr, DecidableEq

def chomping? : Option Char → Option Chomping
  | some '+' => some .keep
  | some '-' => some .strip
  | _ => none

/-- Takes a digit that states the indentation of a block scalar. -/
def indentationDigit : Reading (Option Nat) := do
  match ← peek with
  | some c =>
    if c.isDigit then
      if c = '0' then malformed "expected an indentation of at least one"
      advance 1
      return some (c.toNat - 48)
    else return none
  | none => return none

/-- Takes what stands behind the indicator of a block scalar: chomping and indentation in either order. -/
def blockHeader : Reading (Chomping × Option Nat) := do
  let header ←
    match chomping? (← peek) with
    | some chomping => do
      advance 1
      pure (chomping, ← indentationDigit)
    | none => do
      match ← indentationDigit with
      | some indentation =>
        match chomping? (← peek) with
        | some chomping => do
          advance 1
          pure (chomping, some indentation)
        | none => pure (Chomping.clip, some indentation)
      | none => pure (Chomping.clip, none)
  if !endsField (← peek) then malformed "expected chomping or indentation"
  endOfLine
  return header

/-- Takes blanks while the column is below `indent`. -/
def indentUpTo (indent : Nat) : Nat → Reading Unit
  | 0 => return ()
  | fuel + 1 => do
    let r ← get
    if r.column < indent && r.rest.head? = some ' ' then
      advance 1
      indentUpTo indent fuel

/-- Takes empty lines, of whatever indentation, and gives their line breaks and the greatest indentation. -/
def emptyLines : Nat → List Char → Nat → Reading (List Char × Nat)
  | 0, taken, deepest => return (taken, deepest)
  | fuel + 1, taken, deepest => do
    match ← peek with
    | some c =>
      if c = ' ' then
        advance 1
        emptyLines fuel taken (max deepest (← get).column)
      else if isLineBreak c then
        let taken := taken ++ (← lineBreak)
        emptyLines fuel taken deepest
      else return (taken, deepest)
    | none => return (taken, deepest)

/-- Takes the line breaks of lines that are empty up to an indentation. -/
def blockBreaks (indent : Nat) : Nat → List Char → Reading (List Char)
  | 0, taken => return taken
  | fuel + 1, taken => do
    indentUpTo indent indent
    if (← peek).any isLineBreak then
      let taken := taken ++ (← lineBreak)
      blockBreaks indent fuel taken
    else return taken

def isBlankOrTab (c : Option Char) : Bool := c = some ' ' || c = some '\t'

/-- Takes the lines of a block scalar, of which `breaks` are the line breaks before the first; the answer is the text,
the last line break and the breaks after it. -/
def blockLines (folded : Bool) (indent : Nat) : Nat → List Char → Reading (List Char × List Char × List Char)
  | 0, breaks => return ([], [], breaks)
  | fuel + 1, breaks => do
    let startsSolid := !isBlankOrTab (← peek)
    let line ← takeWhile (!isLineBreak ·)
    let text := breaks ++ line
    let first ← lineBreak
    let breaks ← blockBreaks indent ((← get).size + 1) []
    let r ← get
    if r.column = indent && r.rest ≠ [] then
      let folds := folded && first = ['\n'] && startsSolid && !isBlankOrTab r.rest.head?
      let joint := if folds then (if breaks.isEmpty then [' '] else []) else first
      let (later, last, further) ← blockLines folded indent fuel breaks
      return (text ++ joint ++ later, last, further)
    else return (text, first, breaks)

def blockScalar (folded : Bool) : Reading Token := do
  advance 1
  let (chomping, indentation) ← blockHeader
  let r ← get
  let least := (max (r.indent + 1) 1).toNat
  let (indent, breaks) ←
    match indentation with
    | none => do
      let (breaks, deepest) ← emptyLines (r.size + 1) [] 0
      pure (max least deepest, breaks)
    | some n => do
      let indent := least + n - 1
      pure (indent, ← blockBreaks indent (r.size + 1) [])
  let r ← get
  let (text, last, further) ←
    if r.column = indent && r.rest ≠ [] then blockLines folded indent (r.size + 1) breaks
    else pure ([], [], breaks)
  let ending :=
    match chomping with
    | .strip => []
    | .clip => last
    | .keep => last ++ further
  return .scalar (.ofCharacters (text ++ ending)) false

end EquatorialMount.Reader
