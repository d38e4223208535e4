import EquatorialMount.Document.Token

/-!
# Anchors, tags and directives in a document's text

An anchor names a node and an alias refers back to it.  A tag states the kind of a node, in full or by a handle that
stands for its beginning; directives at the top of the text say what handles stand for.
-/

namespace EquatorialMount.Reader

/-- Takes the name of an anchor or an alias, with the indicator before it. -/
def anchorName : Reading String := do
  advance 1
  let name ← takeWhile isWordChar
  if name.isEmpty then malformed "expected a name"
  let after ← peek
  if !(endsWord after || after.any ("?:,]\x7d%@\x60".toList.contains ·)) then malformed "expected the end of a name"
  return String.ofList name

/-! ### Tags -/

/-- The value of some bytes as text. -/
def decodedBytes? (bytes : List Nat) : Option (List Char) :=
  (String.fromUTF8? ⟨(bytes.map UInt8.ofNat).toArray⟩).map (·.toList)

/-- Takes bytes written as `%` and two hexadecimal digits each. -/
def percentBytes : Nat → List Nat → Reading (List Nat)
  | 0, taken => return taken
  | fuel + 1, taken => do
    if (← peek) = some '%' then
      advance 1
      let digits := (← get).rest.take 2
      if digits.length < 2 || !digits.all isHexDigit then malformed "expected two hexadecimal digits"
      advance 2
      percentBytes fuel (taken ++ [hexValue digits])
    else return taken

def isTagChar (c : Char) : Bool := c.isAlphanum || "-;/?:@&=+$,_.!~*'()[]".toList.contains c

/-- Takes the part of a tag after its handle. -/
def tagRest : Nat → List Char → Reading (List Char)
  | 0, taken => return taken
  | fuel + 1, taken => do
    let run ← takeWhile isTagChar
    let taken := taken ++ run
    if (← peek) = some '%' then
      match decodedBytes? (← percentBytes ((← get).size + 1) []) with
      | some text => tagRest fuel (taken ++ text)
      | none => malformed "found bytes that are no text in a tag"
    else return taken

def tagSuffix : Reading String := do
  let before := (← get).index
  let suffix ← tagRest ((← get).size + 1) []
  if (← get).index = before then malformed "expected the text of a tag"
  return String.ofList suffix

/-- Takes a handle: one exclamation mark, or two with a name between them. -/
def tagHandle : Reading String := do
  if (← peek) ≠ some '!' then malformed "expected an exclamation mark"
  advance 1
  if (← peek) = some ' ' then return "!"
  let name ← takeWhile isWordChar
  if (← peek) = some '!' then
    advance 1
    return "!" ++ String.ofList name ++ "!"
  else malformed "expected an exclamation mark"

def tagToken : Reading Token := do
  let token ←
    match ← peekAt 1 with
    | some '<' => do
      advance 2
      let suffix ← tagSuffix
      if (← peek) ≠ some '>' then malformed "expected a closing angle bracket"
      advance 1
      pure (Token.tag none suffix)
    | following =>
      if endsWord following then do
        advance 1
        pure (Token.tag none "!")
      else do
        let word := ((← get).rest.drop 1).takeWhile fun c => !endsField (some c)
        let handle ← if word.contains '!' then tagHandle else do
          advance 1
          pure "!"
        pure (Token.tag (some handle) (← tagSuffix))
  if !endsField (← peek) then malformed "expected a blank after a tag"
  return token

/-! ### Directives -/

/-- A number in a directive.  One of too many digits is refused as such an integer is. -/
def directiveNumber : Reading Nat := do
  let digits ← takeWhile (·.isDigit)
  if digits.isEmpty then malformed "expected a digit"
  if integerDigitLimit < digits.length then throw (.scalar (.tooManyDigits digits.length))
  return digits.foldl (fun n c => 10 * n + (c.toNat - 48)) 0

def versionDirective : Reading Token := do
  skipBlanks
  let major ← directiveNumber
  if (← peek) ≠ some '.' then malformed "expected a point"
  advance 1
  let _ ← directiveNumber
  if !endsField (← peek) then malformed "expected a digit or a blank"
  return .versionDirective major

def tagDirective : Reading Token := do
  skipBlanks
  let handle ← tagHandle
  if (← peek) ≠ some ' ' then malformed "expected a blank after a handle"
  skipBlanks
  let lead ← tagSuffix
  if !endsField (← peek) then malformed "expected a blank after a tag"
  return .tagDirective handle lead

def directive : Reading Token := do
  advance 1
  let name ← takeWhile isWordChar
  if name.isEmpty then malformed "expected the name of a directive"
  if !endsField (← peek) then malformed "expected a blank after the name of a directive"
  let token ←
    if name = "YAML".toList then versionDirective
    else if name = "TAG".toList then tagDirective
    else do
      skipWhile (!isLineBreak ·)
      pure Token.otherDirective
  endOfLine
  return token

end EquatorialMount.Reader
