import EquatorialMount.Document.Token.Property
import EquatorialMount.Document.Token.Scalar

/-!
# From text to tokens

The tokens of a text, with those that its layout stands for: block collections open where the indentation grows and end
where it falls back, and keys open where a `:` shows them to be keys.
-/

namespace EquatorialMount

namespace Reader

/-! ### Indentation and pending keys -/

/-- Ends the block collections that are indented deeper than `column`. -/
def unwindLoop (column : Int) : Nat → Reader → Reader
  | 0, r => r
  | fuel + 1, r =>
    if column < r.indent then
      unwindLoop column fuel
        (push .blockEnd { r with indent := r.outerIndents.headD (-1), outerIndents := r.outerIndents.tail })
    else r

/-- As `unwindLoop`, in a flow collection nothing. -/
def unwind (column : Int) : Reading Unit :=
  modify fun r => if r.flowLevel ≠ 0 then r else unwindLoop column (r.outerIndents.length + 1) r

/-- Goes to a deeper indentation; whether it is one. -/
def indentTo (column : Int) : Reading Bool := do
  let r ← get
  if r.indent < column then
    set { r with indent := column, outerIndents := r.indent :: r.outerIndents }
    return true
  else return false

/-- Opens a block collection at a column if that is deeper than the innermost one. -/
def openBlock (token : Token) (column : Int) : Reading Unit := do
  if ← indentTo column then emit token

/-- Whether a pending key can be none any more: a key has to end on its line, within 1024 characters. -/
def isStale (r : Reader) (key : PendingKey) : Bool := key.line ≠ r.line || 1024 < r.index - key.index

/-- Drops the pending keys that can be none any more. -/
def dropStale : Reading Unit := do
  let r ← get
  if r.pending.any fun (_, key) => r.isStale key && key.required then malformed "expected a colon after a key"
  set { r with pending := r.pending.filter fun (_, key) => !r.isStale key }

/-- Settles that the pending key of this flow level is none. -/
def dropPending : Reading Unit := do
  let r ← get
  match r.pending.lookup r.flowLevel with
  | some key =>
    if key.required then malformed "expected a colon after a key"
    set { r with pending := r.pending.filter (·.1 ≠ r.flowLevel) }
  | none => return ()

/-- Keeps the current place as one where a key may start. -/
def markKey : Reading Unit := do
  if (← get).keyAllowed then
    dropPending
    let r ← get
    let key : PendingKey :=
      { token := r.tokenCount, required := r.flowLevel = 0 && r.indent = r.column, index := r.index,
        line := r.line, column := r.column }
    set { r with pending := (r.flowLevel, key) :: r.pending }

def allowKey (allowed : Bool) : Reading Unit := modify fun r => { r with keyAllowed := allowed }

/-! ### One token -/

/-- Takes a scalar, an alias or a property, any of which a key can start with. -/
def keyStart (token : Reading Token) : Reading Unit := do
  markKey
  allowKey false
  emit (← token)

def documentMark (token : Token) : Reading Unit := do
  unwind (-1)
  dropPending
  allowKey false
  advance 3
  emit token

def flowStart (token : Token) : Reading Unit := do
  markKey
  modify fun r => { r with flowLevel := r.flowLevel + 1, keyAllowed := true }
  advance 1
  emit token

def flowEnd (token : Token) : Reading Unit := do
  dropPending
  modify fun r => { r with flowLevel := r.flowLevel - 1, keyAllowed := false }
  advance 1
  emit token

/-- Checks that an entry, a key or a value may start here in a block, and opens the block. -/
def blockStart (token : Token) : Reading Unit := do
  let r ← get
  if r.flowLevel = 0 then
    if !r.keyAllowed then malformed "an entry is not allowed here"
    openBlock token r.column

def blockEntry : Reading Unit := do
  blockStart .blockSequenceStart
  allowKey true
  dropPending
  advance 1
  emit .blockEntry

def explicitKey : Reading Unit := do
  blockStart .blockMappingStart
  allowKey ((← get).flowLevel = 0)
  dropPending
  advance 1
  emit .key

/-- Takes a colon.  A pending key of this flow level is a key now. -/
def valueMark : Reading Unit := do
  let r ← get
  match r.pending.lookup r.flowLevel with
  | some key =>
    set { r with pending := r.pending.filter (·.1 ≠ r.flowLevel) }
    let opens ← if r.flowLevel = 0 then indentTo key.column else pure false
    modify (insertAt key.token (if opens then [.blockMappingStart, .key] else [.key]))
    allowKey false
  | none =>
    blockStart .blockMappingStart
    allowKey (r.flowLevel = 0)
    dropPending
  advance 1
  emit .value

def literalOrFolded (folded : Bool) : Reading Unit := do
  allowKey true
  dropPending
  emit (← blockScalar folded)

/-- Skips blanks, comments and line breaks; after a line break in a block a key may start. -/
def skipToToken : Nat → Reading Unit
  | 0 => return ()
  | fuel + 1 => do
    if (← get).index = 0 && (← peek) = some byteOrderMark then advance 1
    skipBlanks
    skipComment
    if (← lineBreak).isEmpty then return ()
    modify fun r => if r.flowLevel = 0 then { r with keyAllowed := true } else r
    skipToToken fuel

/-- Whether a plain scalar can start with a character, given what follows it. -/
def startsPlain (inFlow : Bool) (c : Char) (following : Option Char) : Bool :=
  !(endsWord (some c) || "-?:,[]\x7b\x7d#&*!|>'\"%@\x60".toList.contains c)
    || (!endsWord following && (c = '-' || (!inFlow && (c = '?' || c = ':'))))

/-- Takes the token that starts with a character. -/
def tokenAt (c : Char) : Reading Unit := do
  let r ← get
  let inFlow := r.flowLevel ≠ 0
  let following := r.rest.tail.head?
  if c = '%' && r.column = 0 then
    unwind (-1)
    dropPending
    allowKey false
    emit (← directive)
  else if r.column = 0 && startsWithMark ['-', '-', '-'] r.rest then documentMark .documentStart
  else if r.column = 0 && startsWithMark ['.', '.', '.'] r.rest then documentMark .documentEnd
  else if c = '[' then flowStart .flowSequenceStart
  else if c = '\x7b' then flowStart .flowMappingStart
  else if c = ']' then flowEnd .flowSequenceEnd
  else if c = '\x7d' then flowEnd .flowMappingEnd
  else if c = ',' then
    allowKey true
    dropPending
    advance 1
    emit .flowEntry
  else if c = '-' && endsWord following then blockEntry
  else if c = '?' && (inFlow || endsWord following) then explicitKey
  else if c = ':' && (inFlow || endsWord following) then valueMark
  else if c = '*' then keyStart (Token.reference <$> anchorName)
  else if c = '&' then keyStart (Token.anchor <$> anchorName)
  else if c = '!' then keyStart tagToken
  else if c = '|' && !inFlow then literalOrFolded false
  else if c = '>' && !inFlow then literalOrFolded true
  else if c = '\'' || c = '"' then keyStart (quotedScalar c)
  else if startsPlain inFlow c following then keyStart plainScalar
  else malformed "found a character that starts no token"

/-- Takes the next token with what stands before it; whether there is one. -/
def nextToken : Reading Bool := do
  skipToToken ((← get).size + 1)
  dropStale
  unwind (← get).column
  match ← peek with
  | none =>
    unwind (-1)
    dropPending
    return false
  | some c =>
    tokenAt c
    return true

/-- The tokens up to the first place where a key may have started: no token put in later comes before them. -/
def settledTokens (r : Reader) : List Token :=
  let places := (r.pending.filter fun (_, key) => !isStale r key).map fun (_, key) => key.token
  r.tokens.reverse.take (places.foldl min r.tokenCount)

end Reader

/-- The tokens of a text, up to where a faulty text breaks off. -/
structure TokenStream where
  tokens : List Token
  /-- What comes instead of further tokens. -/
  fault : Option DocumentError
deriving Repr, DecidableEq

namespace TokenStream

/-- The tokens of what is left to a reader, behind those it has taken. -/
def ofReader : Nat → Reader → TokenStream
  | 0, r => ⟨r.settledTokens, some (.malformed "the text does not come to an end")⟩
  | fuel + 1, r =>
    match Reader.nextToken.run r with
    | .ok (true, r) => ofReader fuel r
    | .ok (false, r) => ⟨r.tokens.reverse, none⟩
    | .error e => ⟨r.settledTokens, some e⟩

def ofText (text : String) : TokenStream :=
  let chars := text.toList
  if chars.all isDocumentChar then ofReader (chars.length + 2) (Reader.ofText chars)
  else ⟨[], some (.malformed "found a control character")⟩

end TokenStream

end EquatorialMount
