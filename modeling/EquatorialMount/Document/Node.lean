import EquatorialMount.Document.Kind
import EquatorialMount.Document.Token.Stream

/-!
# Nodes of a document

The tokens of a text nest into scalars, sequences and mappings.  Nodes are kept in a table and refer to one another by
number, so an alias is just the number of the node that its anchor names; this may be a node that the alias itself lies
in.
-/

namespace EquatorialMount

/-- What a node consists of; other nodes are given by their numbers. -/
inductive NodeBody
  | scalar (text : ScalarText)
  | sequence (items : List Nat)
  | mapping (entries : List (Nat × Nat))
deriving Repr, DecidableEq

structure Node where
  kind : Kind
  body : NodeBody
deriving Repr, DecidableEq

/-- A table of nodes, each at the place of its number, and the number of the one that the others belong to. -/
structure NodeGraph where
  nodes : Array Node
  root : Nat
deriving Repr

namespace Node

/-- What is left of the tokens, and the anchors and nodes so far. -/
structure Assembly where
  rest : TokenStream
  handles : List (String × String)
  anchors : List (String × Nat)
  nodes : Array Node

abbrev Assembling := StateT Assembly (Except DocumentError)

def malformed {β : Type} (problem : String) : Assembling β := throw (.malformed problem)

/-- The next token, none at the end.  Where a faulty text breaks off its fault comes up. -/
def peek : Assembling (Option Token) := do
  let rest := (← get).rest
  match rest.tokens, rest.fault with
  | t :: _, _ => return some t
  | [], some e => throw e
  | [], none => return none

def skipWhile (p : Token → Bool) : Assembling Unit :=
  modify fun s => { s with rest := { s.rest with tokens := s.rest.tokens.dropWhile p } }

def skip : Assembling Unit :=
  modify fun s => { s with rest := { s.rest with tokens := s.rest.tokens.tail } }

/-- Takes the next token if it is the given one. -/
def take? (t : Token) : Assembling Bool := do
  if (← peek) = some t then
    skip
    return true
  else return false

def isNext (ts : List Token) : Assembling Bool := return (← peek).any (ts.contains ·)

/-- Enters a node into the table. -/
def add (n : Node) : Assembling Nat :=
  modifyGet fun s => (s.nodes.size, { s with nodes := s.nodes.push n })

/-- The empty scalar, which stands for nothing. -/
def empty : Node := ⟨.null, .scalar ""⟩

/-- Enters a node whose content is still to be taken. -/
def reserve : Assembling Nat := add empty

/-- Fills in a reserved node. -/
def complete (number : Nat) (n : Node) : Assembling Nat := do
  modify fun s => { s with nodes := s.nodes.setIfInBounds number n }
  return number

/-! ### Properties of a node -/

def expandTag : Option String → String → Assembling String
  | none, suffix => return suffix
  | some handle, suffix => do
    match (← get).handles.lookup handle with
    | some lead => return lead ++ suffix
    | none => malformed "found a handle that no directive states"

def anchor? : Assembling (Option String) := do
  match ← peek with
  | some (.anchor name) =>
    skip
    return some name
  | _ => return none

def tag? : Assembling (Option String) := do
  match ← peek with
  | some (.tag handle suffix) =>
    skip
    return some (← expandTag handle suffix)
  | _ => return none

/-- Takes an anchor and a tag in either order. -/
def properties : Assembling (Option String × Option String) := do
  match ← anchor? with
  | some name => return (some name, ← tag?)
  | none =>
    let tag ← tag?
    return (← anchor?, tag)

/-- Lets an anchor name a node, from before its content is taken. -/
def setAnchor (anchor : Option String) (number : Nat) : Assembling Unit := do
  match anchor with
  | none => return ()
  | some name =>
    if ((← get).anchors.lookup name).isSome then malformed "found an anchor twice"
    modify fun s => { s with anchors := (name, number) :: s.anchors }

def ofAlias (name : String) : Assembling Nat := do
  match (← get).anchors.lookup name with
  | some number => return number
  | none => malformed "found an alias without its anchor"

/-- The exclamation mark alone leaves the kind of a node to its text or form. -/
def statedTag (tag : Option String) : Option String := if tag = some "!" then none else tag

/-- The kind a tag asks for, or else the given one. -/
def kindOr (kind : Kind) (tag : Option String) : Kind := (statedTag tag).elim kind .ofTag

/-- The kind of a scalar. -/
def scalarKind (tag : Option String) (plain : Bool) (text : ScalarText) : Kind :=
  kindOr (if plain || tag.isSome then text.string?.elim .text .ofText else .text) tag

/-! ### Nesting -/

mutual

/-- Takes what a node consists of and gives its number.  Block collections are taken only where `block` allows them, and
a sequence at the indentation of its key only where `flush` does. -/
def node (block flush : Bool) : Nat → Assembling Nat
  | 0 => malformed "nested too deeply"
  | fuel + 1 => do
    if let some (.reference name) ← peek then
      skip
      return ← ofAlias name
    let (anchor, tag) ← properties
    let next ← peek
    let number ← reserve
    setAnchor anchor number
    if flush && next = some .blockEntry then
      return ← complete number ⟨kindOr .list tag, .sequence (← flushItems fuel)⟩
    match next with
    | some (.scalar text plain) =>
      skip
      complete number ⟨scalarKind tag plain text, .scalar text⟩
    | some .flowSequenceStart =>
      skip
      complete number ⟨kindOr .list tag, .sequence (← flowItems true fuel)⟩
    | some .flowMappingStart =>
      skip
      complete number ⟨kindOr .map tag, .mapping (← flowEntries true fuel)⟩
    | next =>
      if block && next = some .blockSequenceStart then
        skip
        complete number ⟨kindOr .list tag, .sequence (← blockItems fuel)⟩
      else if block && next = some .blockMappingStart then
        skip
        complete number ⟨kindOr .map tag, .mapping (← blockEntries fuel)⟩
      else if anchor.isSome || tag.isSome then complete number ⟨kindOr .null tag, .scalar ""⟩
      else malformed "expected a node"

/-- Takes a node, or the empty scalar where one of the given tokens follows. -/
def nodeUnless (ends : List Token) (block flush : Bool) : Nat → Assembling Nat
  | 0 => malformed "nested too deeply"
  | fuel + 1 => do
    if ← isNext ends then add empty else node block flush fuel

/-- Takes the items of a block sequence and its end. -/
def blockItems : Nat → Assembling (List Nat)
  | 0 => malformed "nested too deeply"
  | fuel + 1 => do
    if ← take? .blockEntry then
      let item ← nodeUnless [.blockEntry, .blockEnd] true false fuel
      return item :: (← blockItems fuel)
    else if ← take? .blockEnd then return []
    else malformed "expected the end of a sequence"

/-- Takes the items of a sequence at the indentation of its key. -/
def flushItems : Nat → Assembling (List Nat)
  | 0 => malformed "nested too deeply"
  | fuel + 1 => do
    if ← take? .blockEntry then
      let item ← nodeUnless [.blockEntry, .key, .value, .blockEnd] true false fuel
      return item :: (← flushItems fuel)
    else return []

/-- Takes the value that belongs to a key, the empty scalar if there is none. -/
def valueUnless (ends : List Token) (block : Bool) : Nat → Assembling Nat
  | 0 => malformed "nested too deeply"
  | fuel + 1 => do
    if ← take? .value then nodeUnless ends block block fuel else add empty

/-- Takes the entries of a block mapping and its end. -/
def blockEntries : Nat → Assembling (List (Nat × Nat))
  | 0 => malformed "nested too deeply"
  | fuel + 1 => do
    if ← take? .key then
      let key ← nodeUnless [.key, .value, .blockEnd] true true fuel
      let value ← valueUnless [.key, .value, .blockEnd] true fuel
      return (key, value) :: (← blockEntries fuel)
    else if ← take? .blockEnd then return []
    else malformed "expected the end of a mapping"

/-- Takes the items of a flow sequence and its end.  An item that has a key is a mapping of one entry. -/
def flowItems (first : Bool) : Nat → Assembling (List Nat)
  | 0 => malformed "nested too deeply"
  | fuel + 1 => do
    if ← take? .flowSequenceEnd then return []
    if !first then
      if !(← take? .flowEntry) then malformed "expected a comma or the end of a sequence"
    if ← take? .key then
      let number ← reserve
      let key ← nodeUnless [.value, .flowEntry, .flowSequenceEnd] false false fuel
      let value ← valueUnless [.flowEntry, .flowSequenceEnd] false fuel
      let item ← complete number ⟨.map, .mapping [(key, value)]⟩
      return item :: (← flowItems false fuel)
    else if ← take? .flowSequenceEnd then return []
    else
      let item ← node false false fuel
      return item :: (← flowItems false fuel)

/-- Takes the entries of a flow mapping and its end. -/
def flowEntries (first : Bool) : Nat → Assembling (List (Nat × Nat))
  | 0 => malformed "nested too deeply"
  | fuel + 1 => do
    if ← take? .flowMappingEnd then return []
    if !first then
      if !(← take? .flowEntry) then malformed "expected a comma or the end of a mapping"
    if ← take? .key then
      let key ← nodeUnless [.value, .flowEntry, .flowMappingEnd] false false fuel
      let value ← valueUnless [.flowEntry, .flowMappingEnd] false fuel
      return (key, value) :: (← flowEntries false fuel)
    else if ← take? .flowMappingEnd then return []
    else
      let key ← node false false fuel
      let value ← add empty
      return (key, value) :: (← flowEntries false fuel)

end

/-! ### The document -/

/-- The handles that need no directive. -/
def defaultHandles : List (String × String) := [("!", "!"), ("!!", "tag:yaml.org,2002:")]

/-- Takes the directives of a document; those for a handle come before its default. -/
def directives : Nat → Bool → List (String × String) → Assembling Unit
  | 0, _, _ => return ()
  | fuel + 1, versionSeen, handles => do
    match ← peek with
    | some (.versionDirective major) =>
      if versionSeen then malformed "found the version twice"
      if major ≠ 1 then malformed "found a version that is not 1"
      skip
      directives fuel true handles
    | some (.tagDirective handle lead) =>
      if (handles.lookup handle).isSome then malformed "found a handle twice"
      skip
      directives fuel versionSeen ((handle, lead) :: handles)
    | some .otherDirective =>
      skip
      directives fuel versionSeen handles
    | _ => modify fun s => { s with handles := handles ++ defaultHandles }

def isDirective : Token → Bool
  | .versionDirective _ => true
  | .tagDirective .. => true
  | .otherDirective => true
  | _ => false

/-- Takes the one document of a text, if it has any. -/
def document (fuel : Nat) : Assembling (Option Nat) := do
  match ← peek with
  | none => return none
  | some t =>
    let root ←
      if isDirective t || t = .documentStart then do
        directives fuel false []
        if !(← take? .documentStart) then malformed "expected the start of a document"
        match ← peek with
        | none => add empty
        | some t =>
          if isDirective t || t = .documentStart || t = .documentEnd then add empty
          else node true false fuel
      else node true false fuel
    skipWhile (· = .documentEnd)
    if (← peek).isSome then malformed "expected a single document"
    return some root

end Node

namespace NodeGraph

/-- The nodes of a document's tokens, none if they hold no document. -/
def ofTokens? (stream : TokenStream) : Except DocumentError (Option NodeGraph) := do
  let (root, s) ← (Node.document (4 * stream.tokens.length + 8)).run ⟨stream, Node.defaultHandles, [], #[]⟩
  return root.map fun root => ⟨s.nodes, root⟩

end NodeGraph

end EquatorialMount
