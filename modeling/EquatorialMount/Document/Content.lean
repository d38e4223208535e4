import EquatorialMount.Document.Basic
import EquatorialMount.Document.Meaning
import EquatorialMount.Document.Merging

/-!
# The content of a document

Scalars are read where they are met; a collection is entered by the number of its node and filled in later, those nearer
the root first.  So a collection can hold itself, and of several faults of a text the one nearest its root counts.  The
order in which a set is gone through is not in the text, and reading takes it as a parameter.  How deep collections are
nested has no limit.
-/

namespace EquatorialMount

/-- The values made of the nodes of a document so far. -/
structure Construction (α : Type) where
  nodes : NodeGraph.Nodes
  /-- What stands for each node that was met. -/
  made : Array (Option (Held α))
  /-- The collections by the numbers of their nodes, and behind them those that have no node. -/
  collections : Array (Collection α)
  /-- The collections still to be filled in, the latest first. -/
  waiting : List Nat

namespace Construction

abbrev Constructing (α : Type) := StateT (Construction α) (Except DocumentError)

variable {α : Type}

def ofNodes (nodes : NodeGraph.Nodes) : Construction α :=
  { nodes, made := nodes.map fun _ => none, collections := nodes.map fun _ => .list [], waiting := [] }

def malformed {β : Type} (problem : String) : Except DocumentError β := .error (.malformed problem)

/-- The text of a scalar, or of the value that stands for a mapping; `fuel` bounds the chain of such mappings. -/
def textOf (nodes : NodeGraph.Nodes) : Nat → Nat → Except DocumentError ScalarText
  | 0, _ => .error (.scalar .endless)
  | fuel + 1, n =>
    match NodeGraph.bodyAt? nodes n with
    | some (.scalar text) => .ok text
    | some (.mapping entries) =>
      match entries.find? fun (key, _) => NodeGraph.kindAt nodes key = .default with
      | some (_, value) => textOf nodes fuel value
      | none => malformed "expected a scalar"
    | _ => malformed "expected a scalar"

section Reading

variable [Scalar α] [NumberReading α]

/-- The atom that a node stands for.  A date has to be written as one. -/
def leaf (nodes : NodeGraph.Nodes) (n : Nat) : Except DocumentError (Leaf α) := do
  let kind := NodeGraph.kindAt nodes n
  if kind = .merge || kind = .default || kind = .unknown then malformed "found a tag that is not known"
  let text ← textOf nodes (nodes.size + 1) n
  if kind = .date && (NodeGraph.entriesAt? nodes n).isSome then throw (.scalar .notAText)
  match ← (kind.atom? text).mapError .scalar with
  | some a => return ⟨a, if kind = .number && Meaning.isUndefinedSign text.points then none else some n⟩
  | none => malformed "found a text that stands for no bytes"

/-- What stands for a node.  A collection is only entered. -/
def make (n : Nat) : Constructing α (Held α) := do
  let s ← get
  match s.made[n]? with
  | some (some held) => return held
  | _ =>
    let kind := NodeGraph.kindAt s.nodes n
    let held ←
      if kind = .list || kind = .map || kind = .set || kind = .pairs then do
        modify fun s => { s with waiting := n :: s.waiting }
        pure (.collection n)
      else do pure (.leaf (← leaf s.nodes n))
    modify fun s => { s with made := s.made.setIfInBounds n (some held) }
    return held

/-- What stands for a key. -/
def makeKey (n : Nat) : Constructing α (Leaf α) := do
  match ← make n with
  | .leaf l => return l
  | .collection _ => malformed "found a collection for a key"

/-- The entries of a mapping, the last value of a key at its first place. -/
def makeEntries (mergeFuel n : Nat) : Constructing α (List (Leaf α × Held α)) := do
  let nodes ← NodeGraph.spellOut mergeFuel n (← get).nodes
  modify fun s => { s with nodes }
  ((NodeGraph.entriesAt? nodes n).getD []).foldlM (fun sum (key, value) => do
    let key ← makeKey key
    return Entries.put key (← make value) sum) []

/-- A mapping of a single entry as a list of its key and its value. -/
def makePair (n : Nat) : Constructing α (Held α) := do
  match NodeGraph.entriesAt? (← get).nodes n with
  | some [(key, value)] =>
    let items := [← make key, ← make value]
    modifyGet fun s => (.collection s.collections.size, { s with collections := s.collections.push (.list items) })
  | _ => malformed "expected a mapping of a single entry"

/-- The collection that a node stands for. -/
def collectionOf (order : SetOrder α) (mergeFuel n : Nat) : Constructing α (Collection α) := do
  let nodes := (← get).nodes
  match NodeGraph.kindAt nodes n, NodeGraph.bodyAt? nodes n with
  | .list, some (.sequence items) => return .list (← items.mapM make)
  | .pairs, some (.sequence items) => return .list (← items.mapM makePair)
  | .map, some (.mapping _) => return .map (← makeEntries mergeFuel n)
  | .set, some (.mapping _) => return .set (order.arrange ((← makeEntries mergeFuel n).map (·.1)))
  | _, _ => malformed "found a tag that does not go with its node"

/-- Fills in the collections that were entered, and those entered meanwhile; each takes a round at most. -/
def fillIn (order : SetOrder α) (mergeFuel : Nat) : Nat → Constructing α Unit
  | 0 => return ()
  | rounds + 1 => do
    let waiting := (← get).waiting.reverse
    if waiting.isEmpty then return ()
    modify fun s => { s with waiting := [] }
    for n in waiting do
      let c ← collectionOf order mergeFuel n
      modify fun s => { s with collections := s.collections.setIfInBounds n c }
    fillIn order mergeFuel rounds

/-- What stands for the root of the nodes, with everything below it filled in. -/
def ofRoot (order : SetOrder α) (root : Nat) : Constructing α (Held α) := do
  let held ← make root
  let nodes := (← get).nodes
  fillIn order (NodeGraph.mergeCount nodes + 1) (nodes.size + 1)
  return held

end Reading

end Construction

namespace Document

variable {α : Type} [Scalar α] [NumberReading α]

def ofGraph (order : SetOrder α) (g : NodeGraph) : Except DocumentError (Document α) := do
  let (held, s) ← (Construction.ofRoot order g.root).run (Construction.ofNodes g.nodes)
  return ⟨.leaf held, s.collections⟩

/-- Reads a document; a text without one holds nothing. -/
def ofText (order : SetOrder α) (text : String) : Except DocumentError (Document α) := do
  match ← NodeGraph.ofTokens? (TokenStream.ofText text) with
  | some g => ofGraph order g
  | none => return nothing

end Document

end EquatorialMount
