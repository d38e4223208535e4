import EquatorialMount.Document.Tree
import EquatorialMount.Document.View

/-!
# Documents

The collections of a document are kept in a table by the numbers of their nodes, and every place that has a collection
refers to it by its number.  So several places can hold one and the same collection, and a collection can contain
itself.  `Document.view` shows a document one level at a time and tells nothing of numbers.
-/

namespace EquatorialMount

/-- An atom, with the number of the node it was read from.  An atom that was not read has none, and neither has what is
one and the same wherever it was read. -/
structure Leaf (α : Type) where
  atom : Atom α
  node : Option Nat
deriving Repr

/-- What a place in a collection holds. -/
inductive Held (α : Type)
  | leaf (l : Leaf α)
  | collection (node : Nat)
deriving Repr

/-- A collection of a document; the members of a set stand in the order in which it is gone through. -/
inductive Collection (α : Type)
  | list (items : List (Held α))
  | map (entries : List (Leaf α × Held α))
  | set (members : List (Leaf α))
deriving Repr

/-- The order in which the members of a set are gone through.  It comes from how a machine keeps them, and not from the
text they are read from. -/
structure SetOrder (α : Type) where
  arrange : List (Leaf α) → List (Leaf α)
  perm (members : List (Leaf α)) : (arrange members).Perm members

/-- Members in the order they are written in. -/
def SetOrder.asWritten {α : Type} : SetOrder α := ⟨id, .refl⟩

/-- A value: mappings of its own over what the places of a document hold. -/
abbrev Value (α : Type) := Tree (Leaf α) (Held α)

/-- A value with the table of the collections it refers to. -/
structure Document (α : Type) where
  content : Value α
  collections : Array (Collection α)

namespace Leaf

variable {α : Type}

/-- An atom without a node. -/
def new (a : Atom α) : Leaf α := ⟨a, none⟩

/-- Two leaves are one key if their atoms are; undefined numbers of two nodes are not. -/
instance [NumberReading α] : BEq (Leaf α) := ⟨fun a b => a.atom == b.atom && (a.node = b.node || a.atom.isDefined)⟩

end Leaf

namespace Document

variable {α : Type}

/-- The value that is an atom. -/
def atom (a : Atom α) : Value α := .leaf (.leaf (.new a))

def ofAtom (a : Atom α) : Document α := ⟨atom a, #[]⟩

/-- The document that holds nothing. -/
def nothing : Document α := ofAtom .null

/-- The list without items. -/
def emptyList : Document α := ⟨.leaf (.collection 0), #[.list []]⟩

/-- Another value with the same table. -/
def holding (d : Document α) (v : Value α) : Document α := { d with content := v }

/-- The entries of a document that is a mapping. -/
def entries? (d : Document α) : Option (List (Leaf α × Value α)) :=
  match d.content with
  | .map entries => some entries
  | .leaf (.leaf _) => none
  | .leaf (.collection n) =>
    match d.collections[n]? with
    | some (.map entries) => some (entries.map fun (key, held) => (key, .leaf held))
    | _ => none

/-- What a document shows of itself: an atom, or documents with the same table. -/
def view (d : Document α) : View α (Document α) :=
  match d.entries? with
  | some entries => .map (entries.map fun (key, v) => (key.atom, d.holding v))
  | none =>
    match d.content with
    | .map _ => .map []
    | .leaf (.leaf l) => .atom l.atom
    | .leaf (.collection n) =>
      match d.collections[n]? with
      | some (.list items) => .list (items.map fun held => d.holding (.leaf held))
      | some (.set members) => .set (members.map (·.atom))
      | _ => .atom .null

/-- The value of a key in a document that is a mapping. -/
def entry? [NumberReading α] (key : Atom α) (d : Document α) : Option (Document α) :=
  match d.view with
  | .map entries => Entries.get? key entries
  | _ => none

/-- The value of a key in a document that is a mapping, nothing if it has no such key. -/
def entryOrNothing [NumberReading α] (key : Atom α) (d : Document α) : Document α := (d.entry? key).getD nothing

/-- A document without the entry of a key.  A collection lacks it in every place then. -/
def erase [NumberReading α] (key : Atom α) (d : Document α) : Document α :=
  match d.content with
  | .map entries => d.holding (.map (Entries.erase (.new key) entries))
  | .leaf (.leaf _) => d
  | .leaf (.collection n) =>
    let without : Collection α → Collection α
      | .map entries => .map (Entries.erase (.new key) entries)
      | other => other
    { d with collections := d.collections.modify n without }

/-- A value as a mapping of its own, if it is a mapping. -/
def opened (d : Document α) (v : Value α) : Value α := ((d.holding v).entries?.map Tree.map).getD v

/-- What a document consists of, for the kinds that consist of anything: a list of its items, a mapping of its keys, a
set of its members, and an atom of what it consists of. -/
def members? (d : Document α) : Option (List (Document α)) :=
  match d.view with
  | .atom a => a.members?.map (·.map ofAtom)
  | .list items => some items
  | .map entries => some (entries.map fun (key, _) => ofAtom key)
  | .set members => some (members.map ofAtom)

end Document

end EquatorialMount
