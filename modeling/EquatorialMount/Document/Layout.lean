import EquatorialMount.Document.Basic

/-!
# The order in which a document is written

A document is gone through from its root, the key of an entry before its value.  What comes up for the first time is
laid out with all it holds, and where it comes up again there is only a reference to it, so that even a collection that
holds itself has a finite layout.  Of atoms, days and moments are told apart in this way.
-/

namespace EquatorialMount

inductive Layout (α : Type)
  /-- A reference to the node with this number, which comes up before. -/
  | reference (node : Nat)
  | atom (node : Option Nat) (a : Atom α)
  | list (node : Option Nat) (items : List (Layout α))
  /-- A mapping, or a set as a mapping of its members to nothing. -/
  | map (node : Option Nat) (isSet : Bool) (entries : List (Layout α × Layout α))
deriving Repr

namespace Layout

variable {α : Type}

/-! ### Laying out -/

/-- Steps with the numbers of the nodes that have come up. -/
abbrev Visiting := StateM (List Nat)

/-- Lays out a node, unless it has come up before. -/
def visit (n : Nat) (fresh : Visiting (Layout α)) : Visiting (Layout α) := do
  if (← get).contains n then return reference n
  modify (n :: ·)
  fresh

/-- Whether an atom is one that references are made to. -/
def isShareable : Atom α → Bool
  | .day _ => true
  | .moment _ => true
  | _ => false

def ofLeaf (l : Leaf α) : Visiting (Layout α) :=
  match l.node with
  | some n => if isShareable l.atom then visit n (pure (atom (some n) l.atom)) else return atom none l.atom
  | none => return atom none l.atom

section Table

variable (collections : Array (Collection α))

/-- Lays out what a place holds; `fuel` bounds the number of collections inside one another. -/
def ofHeld : Nat → Held α → Visiting (Layout α)
  | _, .leaf l => ofLeaf l
  | 0, .collection n => return reference n
  | fuel + 1, .collection n =>
    visit n do
      match collections[n]? with
      | some (.list items) => return list (some n) (← items.mapM (ofHeld fuel))
      | some (.map entries) =>
        return map (some n) false (← entries.mapM fun (key, held) => return (← ofLeaf key, ← ofHeld fuel held))
      | some (.set members) =>
        return map (some n) true (← members.mapM fun member => return (← ofLeaf member, atom none .null))
      | none => return atom none .null

mutual

def ofValue : Value α → Visiting (Layout α)
  | .leaf held => ofHeld collections (collections.size + 1) held
  | .map entries => return map none false (← ofEntries entries)

def ofEntries : List (Leaf α × Value α) → Visiting (List (Layout α × Layout α))
  | [] => return []
  | entry :: rest => return (← ofEntry entry) :: (← ofEntries rest)

def ofEntry : Leaf α × Value α → Visiting (Layout α × Layout α)
  | (key, value) => return (← ofLeaf key, ← ofValue value)

end

end Table

/-- The layout of a document. -/
def ofDocument (d : Document α) : Layout α := ((ofValue d.collections d.content).run []).1

/-! ### What a layout holds -/

mutual

/-- The numbers that are referred to, in order. -/
def references : Layout α → List Nat
  | reference n => [n]
  | atom _ _ => []
  | list _ items => referencesOfItems items
  | map _ _ entries => referencesOfEntries entries

def referencesOfItems : List (Layout α) → List Nat
  | [] => []
  | item :: rest => references item ++ referencesOfItems rest

def referencesOfEntries : List (Layout α × Layout α) → List Nat
  | [] => []
  | entry :: rest => referencesOfEntry entry ++ referencesOfEntries rest

def referencesOfEntry : Layout α × Layout α → List Nat
  | (key, value) => references key ++ references value

end

mutual

/-- The atoms, in order. -/
def atoms : Layout α → List (Atom α)
  | reference _ => []
  | atom _ a => [a]
  | list _ items => atomsOfItems items
  | map _ _ entries => atomsOfEntries entries

def atomsOfItems : List (Layout α) → List (Atom α)
  | [] => []
  | item :: rest => atoms item ++ atomsOfItems rest

def atomsOfEntries : List (Layout α × Layout α) → List (Atom α)
  | [] => []
  | entry :: rest => atomsOfEntry entry ++ atomsOfEntries rest

def atomsOfEntry : Layout α × Layout α → List (Atom α)
  | (key, value) => atoms key ++ atoms value

end

end Layout

end EquatorialMount
