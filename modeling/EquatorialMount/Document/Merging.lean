import EquatorialMount.Document.Node

/-!
# Merged mappings

A mapping takes in the entries of the mappings that its merging keys hold, in front of its own.  This is spelled out in
the table of nodes, where a mapping may take in itself: a merging key is gone from its mapping before what it holds is
looked at, so each is followed once.
-/

namespace EquatorialMount.NodeGraph

abbrev Nodes := Array Node

def kindAt (nodes : Nodes) (n : Nat) : Kind := (nodes[n]?.map (·.kind)).getD .unknown

def bodyAt? (nodes : Nodes) (n : Nat) : Option NodeBody := nodes[n]?.map (·.body)

/-- The entries of a node that is a mapping. -/
def entriesAt? (nodes : Nodes) (n : Nat) : Option (List (Nat × Nat)) :=
  match bodyAt? nodes n with
  | some (.mapping entries) => some entries
  | _ => none

def setEntries (nodes : Nodes) (n : Nat) (entries : List (Nat × Nat)) : Nodes :=
  nodes.modify n fun node => { node with body := .mapping entries }

def isMerging (nodes : Nodes) (entry : Nat × Nat) : Bool := kindAt nodes entry.1 = .merge

/-- How many entries of all mappings have merging keys. -/
def mergeCount (nodes : Nodes) : Nat :=
  nodes.foldl (fun count node =>
    match node.body with
    | .mapping entries => count + entries.countP (isMerging nodes)
    | _ => count) 0

/-- Makes texts of the keys of a default value. -/
def settleDefaults (nodes : Nodes) (entries : List (Nat × Nat)) : Nodes :=
  entries.foldl (fun nodes (key, _) =>
    if kindAt nodes key = .default then nodes.modify key fun node => { node with kind := .text } else nodes) nodes

/-- Spells out what a mapping takes in, one merging key after the other, in it and in the mappings it takes in. -/
def spellOut : Nat → Nat → Nodes → Except DocumentError Nodes
  | 0, _, _ => .error (.malformed "merged too deeply")
  | fuel + 1, n, nodes => do
    let some entries := entriesAt? nodes n | throw (.malformed "expected a mapping to merge")
    match entries.find? (isMerging nodes) with
    | none => return settleDefaults nodes entries
    | some (key, value) =>
      let nodes := setEntries nodes n (entries.erase (key, value))
      let (taken, nodes) ←
        match bodyAt? nodes value with
        | some (.sequence items) => do
          let (lists, nodes) ← items.foldlM (fun (lists, nodes) item => do
            let nodes ← spellOut fuel item nodes
            return ((entriesAt? nodes item).getD [] :: lists, nodes)) ([], nodes)
          pure (lists.flatten, nodes)
        | _ => do
          let nodes ← spellOut fuel value nodes
          pure ((entriesAt? nodes value).getD [], nodes)
      let nodes ← spellOut fuel n nodes
      return setEntries nodes n (taken ++ (entriesAt? nodes n).getD [])

end EquatorialMount.NodeGraph
