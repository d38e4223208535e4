import EquatorialMount.Document.Entries

/-!
# Trees of mappings

A tree has mappings inside and values of any other kind at its leaves.  `overlay` lays one tree over another: it
descends wherever both have a mapping, and anything else of the upper one takes the place of what is below.
-/

namespace EquatorialMount

/-- A tree of mappings over keys `κ` with leaves `ν`. -/
inductive Tree (κ ν : Type)
  | leaf (value : ν)
  | map (entries : List (κ × Tree κ ν))
deriving Repr

namespace Tree

variable {κ ν : Type} [BEq κ]

mutual

/-- What a tree makes of the one it is laid over, if there is one. -/
def overlay (below : Option (Tree κ ν)) : Tree κ ν → Tree κ ν
  | leaf value => leaf value
  | map upper =>
    match below with
    | some (map lower) => map (overlayEntries lower upper)
    | _ => map upper

/-- Lays one mapping's entries over another's. -/
def overlayEntries (lower : List (κ × Tree κ ν)) : List (κ × Tree κ ν) → List (κ × Tree κ ν)
  | [] => lower
  | entry :: rest => overlayEntries (overlayEntry lower entry) rest

def overlayEntry (lower : List (κ × Tree κ ν)) : κ × Tree κ ν → List (κ × Tree κ ν)
  | (key, value) => Entries.put key (overlay (Entries.get? key lower) value) lower

end

/-- The tree at the end of a chain of keys. -/
def at? : List κ → Tree κ ν → Option (Tree κ ν)
  | [], t => some t
  | key :: rest, map entries =>
    match Entries.get? key entries with
    | some t => at? rest t
    | none => none
  | _ :: _, leaf _ => none

end Tree

end EquatorialMount
