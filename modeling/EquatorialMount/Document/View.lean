import EquatorialMount.Document.Atom

/-!
# What a value shows of itself

A value is an atom, or a list, a mapping or a set.  Seen from above, only the values right below it count, whatever is
known of those.
-/

namespace EquatorialMount

/-- A value with the values right below it, which are of type `δ`. -/
inductive View (α δ : Type)
  | atom (a : Atom α)
  | list (items : List δ)
  | map (entries : List (Atom α × δ))
  | set (members : List (Atom α))
deriving Repr

namespace View

variable {α δ : Type}

/-- The name messages use for the kind of a value. -/
def kindName : View α δ → String
  | atom a => a.kindName
  | list _ => "list"
  | map _ => "dict"
  | set _ => "set"

/-- Whether a value counts as empty, as lists, mappings and sets without members do. -/
def isEmpty [Scalar α] : View α δ → Bool
  | atom a => a.isEmpty
  | list items => items.isEmpty
  | map entries => entries.isEmpty
  | set members => members.isEmpty

/-- The number a value stands for. -/
def toNumber [NumberReading α] : View α δ → Except ConversionError α
  | atom a => a.toNumber
  | _ => .error .wrongKind

end View

end EquatorialMount
