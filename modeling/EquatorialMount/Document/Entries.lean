/-!
# Entries in order

A mapping is the list of its entries in the order in which their keys first came up.  A key is entered once: giving it
a second value changes the value at its first place.
-/

namespace EquatorialMount.Entries

variable {κ τ : Type} [BEq κ]

def get? (key : κ) : List (κ × τ) → Option τ
  | [] => none
  | (k, v) :: rest => if k == key then some v else get? key rest

def contains (key : κ) (entries : List (κ × τ)) : Bool := (get? key entries).isSome

/-- Sets the value of a key, at its place if it has one and else at the end. -/
def put (key : κ) (value : τ) : List (κ × τ) → List (κ × τ)
  | [] => [(key, value)]
  | (k, v) :: rest => if k == key then (k, value) :: rest else (k, v) :: put key value rest

def erase (key : κ) : List (κ × τ) → List (κ × τ)
  | [] => []
  | (k, v) :: rest => if k == key then rest else (k, v) :: erase key rest

end EquatorialMount.Entries
