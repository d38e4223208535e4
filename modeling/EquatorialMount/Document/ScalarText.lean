import EquatorialMount.Text.Quoted

/-!
# The text of a scalar

A text is made of characters.  An escape can also state one half of a surrogate pair, which is no character by itself;
a text with such halves in it is kept as its code points.
-/

namespace EquatorialMount

inductive ScalarText
  | whole (s : String)
  /-- Code points with halves of surrogate pairs among them. -/
  | broken (points : List Nat)
deriving Repr, DecidableEq

namespace ScalarText

instance : Coe String ScalarText := ⟨whole⟩

/-- Whether a code point is one half of a surrogate pair. -/
def isHalf (n : Nat) : Bool := 0xd800 ≤ n && n < 0xe000

def ofCharacters (s : List Char) : ScalarText := whole (String.ofList s)

def ofPoints (points : List Nat) : ScalarText :=
  if points.any isHalf then broken points else whole (String.ofList (points.map Char.ofNat))

def points : ScalarText → List Nat
  | whole s => s.toList.map (·.toNat)
  | broken points => points

/-- The text as a string, if it is one. -/
def string? : ScalarText → Option String
  | whole s => some s
  | broken _ => none

/-- The text as messages show it. -/
def quoted (t : ScalarText) : String := Text.quotedPoints t.points

/-- The code points of a text as texts of their own. -/
def characters : ScalarText → List ScalarText
  | whole s => s.toList.map fun c => whole c.toString
  | broken points => points.map fun n => ofPoints [n]

end ScalarText

end EquatorialMount
