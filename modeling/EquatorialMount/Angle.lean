import EquatorialMount.Scalar

/-!
# Wrapping angles

Angles are in degrees.  A *circular* angle lies in `[0, 360)` and a *position* angle in `(-180, 180]`; every angle has
one representative in either range, and the two functions `circular` and `signed` find it.
-/

namespace EquatorialMount

/-- The places where an angle handed in from outside is checked to be a finite number. -/
inductive AngleRole
  | offset
  | newOffset
  | rotatorAngle
  | positionAngle
  | difference
deriving Repr, DecidableEq

/-- An angle that is not a finite number was given where one is needed. -/
structure AngleError (α : Type) where
  role : AngleRole
  value : α
deriving Repr, DecidableEq

namespace Angle

open Scalar

variable {α : Type} [Scalar α]

def checkFinite (role : AngleRole) (x : α) : Except (AngleError α) α :=
  if isFinite x then .ok x else .error ⟨role, x⟩

/-- The remainder that has the sign of a positive modulus; a zero remainder is the unsigned zero. -/
def floorRem (x m : α) : α :=
  let r := truncRem x m
  if isZero r then zero else if r < zero then r + m else r

/-- The representative in `[0, 360)`.  A tiny negative angle can round up to a whole turn, which is zero again. -/
def circular (x : α) : α :=
  let w := floorRem x fullTurn
  if fullTurn ≤ w then zero else w

/-- The representative in `(-180, 180]`. -/
def signed (x : α) : α :=
  let w := circular x
  if halfTurn < w then w - fullTurn else w

/-- Takes one turn off an angle above 180, without wrapping any further. -/
def fold (x : α) : α := if halfTurn < x then x - fullTurn else x

/-- The shorter way round for a difference that already lies in `[0, 360)`. -/
def shortestDifference (x : α) : Except (AngleError α) α := do
  let d ← checkFinite .difference x
  return if halfTurn < d then fullTurn - d else d

end Angle

end EquatorialMount
