import EquatorialMount.Scalar

/-!
# The rotation axis of a mount from three directions

A mount that turns about its right-ascension axis carries its tube along a circle of the sphere.  Three directions
sampled on the way span the plane of that circle, and the normal of the plane is the axis.

The frame has its third coordinate along the celestial pole, its first coordinate "up" (hour angle zero) and its
second coordinate at hour angle 90.  A direction is given either by three coordinates or by an hour angle and a
declination in degrees.
-/

namespace EquatorialMount

@[ext]
structure Vec3 (α : Type) where
  x : α
  y : α
  z : α
deriving Repr, DecidableEq

/-- A direction as hour angle and declination, in degrees. -/
structure AnglePair (α : Type) where
  primary : α
  secondary : α
deriving Repr, DecidableEq

/-- Numbers in nested lists, as they come in where three coordinates are expected. -/
inductive NestedList (α : Type)
  | number (x : α)
  | list (items : List (NestedList α))

/-- Why an axis, or what is asked about it, cannot be worked out. -/
inductive AxisError (α : Type)
  /-- Not three numbers in a row but a rectangular arrangement of these dimensions. -/
  | shape (name : String) (dimensions : List Nat)
  /-- Lists of unequal depth or length below these common dimensions. -/
  | ragged (dimensions : List Nat)
  /-- Lists within lists on more levels than an arrangement can have. -/
  | tooDeep
  | vectorNotFinite (name : String) (v : Vec3 α)
  | pairNotFinite (p : AnglePair α)
  /-- The samples lie on one line and single out no axis. -/
  | undetermined
  | latitudeOutOfRange (degrees : α)
  /-- A latitude in a unit of another kind, by the unit's name and the kind of quantity it measures. -/
  | latitudeUnit (unit kind : String)
deriving Repr, DecidableEq

open Scalar

namespace NestedList

variable {α : Type}

def length? : NestedList α → Option Nat
  | number _ => none
  | list items => some items.length

def items : NestedList α → List (NestedList α)
  | number _ => []
  | list items => items

/-- How lists within lists are arranged. -/
inductive Arrangement
  | rectangular (dimensions : List Nat)
  | ragged (dimensions : List Nat)
  | tooDeep
deriving Repr, DecidableEq

/-- The arrangement of lists that have this many members each and so arranged ones below. -/
def Arrangement.within (count : Nat) : Arrangement → Arrangement
  | rectangular dimensions => rectangular (count :: dimensions)
  | ragged dimensions => ragged (count :: dimensions)
  | tooDeep => tooDeep

/-- The greatest number of levels of an arrangement. -/
def levelLimit : Nat := 64

/-- The arrangement of the nodes of one level and of all below, which can be this many levels more. -/
def arrangement : Nat → List (NestedList α) → Arrangement
  | _, [] => .rectangular []
  | 0, level => if level.all (·.length? = none) then .rectangular [] else .tooDeep
  | levels + 1, level@(first :: rest) =>
    if rest.any (·.length? ≠ first.length?) then .ragged []
    else
      match first.length? with
      | none => .rectangular []
      | some n => (arrangement levels (level.flatMap items)).within n

end NestedList

namespace Vec3

variable {α : Type} [Scalar α]

def zero : Vec3 α := ⟨Scalar.zero, Scalar.zero, Scalar.zero⟩

def sub (a b : Vec3 α) : Vec3 α := ⟨a.x - b.x, a.y - b.y, a.z - b.z⟩

def neg (a : Vec3 α) : Vec3 α := ⟨-a.x, -a.y, -a.z⟩

def dot (a b : Vec3 α) : α := a.x * b.x + a.y * b.y + a.z * b.z

def cross (a b : Vec3 α) : Vec3 α :=
  ⟨a.y * b.z - a.z * b.y, a.z * b.x - a.x * b.z, a.x * b.y - a.y * b.x⟩

def divideBy (a : Vec3 α) (s : α) : Vec3 α := ⟨a.x / s, a.y / s, a.z / s⟩

/-- The Euclidean length, from the sum of squares as it is: no scaling keeps it from underflow or overflow. -/
def length {α : Type} [Trig α] (a : Vec3 α) : α := Trig.sqrt (a.dot a)

def isFinite (a : Vec3 α) : Bool := Scalar.isFinite a.x && Scalar.isFinite a.y && Scalar.isFinite a.z

def checkFinite (name : String) (a : Vec3 α) : Except (AxisError α) (Vec3 α) :=
  if a.isFinite then .ok a else .error (.vectorNotFinite name a)

/-- Three finite numbers in a row: first the arrangement is checked, then the numbers. -/
def ofNestedList (name : String) (n : NestedList α) : Except (AxisError α) (Vec3 α) :=
  match n with
  | .list [.number x, .number y, .number z] => checkFinite name ⟨x, y, z⟩
  | _ =>
    match NestedList.arrangement NestedList.levelLimit [n] with
    | .rectangular dimensions => .error (.shape name dimensions)
    | .ragged dimensions => .error (.ragged dimensions)
    | .tooDeep => .error .tooDeep

end Vec3

namespace AnglePair

def checkFinite {α : Type} [Scalar α] (p : AnglePair α) : Except (AxisError α) Unit :=
  if isFinite p.primary && isFinite p.secondary then .ok () else .error (.pairNotFinite p)

variable {α : Type} [Trig α]

/-- The pair in degrees of two angles in radians. -/
def ofRadians (primary secondary : α) : AnglePair α := ⟨Trig.degrees primary, Trig.degrees secondary⟩

/-- The two angles of a pair in radians. -/
def toRadians (p : AnglePair α) : α × α := (Trig.radians p.primary, Trig.radians p.secondary)

/-- The point of the unit sphere at a pair. -/
def direction (p : AnglePair α) : Vec3 α :=
  let (h, d) := p.toRadians
  ⟨Trig.cos d * Trig.cos h, Trig.cos d * Trig.sin h, Trig.sin d⟩

def direction? (p : AnglePair α) : Except (AxisError α) (Vec3 α) := do
  p.checkFinite
  return p.direction

/-- The pair of a direction: hour angle in `(-180, 180]`, declination in `[-90, 90]`.  Rounding can leave the third
coordinate a hair outside `[-1, 1]`, so it is brought back first. -/
def ofDirection (v : Vec3 α) : AnglePair α :=
  .ofRadians (Trig.atan2 v.y v.x) (Trig.asin (clamp (-one) one v.z))

/-- The other end of the line through a pair: half a turn further, at the opposite declination. -/
def opposite (p : AnglePair α) : AnglePair α :=
  let turned := p.primary + halfTurn
  ⟨turned - fullTurn * ceil ((turned - halfTurn) / fullTurn), -p.secondary⟩

def opposite? (p : AnglePair α) : Except (AxisError α) (AnglePair α) := do
  p.checkFinite
  return p.opposite

end AnglePair

variable {α : Type} [Trig α]

/-- A normal shorter than this, before it is scaled to one, is mostly rounding error. -/
def nearlyCollinearBound : α := ofNat 5 / ofNat 100000000

/-- The normal of the plane through three points, as long as it comes out. -/
def spannedNormal (a b c : Vec3 α) : Vec3 α := (b.sub a).cross (c.sub b)

/-- The unit normal of the plane through three points, or the zero vector if they lie on one line.  Its direction
follows the order of the points. -/
def planeNormal (a b c : Vec3 α) : Vec3 α :=
  let n := spannedNormal a b c
  if isZero (n.dot n) then .zero else n.divideBy n.length

/-- The length of the spanned normal where it is so short that its direction is unreliable, though not zero. -/
def nearlyCollinear? (a b c : Vec3 α) : Option α :=
  let n := spannedNormal a b c
  if isZero (n.dot n) then none
  else if n.length < nearlyCollinearBound then some n.length else none

/-- Whether an axis carries no direction, its length being within the tolerance. -/
def isUndetermined (axis : Vec3 α) (tolerance : α) : Bool := axis.length ≤ tolerance

/-- An axis that is finite and carries a direction. -/
def Vec3.checkDetermined (axis : Vec3 α) : Except (AxisError α) (Vec3 α) := do
  let v ← axis.checkFinite "v"
  if isUndetermined v Scalar.zero then throw .undetermined
  return v

/-- Three sampled positions, in the order they were taken. -/
structure Samples (α : Type) where
  first : AnglePair α
  second : AnglePair α
  third : AnglePair α
deriving Repr, DecidableEq

namespace Samples

def toList {α : Type} (s : Samples α) : List (AnglePair α) := [s.first, s.second, s.third]

def checkFinite {α : Type} [Scalar α] (s : Samples α) : Except (AxisError α) Unit := do
  s.first.checkFinite
  s.second.checkFinite
  s.third.checkFinite

/-- The axis the mount turned about between the samples, or the zero vector if they single out none. -/
def rotationAxis (s : Samples α) : Vec3 α :=
  planeNormal s.first.direction s.second.direction s.third.direction

/-- The axis of samples that are finite. -/
def rotationAxis? (s : Samples α) : Except (AxisError α) (Vec3 α) := do
  s.checkFinite
  return s.rotationAxis

def nearlyCollinear? (s : Samples α) : Option α :=
  EquatorialMount.nearlyCollinear? s.first.direction s.second.direction s.third.direction

end Samples

end EquatorialMount
