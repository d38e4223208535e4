/-!
# The numbers a formula is written over

Every formula of this library is stated once, over any type with the operations below.  At `Float` they are the
operations of binary64 and the formula is what the program runs; at the rationals or the reals they are exact and the
formula is what geometry says.  No law is assumed here: floating point has few, and a proof asks for those it needs
by choosing the type.
-/

namespace EquatorialMount

/-- Numbers with comparison, the four operations and the two cuts to whole numbers that angle wrapping needs. -/
class Scalar (α : Type) where
  toAdd : Add α := by infer_instance
  toSub : Sub α := by infer_instance
  toMul : Mul α := by infer_instance
  toDiv : Div α := by infer_instance
  toNeg : Neg α := by infer_instance
  toLT : LT α := by infer_instance
  toLE : LE α := by infer_instance
  /-- The number a whole-number constant stands for. -/
  ofNat : Nat → α
  /-- The remainder of the division whose quotient is cut toward zero. -/
  truncRem : α → α → α
  /-- The least whole number that is not below the argument. -/
  ceil : α → α
  /-- Whether the argument is a number proper, neither infinite nor undefined. -/
  isFinite : α → Bool
  decidableLT : DecidableLT α := by infer_instance
  decidableLE : DecidableLE α := by infer_instance

-- Of low priority, so that a type with operations of its own is read with those.

namespace Scalar

variable {α : Type} [Scalar α]

instance (priority := low) : Add α := toAdd

instance (priority := low) : Sub α := toSub

instance (priority := low) : Mul α := toMul

instance (priority := low) : Div α := toDiv

instance (priority := low) : Neg α := toNeg

instance (priority := low) : LT α := toLT

instance (priority := low) : LE α := toLE

instance (priority := low) : DecidableLT α := decidableLT

instance (priority := low) : DecidableLE α := decidableLE

end Scalar

/-- Numbers with the functions of plane and spherical trigonometry, in radians. -/
class Trig (α : Type) extends Scalar α where
  sqrt : α → α
  sin : α → α
  cos : α → α
  asin : α → α
  /-- The angle of the point with ordinate `y` (first argument) and abscissa `x`. -/
  atan2 : α → α → α
  hypot : α → α → α
  radiansPerDegree : α
  degreesPerRadian : α

namespace Scalar

variable {α : Type} [Scalar α]

def zero : α := ofNat 0

def one : α := ofNat 1

def halfTurn : α := ofNat 180

def fullTurn : α := ofNat 360

/-- Whether a number equals zero, of either sign where zero has one; an undefined number does not. -/
def isZero (x : α) : Bool := x ≤ zero && zero ≤ x

/-- The absolute value; that of a zero is the unsigned zero, and an undefined number stays as it is. -/
def abs (x : α) : α := if x ≤ zero then zero - x else x

/-- The nearest number of `[lo, hi]`; an undefined number stays as it is. -/
def clamp (lo hi x : α) : α := if x < lo then lo else if hi < x then hi else x

end Scalar

namespace Trig

variable {α : Type} [Trig α]

def radians (degrees : α) : α := degrees * radiansPerDegree

def degrees (radians : α) : α := radians * degreesPerRadian

end Trig

end EquatorialMount
