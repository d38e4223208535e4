import EquatorialMount.Scalar
import EquatorialMount.Decimal.Reading

/-!
# Binary64 as the numbers of the library

`Float` has no remainder and no hypotenuse of its own.  The remainder is exact: the operands are taken apart into sign,
integer and power of two, and the result is again a binary64 number because it is a multiple of the smaller of the two
powers and smaller than either operand.  The hypotenuse is taken at a scale where the squares neither underflow nor
overflow.
-/

namespace EquatorialMount

/-- A finite binary64 number: `significand · 2 ^ exponent` with its sign. -/
structure Binary64 where
  negative : Bool
  significand : Nat
  exponent : Int
deriving Repr, DecidableEq

namespace Binary64

/-- The weight of the bit above the fraction: the least significand of a number that is not subnormal. -/
def leadingBit : Nat := 1 <<< 52

/-- The weight of the sign among the bits of a number. -/
def signBit : Nat := 1 <<< 63

/-- The parts of a finite number; an infinite or undefined one has none. -/
def ofFloat? (x : Float) : Option Binary64 :=
  let bits := x.toBits.toNat
  let biased : Nat := bits / leadingBit % 2048
  let fraction : Nat := bits % leadingBit
  let negative := signBit ≤ bits
  if biased = 2047 then none
  else if biased = 0 then some ⟨negative, fraction, -1074⟩
  else some ⟨negative, leadingBit + fraction, (biased : Int) - 1075⟩

/-- The number with these parts, for parts that binary64 represents exactly. -/
def toFloat (b : Binary64) : Float :=
  let width := b.significand.log2
  let exponent := max (b.exponent + width - 52) (-1074)
  let aligned := b.significand <<< (b.exponent - exponent).toNat >>> (exponent - b.exponent).toNat
  let magnitude := if aligned < leadingBit then aligned else (exponent + 1074).toNat * leadingBit + aligned
  Float.ofBits (UInt64.ofNat (if b.negative then signBit + magnitude else magnitude))

/-- The remainder of finite numbers with a quotient cut toward zero: it has the sign of the dividend. -/
def rem (a m : Binary64) : Binary64 :=
  let exponent := min a.exponent m.exponent
  let scaled (b : Binary64) : Nat := b.significand <<< (b.exponent - exponent).toNat
  ⟨a.negative, scaled a % scaled m, exponent⟩

end Binary64

namespace Float64

def undefined : Float := 0.0 / 0.0

def truncRem (x m : Float) : Float :=
  match Binary64.ofFloat? x, Binary64.ofFloat? m with
  | some a, some b => if b.significand = 0 then undefined else (a.rem b).toFloat
  | some _, none => if m.isNaN then undefined else x
  | none, _ => undefined

/-- The power of two at or below the magnitude of a finite number other than zero, as an exponent. -/
def binaryExponent (x : Float) : Int :=
  match Binary64.ofFloat? x with
  | some b => b.exponent + b.significand.log2
  | none => 0

def hypot (x y : Float) : Float :=
  if x.isInf || y.isInf then 1.0 / 0.0
  else if x.isNaN || y.isNaN then undefined
  else
    let big := max x.abs y.abs
    if big == 0.0 then 0.0
    else
      let e := binaryExponent big
      let a := x.abs.scaleB (-e)
      let b := y.abs.scaleB (-e)
      (a * a + b * b).sqrt.scaleB e

end Float64

instance : Trig Float where
  ofNat := Float.ofNat
  truncRem := Float64.truncRem
  ceil := Float.ceil
  isFinite := Float.isFinite
  sqrt := Float.sqrt
  sin := Float.sin
  cos := Float.cos
  asin := Float.asin
  atan2 := Float.atan2
  hypot := Float64.hypot
  radiansPerDegree := 0.017453292519943295
  degreesPerRadian := 57.29577951308232

namespace Float64

/-- The number nearest to a numeral. -/
def ofNumeral : Decimal.Numeral → Float
  | .finite negative digits exponent =>
    let x := Float.ofScientific digits (exponent < 0) exponent.natAbs
    if negative then -x else x
  | .infinite negative => if negative then -1.0 / 0.0 else 1.0 / 0.0
  | .undefined => undefined

/-- The number nearest to an integer, if it is finite. -/
def ofInt? (n : Int) : Option Float :=
  let x := Float.ofNat n.natAbs
  if x.isFinite then some (if n < 0 then -x else x) else none

def isInt (x : Float) (n : Int) : Bool :=
  match Binary64.ofFloat? x with
  | some b =>
    (b.significand = 0 || b.negative = decide (n < 0))
      && b.significand <<< b.exponent.toNat = n.natAbs <<< (-b.exponent).toNat
  | none => false

end Float64

instance : NumberReading Float where
  ofInt? := Float64.ofInt?
  ofText? s := (Decimal.numeral? s).map Float64.ofNumeral
  isInt := Float64.isInt
  equal x y := x == y

end EquatorialMount
