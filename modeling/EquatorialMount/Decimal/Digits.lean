import EquatorialMount.Binary64

/-!
# Decimal digits of a binary64 number

Digits are chosen by exact arithmetic on natural numbers.  A magnitude is a quotient of naturals; it is rounded to a
whole number of units of a decimal place, a half going to the even neighbour.  `shortest` finds the fewest digits that
read back as the same number: the reals that round to a number form an interval, and the first decimal grid, from
coarse to fine, with a point in it gives the digits.
-/

namespace EquatorialMount.Decimal

/-- A non-negative rational number. -/
structure Magnitude where
  num : Nat
  den : Nat
deriving Repr, DecidableEq

/-- The number `digits · 10 ^ exponent`. -/
structure Scaled where
  digits : Nat
  exponent : Int
deriving Repr, DecidableEq

def powerOfTen (n : Nat) : Nat := Nat.pow 10 n

namespace Magnitude

def ofBinary (significand : Nat) (exponent : Int) : Magnitude :=
  ⟨significand <<< exponent.toNat, 1 <<< (-exponent).toNat⟩

/-- The magnitude counted in units of `10 ^ exponent`. -/
def inUnits (v : Magnitude) (exponent : Int) : Magnitude :=
  ⟨v.num * powerOfTen (-exponent).toNat, v.den * powerOfTen exponent.toNat⟩

/-- The nearest whole number, a half going to the even neighbour. -/
def round (v : Magnitude) : Nat :=
  let q := v.num / v.den
  let twice := 2 * (v.num % v.den)
  if twice < v.den then q else if v.den < twice then q + 1 else q + q % 2

/-- Whether the magnitude is at least `10 ^ exponent`. -/
def reaches (v : Magnitude) (exponent : Int) : Bool :=
  let u := v.inUnits exponent
  u.den ≤ u.num

/-- The greatest of `fuel + 1` exponents from `exponent` down whose power of ten the magnitude reaches. -/
def descend (v : Magnitude) : Nat → Int → Int
  | 0, exponent => exponent
  | fuel + 1, exponent => if v.reaches exponent then exponent else descend v fuel (exponent - 1)

/-- The exponent of the leading digit of a positive magnitude.  The estimate from the binary logarithms is at most a
few steps too high. -/
def leadingExponent (v : Magnitude) : Int :=
  let binary : Int := (v.num.log2 : Int) - v.den.log2
  v.descend 8 (binary * 30103 / 100000 + 3)

/-- The number rounded to `count` digits, at least one. -/
def toDigits (v : Magnitude) (count : Nat) : Scaled :=
  let lowest := v.leadingExponent - (count - 1)
  let d := (v.inUnits lowest).round
  if d = powerOfTen count then ⟨powerOfTen (count - 1), lowest + 1⟩ else ⟨d, lowest⟩

end Magnitude

/-- The magnitudes that round to `significand · 2 ^ exponent`, in quarters of the spacing `2 ^ exponent`: from `low` to
`high`, the ends included for an even significand.  Below a power of two the spacing is half as wide. -/
structure RoundingInterval where
  low : Nat
  high : Nat
  closed : Bool
  exponent : Int

def RoundingInterval.of (b : Binary64) : RoundingInterval :=
  let narrow := b.significand = Binary64.leadingBit && -1074 < b.exponent
  { low := 4 * b.significand - (if narrow then 1 else 2)
    high := 4 * b.significand + 2
    closed := b.significand % 2 = 0
    exponent := b.exponent - 2 }

/-- Whether `digits` units of `10 ^ exponent` lie in the interval. -/
def RoundingInterval.contains (i : RoundingInterval) (digits : Nat) (exponent : Int) : Bool :=
  let decimal := (digits * powerOfTen exponent.toNat) <<< (-i.exponent).toNat
  let scale := powerOfTen (-exponent).toNat <<< i.exponent.toNat
  if i.closed then i.low * scale ≤ decimal && decimal ≤ i.high * scale
  else i.low * scale < decimal && decimal < i.high * scale

/-- A neighbour of the number, on the grid of `10 ^ exponent`, that reads back; of two the nearer, of two equally near
the even one. -/
def onGrid? (b : Binary64) (exponent : Int) : Option Scaled :=
  let units := (Magnitude.ofBinary b.significand b.exponent).inUnits exponent
  let interval := RoundingInterval.of b
  let below := units.num / units.den
  let nearest := units.round
  let other := if nearest = below then below + 1 else below
  if interval.contains nearest exponent then some ⟨nearest, exponent⟩
  else if interval.contains other exponent then some ⟨other, exponent⟩
  else none

/-- Takes trailing zeros off the digits, `fuel` of them at most. -/
def Scaled.strip : Nat → Scaled → Scaled
  | 0, s => s
  | fuel + 1, s =>
    if s.digits ≠ 0 && s.digits % 10 = 0 then strip fuel ⟨s.digits / 10, s.exponent + 1⟩ else s

/-- The fewest digits that read back as a finite number other than zero; seventeen always do. -/
def shortest (b : Binary64) : Scaled :=
  let v := Magnitude.ofBinary b.significand b.exponent
  let top := v.leadingExponent
  match (List.range 17).findSome? fun (n : Nat) => onGrid? b (top - n) with
  | some s => s.strip 17
  | none => (v.toDigits 17).strip 17

end EquatorialMount.Decimal
