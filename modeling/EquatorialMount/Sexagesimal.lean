import EquatorialMount.Decimal.Notation

/-!
# Angles in degrees, minutes and seconds

An angle is written as degrees, minutes and seconds with one decimal place.  The cut into parts is made in binary64;
seconds that round to sixty are carried over.
-/

namespace EquatorialMount.Sexagesimal

/-- The whole part of a number that is not negative, and what is left; an infinite number leaves nothing. -/
def split (x : Float) : Float × Float :=
  if x.isInf then (x, 0.0)
  else
    match Binary64.ofFloat? x with
    | some b =>
      let whole : Binary64 := ⟨false, b.significand <<< b.exponent.toNat >>> (-b.exponent).toNat, 0⟩
      (whole.toFloat, x - whole.toFloat)
    | none => (x, x)

/-- Seconds with one place, of at least two digits before the point. -/
def secondsText (x : Float) : String := Decimal.padLeft 4 '0' (Decimal.fixed 1 x)

/-- Whether a number rounds to sixty or more at one decimal place. -/
def roundsToSixty (x : Float) : Bool :=
  match Binary64.ofFloat? x with
  | some b => 600 ≤ ((Decimal.Magnitude.ofBinary b.significand b.exponent).inUnits (-1)).round
  | none => false

/-- Whether a number has a minus sign, as a negative zero has. -/
def isNegative (x : Float) : Bool := Binary64.signBit ≤ x.toBits.toNat

/-- An angle in degrees; with `signed`, a plus sign stands before one that has no minus sign. -/
def text (signed : Bool) (x : Float) : String :=
  if x.isNaN then "nan"
  else
    let (d, fraction) := split x.abs
    let (m, fraction) := split (fraction * 60.0)
    let s := fraction * 60.0
    let (m, s) := if roundsToSixty s then (m + 1.0, 0.0) else (m, s)
    let (d, m) := if 60.0 ≤ m then (d + 1.0, 0.0) else (d, m)
    let sign := if isNegative x then "-" else if signed then "+" else ""
    sign ++ Decimal.fixed 0 d ++ ":" ++ Decimal.padLeft 2 '0' (Decimal.fixed 0 m) ++ ":" ++ secondsText s

end EquatorialMount.Sexagesimal
