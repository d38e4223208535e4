import EquatorialMount.Decimal.Digits

/-!
# How numbers are written

Three notations: `exact` has the fewest digits that read back and is the one of files and messages; `fixed` has a set
number of decimal places; `scientific` has a set number of places after the leading digit.  All keep the minus sign of a
negative zero, and of a negative number that rounds to zero.
-/

namespace EquatorialMount.Decimal

/-- How an exact number is laid out. -/
structure Layout where
  /-- The least exponent of the leading digit that is written out positionally. -/
  plainFrom : Int
  /-- The first exponent of the leading digit above those. -/
  plainBelow : Int
  /-- The least number of digits of a written exponent. -/
  exponentWidth : Nat

/-- Positional from four places behind the point to sixteen before it; exponents have a sign and two digits. -/
def Layout.standard : Layout := ⟨-4, 16, 2⟩

def padLeft (width : Nat) (c : Char) (s : String) : String :=
  String.ofList (List.replicate (width - s.length) c) ++ s

/-- An exponent with its mark, its sign and at least two digits. -/
def exponentText (exponent : Int) : String :=
  (if exponent < 0 then "e-" else "e+")
    ++ padLeft Layout.standard.exponentWidth '0' (toString exponent.natAbs)

/-- Digits with a point after the first `before` of them; with no digit behind it there is no point. -/
def pointAfter (before : Nat) (digits : String) : String :=
  if digits.length ≤ before then digits
  else String.ofList (digits.toList.take before) ++ "." ++ String.ofList (digits.toList.drop before)

/-- The text of a positive decimal in the standard layout. -/
def Scaled.text (s : Scaled) : String :=
  let digits := toString s.digits
  let lead := s.exponent + (digits.length - 1 : Nat)
  if Layout.standard.plainFrom ≤ lead && lead < Layout.standard.plainBelow then
    if 0 ≤ s.exponent then digits ++ String.ofList (List.replicate s.exponent.toNat '0') ++ ".0"
    else if 0 ≤ lead then pointAfter (lead.toNat + 1) digits
    else "0." ++ String.ofList (List.replicate (-lead - 1).toNat '0') ++ digits
  else pointAfter 1 digits ++ exponentText lead

/-- The text of a whole number of units of `10 ^ (-places)`. -/
def placesText (places units : Nat) : String :=
  let digits := padLeft (places + 1) '0' (toString units)
  pointAfter (digits.length - places) digits

/-- Text of a number from that of a finite magnitude, with the sign in front. -/
def withSign (magnitude : Binary64 → String) (x : Float) : String :=
  match Binary64.ofFloat? x with
  | some b => if b.negative then "-" ++ magnitude b else magnitude b
  | none => if x.isNaN then "nan" else if x < 0 then "-inf" else "inf"

/-- The fewest digits that read back. -/
def exact (x : Float) : String :=
  withSign (fun b => if b.significand = 0 then "0.0" else (shortest b).text) x

/-- A set number of places, the number rounded to the nearest, a half to the even neighbour. -/
def fixed (places : Nat) (x : Float) : String :=
  withSign (fun b => placesText places ((Magnitude.ofBinary b.significand b.exponent).inUnits (-places)).round) x

/-- As `fixed`, with a sign in front of positive numbers too. -/
def signedFixed (places : Nat) (x : Float) : String :=
  let s := fixed places x
  if s.startsWith "-" then s else "+" ++ s

/-- One digit, a set number of places behind it, and an exponent. -/
def scientific (places : Nat) (x : Float) : String :=
  withSign (fun b =>
    if b.significand = 0 then placesText places 0 ++ exponentText 0
    else
      let s := (Magnitude.ofBinary b.significand b.exponent).toDigits (places + 1)
      placesText places s.digits ++ exponentText (s.exponent + places)) x

end EquatorialMount.Decimal
