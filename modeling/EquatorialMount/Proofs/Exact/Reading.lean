import EquatorialMount.Decimal.Reading
import EquatorialMount.Proofs.Document.View
import EquatorialMount.Proofs.Exact.Number

/-!
# Exact numbers read from text

The rationals are read without rounding: an integer is that number, and a decimal its digits times a power of ten.  A
text for infinity or for an undefined number denotes no rational.
-/

namespace EquatorialMount

namespace Decimal.Numeral

/-- The rational a numeral is written for. -/
def rational? : Numeral → Option ℚ
  | finite negative digits exponent => some ((if negative then -1 else 1) * digits * 10 ^ exponent)
  | infinite _ | undefined => none

end Decimal.Numeral

instance : NumberReading ℚ where
  ofInt? n := some n
  ofText? s := (Decimal.numeral? s).bind Decimal.Numeral.rational?
  isInt x n := x = n
  equal x y := x = y

instance : NumberReading.Defined ℚ := ⟨fun x => decide_eq_true (rfl : x = x)⟩

end EquatorialMount
