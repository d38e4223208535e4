import Mathlib.Data.Sign.Basic
import EquatorialMount.Proofs.Exact.Trigonometry

/-!
# Rounded numbers

A model of the arithmetic of a machine between the exact one and binary64: every result of an operation is rounded, by
any function at all, while opposites, comparisons, remainders and constants are exact.  There is one zero, and nothing
is infinite; a quotient by zero is the rounded zero.  What holds for every rounding that treats both signs alike rests
on the signs of the operands alone (`Rounded.signSymmetric`).
-/

namespace EquatorialMount

/-- A number whose operations are those of the reals, each followed by a rounding. -/
@[ext]
structure Rounded (rnd : ℝ → ℝ) where
  value : ℝ

namespace Rounded

variable {rnd : ℝ → ℝ}

noncomputable instance : Trig (Rounded rnd) where
  toAdd := ⟨fun x y => ⟨rnd (x.value + y.value)⟩⟩
  toSub := ⟨fun x y => ⟨rnd (x.value - y.value)⟩⟩
  toMul := ⟨fun x y => ⟨rnd (x.value * y.value)⟩⟩
  toDiv := ⟨fun x y => ⟨rnd (x.value / y.value)⟩⟩
  toNeg := ⟨fun x => ⟨-x.value⟩⟩
  toLT := ⟨fun x y => x.value < y.value⟩
  toLE := ⟨fun x y => x.value ≤ y.value⟩
  ofNat n := ⟨n⟩
  truncRem x m := ⟨Scalar.truncRem x.value m.value⟩
  ceil x := ⟨Scalar.ceil x.value⟩
  isFinite _ := true
  decidableLT x y := inferInstanceAs (Decidable (x.value < y.value))
  decidableLE x y := inferInstanceAs (Decidable (x.value ≤ y.value))
  sqrt x := ⟨rnd (Trig.sqrt x.value)⟩
  sin x := ⟨rnd (Trig.sin x.value)⟩
  cos x := ⟨rnd (Trig.cos x.value)⟩
  asin x := ⟨rnd (Trig.asin x.value)⟩
  atan2 y x := ⟨rnd (Trig.atan2 y.value x.value)⟩
  hypot x y := ⟨rnd (Trig.hypot x.value y.value)⟩
  radiansPerDegree := ⟨rnd Trig.radiansPerDegree⟩
  degreesPerRadian := ⟨rnd Trig.degreesPerRadian⟩

open Scalar

section Constants

variable (rnd)

theorem value_zero : (zero : Rounded rnd).value = 0 := Nat.cast_zero

theorem value_halfTurn : (halfTurn : Rounded rnd).value = 180 := Nat.cast_ofNat

theorem value_fullTurn : (fullTurn : Rounded rnd).value = 360 := Nat.cast_ofNat

end Constants

theorem isZero_iff (x : Rounded rnd) : isZero x = true ↔ x.value = 0 := by
  have h : isZero x = true ↔ x.value ≤ (zero : Rounded rnd).value ∧ (zero : Rounded rnd).value ≤ x.value := by
    rw [isZero, Bool.and_eq_true, decide_eq_true_iff, decide_eq_true_iff]
    rfl
  rw [h, value_zero, le_antisymm_iff]

end Rounded

/-- Numbers whose operations depend on the signs of the operands as those of the reals do. -/
class Scalar.SignSymmetric (α : Type) [Scalar α] : Prop where
  neg_zero : -(Scalar.zero : α) = Scalar.zero
  neg_sub (x y : α) : -(x - y) = y - x
  mul_comm (x y : α) : x * y = y * x
  neg_mul_neg (x y : α) : -x * -y = x * y
  neg_div (x y : α) : -x / y = -(x / y)

instance : Scalar.SignSymmetric ℝ where
  neg_zero := by rw [Scalar.zero_eq, neg_zero]
  neg_sub := neg_sub
  mul_comm := mul_comm
  neg_mul_neg := neg_mul_neg
  neg_div x y := neg_div y x

/-- A rounding that is the same on both sides of zero leaves the rules of signs as they are. -/
theorem Rounded.signSymmetric {rnd : ℝ → ℝ} (h : ∀ x, rnd (-x) = -rnd x) : Scalar.SignSymmetric (Rounded rnd) where
  neg_zero := Rounded.ext (by
    show -((0 : ℕ) : ℝ) = (0 : ℕ)
    rw [Nat.cast_zero, neg_zero])
  neg_sub x y := Rounded.ext (by
    show -rnd (x.value - y.value) = rnd (y.value - x.value)
    rw [← h, neg_sub])
  mul_comm x y := Rounded.ext (congrArg rnd (mul_comm x.value y.value))
  neg_mul_neg x y := Rounded.ext (congrArg rnd (neg_mul_neg x.value y.value))
  neg_div x y := Rounded.ext (by
    show rnd (-x.value / y.value) = -rnd (x.value / y.value)
    rw [← h, neg_div])

/-- The rounding to whole numbers, toward zero. -/
noncomputable def towardZero (x : ℝ) : ℝ := SignType.sign x * ⌊|x|⌋

theorem towardZero_neg (x : ℝ) : towardZero (-x) = -towardZero x := by
  rw [towardZero, towardZero, abs_neg, Left.sign_neg, SignType.coe_neg, neg_mul]

end EquatorialMount
