import Mathlib.Algebra.Order.Archimedean.Basic
import Mathlib.Data.Rat.Floor
import EquatorialMount.Scalar

/-!
# Exact numbers

The elements of an ordered field with a floor are numbers of the library: nothing is rounded, every number is finite,
and a constant is the number it is written as.  The fields meant are ℚ and ℝ.
-/

namespace EquatorialMount

namespace Scalar

variable {K : Type} [Field K] [LinearOrder K] [FloorRing K]

instance (priority := low) exact : Scalar K where
  ofNat n := n
  truncRem x m := x - m * (if 0 ≤ x / m then (⌊x / m⌋ : K) else ⌈x / m⌉)
  ceil x := ⌈x⌉
  isFinite _ := true

@[simp] theorem zero_eq : (zero : K) = 0 := by
  exact Nat.cast_zero

@[simp] theorem one_eq : (one : K) = 1 := by
  exact Nat.cast_one

@[simp] theorem halfTurn_eq : (halfTurn : K) = 180 := by
  exact Nat.cast_ofNat

@[simp] theorem fullTurn_eq : (fullTurn : K) = 360 := by
  exact Nat.cast_ofNat

@[simp] theorem isFinite_eq (x : K) : isFinite x = true := rfl

@[simp] theorem isZero_iff (x : K) : isZero x = true ↔ x = 0 := by
  rw [isZero, Bool.and_eq_true, decide_eq_true_iff, decide_eq_true_iff, zero_eq]
  exact le_antisymm_iff.symm

theorem isZero_eq_false {x : K} (h : x ≠ 0) : isZero x = false :=
  Bool.eq_false_iff.2 (mt (isZero_iff x).1 h)

theorem ofNat_eq (n : Nat) : (ofNat n : K) = n := rfl

theorem clamp_of_mem {lo hi x : K} (h : x ∈ Set.Icc lo hi) : clamp lo hi x = x := by
  rw [clamp, if_neg (not_lt.2 h.1), if_neg (not_lt.2 h.2)]

theorem truncRem_eq (x m : K) :
    truncRem x m = x - m * (if 0 ≤ x / m then (⌊x / m⌋ : K) else ⌈x / m⌉) := rfl

@[simp] theorem abs_eq [IsOrderedAddMonoid K] (x : K) : Scalar.abs x = |x| := by
  rw [Scalar.abs, zero_eq]
  split
  · rename_i h
    rw [zero_sub, abs_of_nonpos h]
  · rename_i h
    rw [abs_of_pos (not_le.1 h)]

end Scalar

end EquatorialMount
