import EquatorialMount.Proofs.Angle
import EquatorialMount.Proofs.Binary64.Angle

/-!
# Wrapping for good

An angle that has been brought into `(-180, 180]` stays as it is when it is brought there again, and the zero among
these angles has no sign.  Exact numbers have both laws and so does binary64, rounding or not.  They are all that the
way of an offset through its store depends on.
-/

namespace EquatorialMount

open Angle Scalar

/-- Numbers whose wrapping is settled after once. -/
class Angle.Settled (α : Type) [Scalar α] : Prop where
  signed_signed {x : α} (h : isFinite x = true) : signed (signed x) = signed x
  signed_eq_zero {x : α} (h : isFinite x = true) (hzero : isZero (signed x) = true) : signed x = zero

instance : Angle.Settled Float := ⟨Float64.signed_signed, Float64.signed_eq_zero⟩

instance {K : Type} [Field K] [LinearOrder K] [FloorRing K] [IsStrictOrderedRing K] : Angle.Settled K where
  signed_signed _ := signed_of_mem (signed_mem _)
  signed_eq_zero _ hzero := by
    rw [isZero, Bool.and_eq_true, decide_eq_true_eq, decide_eq_true_eq] at hzero
    exact le_antisymm hzero.1 hzero.2

end EquatorialMount
