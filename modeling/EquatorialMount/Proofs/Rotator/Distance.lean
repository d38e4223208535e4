import EquatorialMount.Proofs.Rotator.Conversion

/-!
# How far apart two angles are

The distance of two angles is the shorter way round for their difference.  It is the absolute value of the difference
in `(-180, 180]` (`distance_eq`), which is the least absolute value of all angles congruent to it (`abs_signed_le`); so
the distance of angles is a distance on the circle.  The conversions turn both angles alike and at most wrap them
afterwards, and so they keep it (`distance_of_modEq`).
-/

namespace EquatorialMount

open AddCommGroup Scalar

namespace Angle

/-- How far apart two angles are, the shorter way round. -/
def distance {α : Type} [Scalar α] (a b : α) : Except (AngleError α) α := shortestDifference (circular (a - b))

section Distance

variable {K : Type} [Field K] [LinearOrder K] [FloorRing K]

private theorem shortestDifference_eq (x : K) : shortestDifference x = .ok (if 180 < x then 360 - x else x) := by
  rw [← halfTurn_eq, ← fullTurn_eq]
  rfl

private theorem signed_eq_ite (x : K) : signed x = if 180 < circular x then circular x - 360 else circular x := by
  rw [signed, halfTurn_eq, fullTurn_eq]

variable [IsStrictOrderedRing K] {x y : K}

private theorem shortestDifference_circular (x : K) : shortestDifference (circular x) = .ok |signed x| := by
  obtain ⟨hlo, hhi⟩ := circular_mem x
  rw [shortestDifference_eq, signed_eq_ite]
  split
  · rw [abs_of_neg (sub_neg.2 hhi), neg_sub]
  · rw [abs_of_nonneg hlo]

theorem distance_eq (a b : K) : distance a b = .ok |signed (a - b)| := shortestDifference_circular (a - b)

private theorem abs_signed_le_halfTurn (x : K) : |signed x| ≤ 180 := by
  obtain ⟨hlo, hhi⟩ := signed_mem x
  exact abs_le.2 ⟨hlo.le, hhi⟩

/-- No congruent angle is smaller in absolute value. -/
theorem abs_signed_le (h : y ≡ x [PMOD 360]) : |signed x| ≤ |y| := by
  obtain ⟨n, hn⟩ := modEq_iff.1 ((signed_modEq x).trans h.symm)
  obtain ⟨hlo, hhi⟩ := signed_mem x
  have hhalf := abs_signed_le_halfTurn x
  obtain hneg | rfl | hpos := lt_trichotomy n 0
  · -- `y` lies beyond 180
    have hcast : (n : K) ≤ -1 := by exact_mod_cast Int.le_sub_one_of_lt hneg
    exact hhalf.trans (le_abs.2 (.inl (by linarith)))
  · rw [hn, Int.cast_zero, zero_mul, add_zero]
  · -- `y` lies beyond -180
    have hcast : (1 : K) ≤ n := by exact_mod_cast hpos
    exact hhalf.trans (le_abs.2 (.inr (by linarith)))

private theorem abs_signed_neg (x : K) : |signed (-x)| = |signed x| := by
  have hle (x : K) : |signed (-x)| ≤ |signed x| := by
    rw [← abs_neg (signed x)]
    exact abs_signed_le (signed_modEq x).neg
  refine le_antisymm (hle x) ?_
  simpa using hle (-x)

private theorem abs_signed_add_le (x y : K) : |signed (x + y)| ≤ |signed x| + |signed y| :=
  (abs_signed_le ((signed_modEq x).add (signed_modEq y))).trans (abs_add_le _ _)

private theorem abs_signed_eq_zero : |signed x| = 0 ↔ ∃ n : ℤ, x = n * 360 := by
  have hzero : signed (0 : K) = 0 := signed_of_mem ⟨by norm_num, by norm_num⟩
  rw [abs_eq_zero, ← hzero, signed_inj, modEq_iff]
  simp only [zero_add]

/-- Angles whose difference is the same up to whole turns are as far apart. -/
theorem distance_of_modEq {a b p q : K} (h : p - q ≡ a - b [PMOD 360]) : distance p q = distance a b := by
  rw [distance_eq, distance_eq, signed_inj.2 h]

end Distance

end Angle

namespace Converter

open Angle

variable {K : Type} [Field K] [LinearOrder K] [FloorRing K] [IsStrictOrderedRing K]

/-- Camera position angles are as far apart as their rotator angles. -/
private theorem distance_positionAngle (c : Converter K) (a b : K) (flipped : Bool) :
    (do distance (← c.positionAngle a flipped) (← c.positionAngle b flipped)) = distance a b := by
  rw [positionAngle_eq, positionAngle_eq]
  refine distance_of_modEq ?_
  calc signed (a + c.offset + flipTurn (c.mountFlipped ^^ flipped)) -
        signed (b + c.offset + flipTurn (c.mountFlipped ^^ flipped))
      ≡ a + c.offset + flipTurn (c.mountFlipped ^^ flipped) - (b + c.offset + flipTurn (c.mountFlipped ^^ flipped))
        [PMOD 360] := (signed_modEq _).sub (signed_modEq _)
    _ = a - b := by ring

/-- Rotator angles are as far apart as their camera position angles. -/
private theorem distance_rotatorAngle (c : Converter K) (p q : K) :
    (do distance (← c.rotatorAngle p) (← c.rotatorAngle q)) = distance p q := by
  rw [rotatorAngle_eq, rotatorAngle_eq]
  refine distance_of_modEq ?_
  calc circular (p + flipTurn c.mountFlipped - c.offset) - circular (q + flipTurn c.mountFlipped - c.offset)
      ≡ p + flipTurn c.mountFlipped - c.offset - (q + flipTurn c.mountFlipped - c.offset) [PMOD 360] :=
        (circular_modEq _).sub (circular_modEq _)
    _ = p - q := by ring

end Converter

namespace Angle

/-- The distance of angles is a distance on the circle: it is the absolute value of their wrapped difference, at most
half a turn, zero for congruent angles only, the same both ways and no longer than any way over a third angle.  Both
conversions of every converter keep it. -/
theorem distance_on_circle (a b c : ℚ) :
    ∃ r s t, distance a b = .ok r ∧ distance b c = .ok s ∧ distance a c = .ok t ∧
      r = |signed (a - b)| ∧ 0 ≤ r ∧ r ≤ 180 ∧ (r = 0 ↔ ∃ n : ℤ, a - b = n * 360) ∧ distance b a = .ok r ∧
      t ≤ r + s ∧
      ∀ (converter : Converter ℚ) (flipped : Bool),
        (do distance (← converter.positionAngle a flipped) (← converter.positionAngle b flipped)) = .ok r ∧
        (do distance (← converter.rotatorAngle a) (← converter.rotatorAngle b)) = .ok r := by
  refine ⟨_, _, _, distance_eq a b, distance_eq b c, distance_eq a c, rfl, abs_nonneg _, abs_signed_le_halfTurn _,
    abs_signed_eq_zero, ?_, ?_, fun converter flipped => ⟨?_, ?_⟩⟩
  · rw [distance_eq, ← neg_sub, abs_signed_neg]
  · have h := abs_signed_add_le (a - b) (b - c)
    rwa [sub_add_sub_cancel] at h
  · rw [converter.distance_positionAngle, distance_eq]
  · rw [converter.distance_rotatorAngle, distance_eq]

end Angle

end EquatorialMount
