import EquatorialMount.Proofs.Angle
import EquatorialMount.Rotator.Converter

/-!
# Converting exact angles

Over exact numbers each conversion is a single wrap: the angle, the offset and the half turn of a flip are added up,
and neither the fold nor the direction in which a half turn is taken shows in the answer (`positionAngle_eq`,
`rotatorAngle_eq`, `offsetFor_eq`).  So the two conversions undo each other up to whole turns, and up to the half turn
of an image from the other side.
-/

namespace EquatorialMount

namespace Converter

open AddCommGroup Angle Scalar

private theorem turned_modEq {K : Type} [Field K] [LinearOrder K] (p : K) :
    (if 0 < p then p - 180 else p + 180) ≡ p + 180 [PMOD 360] := by
  split
  · exact modEq_iff.2 ⟨-1, by push_cast; ring⟩
  · rfl

variable {K : Type} [Field K] [LinearOrder K] [FloorRing K]

theorem rotatorAngle_eq (c : Converter K) (p : K) :
    c.rotatorAngle p = .ok (circular (p + flipTurn c.mountFlipped - c.offset)) := by
  have h : (if c.mountFlipped then p + 180 else p) = p + flipTurn c.mountFlipped := by
    cases c.mountFlipped <;> simp [flipTurn]
  simp only [rotatorAngle, checkFinite_eq, halfTurn_eq, ← h]
  rfl

variable [IsStrictOrderedRing K]

theorem positionAngle_eq (c : Converter K) (a : K) (flipped : Bool) :
    c.positionAngle a flipped = .ok (signed (a + c.offset + flipTurn (c.mountFlipped ^^ flipped))) := by
  have hfold : fold a + c.offset ≡ a + c.offset [PMOD 360] := (fold_modEq a).add_right _
  have hturn : (if c.mountFlipped ≠ flipped then
        if 0 < fold a + c.offset then fold a + c.offset - 180 else fold a + c.offset + 180
      else fold a + c.offset) ≡ fold a + c.offset + flipTurn (c.mountFlipped ^^ flipped) [PMOD 360] := by
    cases c.mountFlipped <;> cases flipped <;> simp [flipTurn, turned_modEq]
  simp only [positionAngle, checkFinite_eq, halfTurn_eq, zero_eq]
  exact congrArg Except.ok (signed_inj.2 (hturn.trans (hfold.add_right _)))

theorem offsetFor_eq (c : Converter K) (a p : K) :
    c.offsetFor a p = .ok (signed (p - a - flipTurn c.mountFlipped)) := by
  have hfold : p - fold a ≡ p - a [PMOD 360] := modEq_rfl.sub (fold_modEq a)
  have h : (if c.mountFlipped then p - fold a - 180 else p - fold a) = p - fold a - flipTurn c.mountFlipped := by
    cases c.mountFlipped <;> simp [flipTurn]
  simp only [offsetFor, checkFinite_eq, halfTurn_eq]
  exact congrArg Except.ok (signed_inj.2 (h ▸ hfold.sub modEq_rfl))

/-- Going back takes the half turn of a flipped mount off again and leaves that of a flipped image. -/
private theorem rotatorAngle_of_positionAngle (c : Converter K) (a : K) (flipped : Bool) :
    (c.positionAngle a flipped).bind c.rotatorAngle = .ok (circular (a + flipTurn flipped)) := by
  have hflip : (flipTurn (c.mountFlipped ^^ flipped) + flipTurn c.mountFlipped : K) ≡ flipTurn flipped [PMOD 360] := by
    have e : (c.mountFlipped ^^ flipped ^^ c.mountFlipped) = flipped := by
      cases c.mountFlipped <;> cases flipped <;> rfl
    exact (flipTurn_add_flipTurn _ _).trans (by rw [e])
  rw [positionAngle_eq, Except.bind, rotatorAngle_eq]
  refine congrArg Except.ok (circular_inj.2 ?_)
  calc signed (a + c.offset + flipTurn (c.mountFlipped ^^ flipped)) + flipTurn c.mountFlipped - c.offset
      ≡ a + c.offset + flipTurn (c.mountFlipped ^^ flipped) + flipTurn c.mountFlipped - c.offset [PMOD 360] :=
        ((signed_modEq _).add_right _).sub_right _
    _ = a + (flipTurn (c.mountFlipped ^^ flipped) + flipTurn c.mountFlipped) := by ring
    _ ≡ a + flipTurn flipped [PMOD 360] := hflip.add_left a

/-- The camera stands at the position angle the rotator was sent to. -/
private theorem positionAngle_of_rotatorAngle (c : Converter K) (p : K) :
    (c.rotatorAngle p).bind (c.positionAngle · false) = .ok (signed p) := by
  have hflip : (flipTurn c.mountFlipped + flipTurn c.mountFlipped : K) ≡ 0 [PMOD 360] := by
    have h : (flipTurn c.mountFlipped + flipTurn c.mountFlipped : K) ≡ _ [PMOD 360] := flipTurn_add_flipTurn _ _
    rwa [Bool.xor_self] at h
  rw [rotatorAngle_eq, Except.bind, positionAngle_eq, Bool.xor_false]
  refine congrArg Except.ok (signed_inj.2 ?_)
  calc circular (p + flipTurn c.mountFlipped - c.offset) + c.offset + flipTurn c.mountFlipped
      ≡ p + flipTurn c.mountFlipped - c.offset + c.offset + flipTurn c.mountFlipped [PMOD 360] :=
        ((circular_modEq _).add_right _).add_right _
    _ = p + (flipTurn c.mountFlipped + flipTurn c.mountFlipped) := by ring
    _ ≡ p + 0 [PMOD 360] := hflip.add_left p
    _ = p := add_zero p

/-- The two conversions are inverse to each other: a position angle is the one representative in `(-180, 180]` of
rotator angle, offset and half turn together; the rotator angle comes back from it, turned if the image was; and each
position angle is reached. -/
theorem conversions_inverse (c : Converter ℚ) (a p : ℚ) (flipped : Bool) :
    (∀ q, c.positionAngle a flipped = .ok q ↔ q ∈ Set.Ioc (-180) 180 ∧
        q ≡ a + c.offset + (if c.mountFlipped ≠ flipped then 180 else 0) [PMOD 360]) ∧
      (c.positionAngle a flipped).bind c.rotatorAngle = .ok (circular (a + if flipped then 180 else 0)) ∧
      (c.rotatorAngle p).bind (c.positionAngle · false) = .ok (signed p) := by
  have hflip : (if c.mountFlipped ≠ flipped then 180 else 0 : ℚ) = flipTurn (c.mountFlipped ^^ flipped) := by
    cases c.mountFlipped <;> cases flipped <;> rfl
  refine ⟨fun q => ?_, c.rotatorAngle_of_positionAngle a flipped, c.positionAngle_of_rotatorAngle p⟩
  rw [positionAngle_eq, Except.ok.injEq, eq_comm, hflip]
  exact eq_signed_iff

end Converter

end EquatorialMount
