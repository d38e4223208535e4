import EquatorialMount.Proofs.Sphere.Ends

/-!
# The other end of a line through a pair

The hour angle of the opposite pair is folded by a quotient rounded up, and it is the angle that wrapping finds
(`opposite_eq`).  So going to the other end twice wraps the hour angle and does nothing else (`opposite_opposite`), and
the direction of the opposite pair is the antipode, on this side of the poles and beyond them.
-/

namespace EquatorialMount

open AddCommGroup

/-- A rational angle is wrapped as the real number that it is. -/
private theorem Angle.signed_cast (q : ℚ) : signed (q : ℝ) = (signed q : ℚ) := by
  obtain ⟨hlo, hhi⟩ := signed_mem q
  obtain ⟨n, hn⟩ := modEq_iff.1 (signed_modEq q)
  symm
  rw [eq_signed_iff, modEq_iff]
  exact ⟨⟨by exact_mod_cast hlo, by exact_mod_cast hhi⟩, n, by rw [hn]; push_cast; ring⟩

namespace AnglePair

@[simp] theorem opposite?_eq (p : AnglePair ℝ) : p.opposite? = .ok p.opposite := rfl

theorem opposite_eq (p s : ℝ) : (mk p s).opposite = ⟨Angle.signed (p + 180), -s⟩ :=
  congrArg (mk · (-s)) (opposite_primary_eq ⟨p, s⟩)

/-- At the other end of the other end the hour angle is wrapped. -/
theorem opposite_opposite (p s : ℝ) : (mk p s).opposite.opposite = ⟨Angle.signed p, s⟩ := by
  have hturn : Angle.signed (p + 180) + 180 ≡ p [PMOD 360] := by
    calc Angle.signed (p + 180) + 180
        ≡ p + 180 + 180 [PMOD 360] := (Angle.signed_modEq _).add_right 180
      _ ≡ p [PMOD 360] := Angle.modEq_iff.2 ⟨1, by push_cast; ring⟩
  rw [opposite_eq, opposite_eq, Angle.signed_inj.2 hturn, neg_neg]

/-- The opposite pair is the other end of the line.  Of a rational pair its hour angle is the wrapped one half a turn
further, at the opposite declination; opposite to that is the pair itself with its hour angle wrapped, so the very pair
if that angle is wrapped already.  And the direction of the opposite pair is the opposite direction, whatever the
declination is. -/
theorem opposite?_antipode :
    (∀ p s : ℚ,
      (mk (p : ℝ) s).opposite? = .ok ⟨(Angle.signed (p + 180) : ℚ), (-s : ℚ)⟩ ∧
      (mk (p : ℝ) s).opposite?.bind opposite? = .ok ⟨(Angle.signed p : ℚ), s⟩ ∧
      (p ∈ Set.Ioc (-180) 180 → (mk (p : ℝ) s).opposite?.bind opposite? = .ok ⟨p, s⟩)) ∧
    ∀ p s : ℝ, (mk p s).opposite?.bind direction? = (mk p s).direction?.map Vec3.neg := by
  have htwice (p s : ℚ) : (mk (p : ℝ) s).opposite?.bind opposite? = .ok ⟨(Angle.signed p : ℚ), s⟩ := by
    rw [opposite?_eq, Except.bind, opposite?_eq, opposite_opposite, Angle.signed_cast]
  refine ⟨fun p s => ⟨?_, htwice p s, fun hp => ?_⟩, fun p s => ?_⟩
  · rw [opposite?_eq, opposite_eq, ← Angle.signed_cast]
    push_cast
    rfl
  · rw [htwice, Angle.signed_of_mem hp]
  · rw [opposite?_eq, Except.bind, direction?_eq, direction?_eq, direction_opposite]
    rfl

/-- An hour angle at the end of its range and a declination beyond the pole. -/
theorem opposite?_antipode_beyond_pole :
    (180 : ℚ) ∈ Set.Ioc (-180) 180 ∧ (⟨180, 100⟩ : AnglePair ℝ).opposite?.bind opposite? = .ok ⟨180, 100⟩ := by
  have hmem : (180 : ℚ) ∈ Set.Ioc (-180) 180 := ⟨by norm_num, le_rfl⟩
  have hback := (opposite?_antipode.1 180 100).2.2 hmem
  push_cast at hback
  exact ⟨hmem, hback⟩

end AnglePair

end EquatorialMount
