import EquatorialMount.Proofs.Rotator.Conversion
import EquatorialMount.Proofs.Rotator.Keeping

/-!
# Solving for the offset

Of all offsets in `(-180, 180]` there is exactly one that makes a converter answer a given position angle at a given
rotator angle, and that is the one it solves for: wherever the two half-open ranges meet, at 180 just as elsewhere, one
representative is left (`offsetFor_inverse`).  So a converter that is calibrated with what it answers itself has the
offset it had.
-/

namespace EquatorialMount

open AddCommGroup Angle

namespace Converter

/-- The states a converter can be in: as it is built, and as calls with any keeper leave it. -/
inductive Reached {α : Type} [Scalar α] : Converter α → Prop
  | built {offset : α} {flipped : Bool} {calibrationSide mountSide : PierSide} {c : Converter α}
      (h : ofOffset offset flipped calibrationSide mountSide = .ok c) : Reached c
  | performed {ε σ : Type} {c : Converter α} (h : Reached c) (keep : OffsetKeeper ε σ α) (kept : σ)
      (call : ConverterCall α) : Reached (call.perform keep ⟨c, kept⟩).2.converter

variable {K : Type} [Field K] [LinearOrder K] [FloorRing K] [IsStrictOrderedRing K]

/-- Every offset was wrapped when it was set. -/
private theorem Reached.offset_mem {c : Converter K} (h : c.Reached) : c.offset ∈ Set.Ioc (-180) 180 := by
  induction h with
  | built h =>
    cases h
    exact signed_mem _
  | performed _ keep kept call ih =>
    obtain h | ⟨o, -, h⟩ := call.leavesOffset_or_handsOver keep ⟨_, kept⟩
    · rw [h.offset_eq]
      exact ih
    · rw [h.offset_eq]
      exact signed_mem o

private theorem positionAngle_eq_signed_iff (c : Converter K) {a p : K} :
    c.positionAngle a false = .ok (signed p) ↔ c.offset ≡ p - a - flipTurn c.mountFlipped [PMOD 360] := by
  have hsum : a + c.offset + flipTurn c.mountFlipped = c.offset + flipTurn c.mountFlipped + a := by ring
  rw [positionAngle_eq, Bool.xor_false, Except.ok.injEq, signed_inj, modEq_sub_iff_add_modEq, modEq_sub_iff_add_modEq,
    hsum]

private theorem offsetFor_eq_ok_iff (c : Converter K) {a p o : K} :
    c.offsetFor a p = .ok o ↔ o ∈ Set.Ioc (-180) 180 ∧ o ≡ p - a - flipTurn c.mountFlipped [PMOD 360] := by
  rw [offsetFor_eq, Except.ok.injEq, eq_comm]
  exact eq_signed_iff

/-- The offset that is solved for depends on the two angles up to whole turns only. -/
private theorem offsetFor_of_modEq (c : Converter K) {a a' p p' : K} (ha : a' ≡ a [PMOD 360]) (hp : p' ≡ p [PMOD 360]) :
    c.offsetFor a' p' = c.offsetFor a p := by
  rw [offsetFor_eq, offsetFor_eq]
  exact congrArg Except.ok (signed_inj.2 ((hp.sub ha).sub_right _))

/-- What a converter answers is solved by the offset it has. -/
private theorem offsetFor_of_positionAngle {c : Converter K} (hc : c.offset ∈ Set.Ioc (-180) 180) {a q : K}
    (h : c.positionAngle a false = .ok q) : c.offsetFor a q = .ok c.offset := by
  have hq : signed q = q := by
    rw [positionAngle_eq, Except.ok.injEq] at h
    rw [← h, signed_of_mem (signed_mem _)]
  rw [← hq] at h
  exact c.offsetFor_eq_ok_iff.2 ⟨hc, c.positionAngle_eq_signed_iff.1 h⟩

/-- A calibration with an angle that is solved by the offset in use sets it once more. -/
private theorem calibrate_of_offsetFor {ε σ : Type} (keep : OffsetKeeper ε σ K) (kept : σ) {c : Converter K}
    (hc : c.offset ∈ Set.Ioc (-180) 180) {a q : K} (h : c.offsetFor a q = .ok c.offset) :
    Calibrated.calibrate keep a q ⟨c, kept⟩ =
      (((keep c.offset kept).1.mapError .keeper).map fun _ => c.offset,
        ⟨{ c with calibrationSide := Calibrated.adoptedSide c }, (keep c.offset kept).2⟩) := by
  obtain ⟨hfin, -⟩ | ⟨o, ho, -, hcal⟩ := Calibrated.calibrate_cases keep a q ⟨c, kept⟩
  · cases hfin _ h
  · cases ho.symm.trans h
    rw [hcal, signed_of_mem hc]

/-- A converter solves for an offset in `(-180, 180]`, and with that offset, but with no other one of that range, it
would answer the position angle at the rotator angle, both up to whole turns.  Calibrated with what it answers itself,
it has the offset that it had, answers with it and hands it to its keeper; nothing but an unknown calibration side
changes. -/
theorem offsetFor_inverse (c : Converter ℚ) (a p : ℚ) :
    (∃ solved ∈ Set.Ioc (-180 : ℚ) 180, c.offsetFor a p = .ok solved ∧ ∀ o ∈ Set.Ioc (-180 : ℚ) 180,
        ({ c with offset := o }.positionAngle a false = .ok (signed p) ↔ o = solved)) ∧
      (c.Reached → ∃ q, c.positionAngle a false = .ok q ∧ ∀ {ε σ : Type} (keep : OffsetKeeper ε σ ℚ) (kept : σ),
        Calibrated.calibrate keep a q ⟨c, kept⟩ =
          (((keep c.offset kept).1.mapError .keeper).map fun _ => c.offset,
            ⟨{ c with calibrationSide := Calibrated.adoptedSide c }, (keep c.offset kept).2⟩)) ∧
      ∀ a' p', a' ≡ a [PMOD 360] → p' ≡ p [PMOD 360] → c.offsetFor a' p' = c.offsetFor a p := by
  refine ⟨⟨_, signed_mem _, c.offsetFor_eq a p, fun o ho => ?_⟩, fun hc => ?_, fun a' p' => c.offsetFor_of_modEq⟩
  · rw [positionAngle_eq_signed_iff, eq_signed_iff]
    exact (and_iff_right ho).symm
  · have hanswer := c.positionAngle_eq a false
    have hrange := hc.offset_mem
    exact ⟨_, hanswer, fun keep kept =>
      calibrate_of_offsetFor keep kept hrange (offsetFor_of_positionAngle hrange hanswer)⟩

/-- Half a turn off, on a flipped mount whose calibration side nobody knows. -/
def halfTurned : Converter ℚ := ⟨180, true, .unknown, .unknown, .west⟩

/-- The offset is at the end of its range, which its other end does not stand for, and stays there. -/
theorem offsetFor_inverse_halfTurned : ∃ q,
    halfTurned.Reached ∧ halfTurned.positionAngle 350 false = .ok q ∧
      Calibrated.calibrate (.recording : OffsetKeeper Unit _ ℚ) 350 q ⟨halfTurned, []⟩ =
        (.ok 180, ⟨{ halfTurned with calibrationSide := .west }, [180]⟩) ∧
      halfTurned.offsetFor 350 (-10) = .ok 180 ∧ halfTurned.offsetFor (-10) 350 = .ok 180 ∧
      halfTurned.positionAngle 350 false = .ok (signed (-10)) := by
  have hsigned : signed (-180 : ℚ) = 180 := (eq_signed_iff.2 ⟨by norm_num, modEq_iff.2 ⟨1, by norm_num⟩⟩).symm
  have hbuilt : ofOffset (-180) true .unknown .west = .ok halfTurned := by
    show Except.ok (⟨signed (-180), _, _, _, _⟩ : Converter ℚ) = _
    rw [hsigned]
    rfl
  have hreached : halfTurned.Reached := .built hbuilt
  obtain ⟨⟨solved, -, hsolved, hunique⟩, hown, hturns⟩ := offsetFor_inverse halfTurned 350 (-10)
  obtain ⟨q, hq, hcal⟩ := hown hreached
  have hanswer : halfTurned.positionAngle 350 false = .ok (signed (-10)) := by
    rw [positionAngle_eq_signed_iff]
    exact modEq_iff.2 ⟨2, by norm_num [halfTurned, flipTurn]⟩
  obtain rfl := (hunique 180 (by norm_num)).1 hanswer
  refine ⟨q, hreached, hq, hcal .recording [], hsolved, ?_, hanswer⟩
  rw [hturns (-10) 350 (modEq_iff.2 ⟨-1, by norm_num⟩) (modEq_iff.2 ⟨1, by norm_num⟩), hsolved]

end Converter

end EquatorialMount
