import EquatorialMount.Proofs.Rotator.Conversion
import EquatorialMount.Proofs.Rotator.Flip

/-!
# Images and the sides they were taken on

An image is judged by its side, by the side of the calibration and by the flag of the mount.  Where the flag follows
the sides, this comes to a comparison with the side the mount is on now: an image counts as flipped exactly if it was
taken on that side, and the side of the calibration stands in only while nothing is known of the mount's
(`imageFlipped_performAll`).  The position angle reads the same flag once more, so that it cancels, whether it follows
the sides or not: where the mount is makes no difference to the position angle of an image
(`positionAngle_of_image`).
-/

namespace EquatorialMount

open Angle Scalar

namespace PierSide

/-- There are only two known sides: two of them are the same if both are a third one or neither is. -/
private theorem eq_iff_of_known {a b c : PierSide} (ha : a ≠ unknown) (hb : b ≠ unknown) (hc : c ≠ unknown) :
    a = b ↔ (a = c ↔ b = c) := by
  revert ha hb hc
  cases a <;> cases b <;> cases c <;> decide

end PierSide

/-! ### Images against the mount -/

namespace Converter

variable {α : Type} {c : Converter α} {image : Option PierSide}

/-- The side the mount counts as being on: while nothing is known of it, that of the calibration. -/
def presumedSide (c : Converter α) : PierSide := if c.mountSide.isKnown then c.mountSide else c.calibrationSide

private theorem imageFlipped_of_unknown (h : image.getD c.imageSide = .unknown ∨ c.calibrationSide = .unknown) :
    c.imageFlipped image = false := by
  obtain h | h := h <;> simp [imageFlipped, h, PierSide.isKnown]

private theorem imageFlipped_of_known (himage : image.getD c.imageSide ≠ .unknown)
    (hknown : c.calibrationSide ≠ .unknown) :
    c.imageFlipped image = (c.mountFlipped ^^ decide (image.getD c.imageSide = c.calibrationSide)) := by
  rw [← PierSide.isKnown_iff] at himage hknown
  simp only [imageFlipped, himage, hknown, Bool.true_and]
  cases c.mountFlipped <;> simp

/-- Where the flag follows the sides, that of the calibration drops out: the mount and the image are compared with it,
and so with each other. -/
private theorem Consistent.imageFlipped_iff (hc : c.Consistent) (himage : image.getD c.imageSide ≠ .unknown)
    (hknown : c.calibrationSide ≠ .unknown) :
    c.imageFlipped image = true ↔ image.getD c.imageSide = c.presumedSide := by
  rw [imageFlipped_of_known himage hknown, hc, presumedSide]
  by_cases hmount : c.mountSide = .unknown
  · simp [hmount, PierSide.flippedFrom, PierSide.isKnown]
  · -- mount and image are each on the side of the calibration or not
    rw [PierSide.flippedFrom_of_known hmount hknown, if_pos ((PierSide.isKnown_iff _).2 hmount),
      PierSide.eq_iff_of_known himage hmount hknown]
    by_cases h1 : image.getD c.imageSide = c.calibrationSide <;> by_cases h2 : c.mountSide = c.calibrationSide <;>
      simp [h1, h2]

end Converter

namespace ControllerCall

/-- In every state that a run from the start reaches, an image is judged without any change to that state: one of an
unknown side, and any image while the calibration side is unknown, is not flipped; every other image is flipped exactly
if it was taken on the side the mount is on now, or on the side of the calibration if the mount is on an unknown one. -/
theorem imageFlipped_performAll {α ε σ ι : Type} [Scalar α] [BEq ι] (w : Surroundings α ε σ ι) {offset : α} {kept : σ}
    {side : PierSide} {calibrationSide : Option PierSide} {start c : Controller α σ ι}
    (calls : List (ControllerCall α ι)) (hstart : Controller.start offset kept side calibrationSide = .ok start)
    (hcalls : ∀ call ∈ calls, call.within ConverterCall.followsSides) (hc : (performAll w calls start).2 = c)
    (image : Option PierSide) {taken : PierSide} (htaken : image.getD c.converter.imageSide = taken) :
    ∃ flipped, (converter (.imageFlipped image)).perform w c = (.ok (.flag flipped), c) ∧
      (taken = .unknown ∨ c.converter.calibrationSide = .unknown → flipped = false) ∧
      (taken ≠ .unknown → c.converter.calibrationSide ≠ .unknown →
        (c.converter.mountSide ≠ .unknown → (flipped = true ↔ taken = c.converter.mountSide)) ∧
        (c.converter.mountSide = .unknown → (flipped = true ↔ taken = c.converter.calibrationSide))) := by
  have hcons : c.converter.Consistent := hc ▸ performAll_consistent hcalls (Controller.start_consistent hstart)
  subst htaken
  refine ⟨_, rfl, Converter.imageFlipped_of_unknown, fun himage hknown => ?_⟩
  rw [hcons.imageFlipped_iff himage hknown, Converter.presumedSide]
  refine ⟨fun hmount => ?_, fun hmount => ?_⟩
  · rw [if_pos ((PierSide.isKnown_iff _).2 hmount)]
  · rw [hmount]
    rfl

/-- Calibrated in the west and now in the east, as the latest image: flipped, and one from the west is not. -/
theorem imageFlipped_performAll_east : ∃ start c : Controller ℚ Unit Nat,
    Controller.start 10 () .unknown none = .ok start ∧
      (performAll failingThroughout [addListener 7, sideChanged .west, converter (.setImageSide .east),
        sideChanged .east] start).2 = c ∧
      (converter (.imageFlipped none)).perform failingThroughout c = (.ok (.flag true), c) ∧
      (converter (.imageFlipped (some .west))).perform failingThroughout c = (.ok (.flag false), c) := by
  refine ⟨_, _, rfl, rfl, ?_⟩
  have h (image : Option PierSide) := imageFlipped_performAll failingThroughout
    [addListener 7, sideChanged .west, converter (.setImageSide .east), sideChanged .east]
    (rfl : (Controller.start 10 () .unknown none : Except _ (Controller ℚ Unit Nat)) = .ok _) (by decide) rfl image rfl
  obtain ⟨latest, hlatest, -, heast⟩ := h none
  obtain ⟨other, hother, -, hwest⟩ := h (some .west)
  have hyes : latest = true := ((heast (by decide) (by decide)).1 (by decide)).2 rfl
  have hno : other = false := by
    rw [← Bool.not_eq_true, (hwest (by decide) (by decide)).1 (by decide)]
    decide
  exact ⟨hyes ▸ hlatest, hno ▸ hother⟩

end ControllerCall

/-! ### The position angle of an image -/

namespace Converter

variable {K : Type} [Field K] [LinearOrder K] [FloorRing K] [IsStrictOrderedRing K]

/-- The flag of the mount is read twice, and the two readings cancel. -/
private theorem positionAngle_imageFlipped {c : Converter K} (hknown : c.calibrationSide ≠ .unknown) {image : PierSide}
    (himage : image ≠ .unknown) (a : K) :
    c.positionAngle a (c.imageFlipped image) =
      .ok (signed (a + c.offset + flipTurn (image = c.calibrationSide))) := by
  have htaken : (some image).getD c.imageSide ≠ .unknown := himage
  rw [positionAngle_eq, imageFlipped_of_known htaken hknown, ← Bool.xor_assoc, Bool.xor_self, Bool.false_xor]
  rfl

end Converter

namespace ControllerCall

private theorem performAll_leavesCalibration {α ε σ ι : Type} [Scalar α] [BEq ι] (w : Surroundings α ε σ ι)
    {calls : List (ControllerCall α ι)} (hcalls : ∀ call ∈ calls, call.within ConverterCall.leavesCalibration)
    {c : Controller α σ ι} (hknown : c.converter.calibrationSide ≠ .unknown) :
    (performAll w calls c).2.converter.offset = c.converter.offset ∧
      (performAll w calls c).2.converter.calibrationSide = c.converter.calibrationSide := by
  refine performAll_invariant (P := fun s => s.converter.offset = c.converter.offset ∧
    s.converter.calibrationSide = c.converter.calibrationSide) (fun _ => rfl) (fun call s hcall hs => ?_) hcalls
    ⟨rfl, rfl⟩
  obtain ⟨hoffset, hside⟩ := ConverterCall.perform_leavesCalibration w.keep hcall (hs.2 ▸ hknown)
  exact ⟨hoffset.trans hs.1, hside.trans hs.2⟩

open ConverterCall (leavesCalibration) in
/-- The position angle of an image that was taken on a known side is that of the rotator angle, turned by half a turn
if this is the side of the calibration.  So it is the same in any two states that have the offset and the calibration
side in common, and in particular before and after all that is reported of the mount or set by hand of the mount and
the image. -/
theorem positionAngle_of_image {c : Converter ℚ} {image : PierSide} (hknown : c.calibrationSide ≠ .unknown)
    (himage : image ≠ .unknown) (a : ℚ) :
    c.positionAngle a (c.imageFlipped image) =
        .ok (signed (a + c.offset + if image = c.calibrationSide then 180 else 0)) ∧
      (∀ d : Converter ℚ, d.offset = c.offset → d.calibrationSide = c.calibrationSide →
        d.positionAngle a (d.imageFlipped image) = c.positionAngle a (c.imageFlipped image)) ∧
      ∀ {ε σ ι : Type} [BEq ι] (w : Surroundings ℚ ε σ ι) (calls : List (ControllerCall ℚ ι))
        {start now : Controller ℚ σ ι}, start.converter = c → (∀ call ∈ calls, call.within leavesCalibration) →
        (performAll w calls start).2 = now →
        now.converter.positionAngle a (now.converter.imageFlipped image) =
          c.positionAngle a (c.imageFlipped image) := by
  have hagree (d : Converter ℚ) (hoffset : d.offset = c.offset) (hside : d.calibrationSide = c.calibrationSide) :
      d.positionAngle a (d.imageFlipped image) = c.positionAngle a (c.imageFlipped image) := by
    rw [Converter.positionAngle_imageFlipped (hside ▸ hknown) himage,
      Converter.positionAngle_imageFlipped hknown himage, hoffset, hside]
  refine ⟨?_, hagree, fun w calls start now hstart hcalls hnow => ?_⟩
  · rw [Converter.positionAngle_imageFlipped hknown himage]
    simp only [flipTurn, decide_eq_true_eq]
  · subst hstart hnow
    obtain ⟨hoffset, hside⟩ := performAll_leavesCalibration w hcalls hknown
    exact hagree _ hoffset hside

/-- On the side of its calibration, with a flag that was set by hand. -/
def flippedAtHome : Converter ℚ := ⟨10, true, .east, .unknown, .east⟩

/-- An image from the east, before and after the mount has gone west and its flag has been taken back. -/
theorem positionAngle_of_image_east : ∃ now : Controller ℚ Unit Nat,
    (performAll failingThroughout [sideChanged .west, converter (.setMountFlipped false),
        converter (.setImageSide .west)] ⟨⟨flippedAtHome, ()⟩, [7], []⟩).2 = now ∧
      (flippedAtHome.mountFlipped = true ∧ now.converter.mountFlipped = false) ∧
      flippedAtHome.positionAngle 30 (flippedAtHome.imageFlipped (some .east)) = .ok (-140) ∧
      now.converter.positionAngle 30 (now.converter.imageFlipped (some .east)) = .ok (-140) := by
  obtain ⟨hangle, -, hrun⟩ := positionAngle_of_image
    (show flippedAtHome.calibrationSide ≠ .unknown by decide) (show PierSide.east ≠ .unknown by decide) 30
  have hsigned : signed (30 + flippedAtHome.offset + 180 : ℚ) = -140 :=
    (eq_signed_iff.2 ⟨by norm_num, modEq_iff.2 ⟨-1, by norm_num [flippedAtHome]⟩⟩).symm
  rw [if_pos (show PierSide.east = flippedAtHome.calibrationSide from rfl), hsigned] at hangle
  exact ⟨_, rfl, ⟨rfl, rfl⟩, hangle, (hrun failingThroughout _ rfl (by decide) rfl).trans hangle⟩

end ControllerCall

end EquatorialMount
