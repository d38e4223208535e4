import EquatorialMount.Angle
import EquatorialMount.Proofs.Binary64.Sum

/-!
# Wrapping binary64 angles

The remainder of a whole turn is exact, and so is the difference that brings an angle above 180 below zero; only the
whole turn that is added to a negative remainder may be rounded.  So a wrapped angle is a number in its range
(`circular_isCircular`, `signed_isPosition`), and wrapping it once more changes nothing, not even the sign of a zero
(`signed_signed`).  What is no number is wrapped to the undefined one.
-/

namespace EquatorialMount.Float64

open Angle Binary64 Scalar

/-! ### The constants -/

def zeroParts : Binary64 := ⟨false, 0, -1074⟩

def halfTurnParts : Binary64 := ⟨false, 0x16800000000000, -45⟩

def fullTurnParts : Binary64 := ⟨false, 0x16800000000000, -44⟩

theorem ofFloat?_zero : ofFloat? zero = some zeroParts := by
  decide +kernel

theorem ofFloat?_halfTurn : ofFloat? halfTurn = some halfTurnParts := by
  decide +kernel

theorem ofFloat?_fullTurn : ofFloat? fullTurn = some fullTurnParts := by
  decide +kernel

theorem units_zero : zeroParts.units = 0 := rfl

/-- The least digit of 180, in units of the least positive number. -/
def halfTurnDigit : Nat := 2 ^ (-45 + 1074 : Int).toNat

private theorem units_halfTurn : halfTurnParts.units = (0x16800000000000 * halfTurnDigit : Nat) := by
  decide +kernel

private theorem units_fullTurn : fullTurnParts.units = 2 * halfTurnParts.units := by
  decide +kernel

private theorem units_halfTurn_pos : 0 < halfTurnParts.units := by
  decide +kernel

theorem isZero_iff {x : Float} {a : Binary64} (hx : ofFloat? x = some a) : isZero x = true ↔ a.units = 0 := by
  have h : isZero x = true ↔ x ≤ zero ∧ zero ≤ x := by
    show (decide _ && decide _) = true ↔ _
    rw [Bool.and_eq_true, decide_eq_true_iff, decide_eq_true_iff]
  rw [h, le_iff hx ofFloat?_zero, le_iff ofFloat?_zero hx, units_zero]
  omega

private theorem eq_zero_of_isZero {x : Float} {a : Binary64} (hx : ofFloat? x = some a) (hneg : a.negative = false)
    (h : isZero x = true) : x = zero :=
  eq_zero_of_units hx ofFloat?_zero hneg ((isZero_iff hx).1 h) units_zero

/-! ### Unfolding the wraps -/

theorem floorRem_eq (x m : Float) : floorRem x m =
    if isZero (truncRem x m) then zero else if truncRem x m < zero then truncRem x m + m else truncRem x m := rfl

theorem circular_eq (x : Float) :
    circular x = if (fullTurn : Float) ≤ floorRem x fullTurn then zero else floorRem x fullTurn := rfl

theorem signed_eq (x : Float) :
    signed x = if (halfTurn : Float) < circular x then circular x - fullTurn else circular x := rfl

theorem truncRem_parts {x : Float} {a : Binary64} (hx : ofFloat? x = some a) :
    ∃ c, ofFloat? (truncRem x fullTurn) = some c ∧ c.negative = a.negative ∧
      c.magnitude = a.magnitude % fullTurnParts.magnitude :=
  ofFloat?_truncRem hx ofFloat?_fullTurn (by decide)

/-- The remainder of less than a whole turn, either way, is the angle itself. -/
theorem truncRem_of_lt {x : Float} {a : Binary64} (hx : ofFloat? x = some a)
    (h : a.magnitude < fullTurnParts.magnitude) : truncRem x fullTurn = x := by
  obtain ⟨c, hc, hneg, hmag⟩ := truncRem_parts hx
  have hca : c = a := by
    refine ext_magnitude (canonical_of_ofFloat? hc) (canonical_of_ofFloat? hx) hneg ?_
    rw [hmag, Nat.mod_eq_of_lt h]
  exact ofFloat?_inj (hca ▸ hc) hx

/-! ### The range of a wrapped angle -/

/-- A number of `[0, 360)`, other than the negative zero. -/
def IsCircular (x : Float) : Prop :=
  ∃ c, ofFloat? x = some c ∧ c.negative = false ∧ c.units < fullTurnParts.units

private theorem isCircular_zero : IsCircular zero := by
  refine ⟨zeroParts, ofFloat?_zero, rfl, ?_⟩
  have h1 := units_halfTurn_pos
  have h2 := units_fullTurn
  rw [units_zero]
  omega

theorem IsCircular.not_le {x : Float} (h : IsCircular x) : ¬fullTurn ≤ x := by
  obtain ⟨c, hc, -, hlt⟩ := h
  rw [le_iff ofFloat?_fullTurn hc]
  omega

theorem circular_isCircular {x : Float} (hx : isFinite x = true) : IsCircular (circular x) := by
  obtain ⟨a, ha⟩ := (isFinite_iff x).1 hx
  obtain ⟨d, hd, -, hmag⟩ := truncRem_parts ha
  have hfull : fullTurnParts.units = fullTurnParts.magnitude := rfl
  have hpos := units_halfTurn_pos
  have htwice := units_fullTurn
  have hlt : d.magnitude < fullTurnParts.magnitude := by
    rw [hmag]
    exact Nat.mod_lt _ (by omega)
  have hneg : truncRem x fullTurn < zero ↔ d.units < 0 := lt_iff hd ofFloat?_zero
  rw [circular_eq]
  obtain h | h | h := lt_trichotomy d.units 0
  · have hfloor : floorRem x fullTurn = truncRem x fullTurn + fullTurn := by
      rw [floorRem_eq, if_neg (by rw [isZero_iff hd]; omega), if_pos (hneg.2 h)]
    rw [hfloor]
    split
    · exact isCircular_zero
    · rename_i hle
      -- a sum that is rounded up to infinity is not below the whole turn
      obtain hinf | ⟨c, hc, hcneg⟩ := add_of_pos hd ofFloat?_fullTurn (by
        have := d.units_eq
        split at this <;> omega)
      · exact absurd (le_of_infinite ofFloat?_fullTurn hinf) hle
      · rw [le_iff ofFloat?_fullTurn hc] at hle
        exact ⟨c, hc, hcneg, by omega⟩
  · have hfloor : floorRem x fullTurn = zero := by
      rw [floorRem_eq, if_pos ((isZero_iff hd).2 h)]
    rw [hfloor, if_neg isCircular_zero.not_le]
    exact isCircular_zero
  · have hfloor : floorRem x fullTurn = truncRem x fullTurn := by
      rw [floorRem_eq, if_neg (by rw [isZero_iff hd]; omega), if_neg (by rw [hneg]; omega)]
    have hdneg := not_negative_of_pos h
    have hrange : IsCircular (truncRem x fullTurn) :=
      ⟨d, hd, hdneg, by rw [units_of_not_negative hdneg]; omega⟩
    rw [hfloor, if_neg hrange.not_le]
    exact hrange

/-! ### Wrapping a position angle -/

/-- An angle in `[0, 180]` is left as it is. -/
private theorem signed_of_le {x : Float} {a : Binary64} (hx : ofFloat? x = some a) (hneg : a.negative = false)
    (hle : a.units ≤ halfTurnParts.units) : signed x = x := by
  have hfull : fullTurnParts.units = fullTurnParts.magnitude := rfl
  have hpos := units_halfTurn_pos
  have htwice := units_fullTurn
  have hunits := units_of_not_negative hneg
  have hrange : IsCircular x := ⟨a, hx, hneg, by omega⟩
  have hfloor : floorRem x fullTurn = x := by
    rw [floorRem_eq, truncRem_of_lt hx (by omega)]
    split
    · exact (eq_zero_of_isZero hx hneg ‹_›).symm
    · exact if_neg (by rw [lt_iff hx ofFloat?_zero, units_zero]; omega)
  have hcircular : circular x = x := by
    rw [circular_eq, hfloor, if_neg hrange.not_le]
  rw [signed_eq, hcircular]
  exact if_neg (by rw [lt_iff ofFloat?_halfTurn hx]; omega)

/-- Above 180 a whole turn is taken off, and nothing is lost: the difference is a multiple of the least digit of 180,
and smaller than 180. -/
theorem ofFloat?_sub_fullTurn {x : Float} {a : Binary64} (hx : ofFloat? x = some a)
    (hlt : halfTurnParts.units < a.units) (hlt' : a.units < fullTurnParts.units) :
    ∃ c, ofFloat? (x - fullTurn) = some c ∧ c.units = a.units - fullTurnParts.units := by
  have ha := canonical_of_ofFloat? hx
  have hunits := units_of_not_negative (not_negative_of_pos (units_halfTurn_pos.trans hlt))
  have hexp : -45 ≤ a.exponent := by
    by_contra hexp
    have h := magnitude_lt ha (canonical_of_ofFloat? ofFloat?_halfTurn) (not_le.1 hexp)
    have hhalf : halfTurnParts.units = halfTurnParts.magnitude := rfl
    omega
  obtain ⟨q, hmag⟩ : ∃ q, a.magnitude = q * halfTurnDigit := ⟨_, a.magnitude_eq_mul (e := -45) (by decide) hexp⟩
  have h1 : 0x16800000000000 < q := by
    rw [units_halfTurn, hunits, hmag, Nat.cast_lt] at hlt
    exact Nat.lt_of_mul_lt_mul_right hlt
  have h2 : q < 2 * 0x16800000000000 := by
    rw [units_fullTurn, units_halfTurn, hunits, hmag] at hlt'
    have h : q * halfTurnDigit < 2 * 0x16800000000000 * halfTurnDigit := by omega
    exact Nat.lt_of_mul_lt_mul_right h
  obtain ⟨c, hc, hneg, hcmag⟩ := ofFloat?_toFloat (b := ⟨true, 2 * 0x16800000000000 - q, -45⟩)
    (show 2 * 0x16800000000000 - q < 2 ^ 53 by omega) (show (-1074 : Int) ≤ -45 by decide)
    (show (-45 : Int) ≤ 971 by decide)
  have hcunits : c.units = a.units - fullTurnParts.units := by
    have h : c.magnitude = (2 * 0x16800000000000 - q) * halfTurnDigit := hcmag
    have hle := Nat.mul_le_mul_right halfTurnDigit h2.le
    rw [units_of_negative hneg, h, hunits, hmag, units_fullTurn, units_halfTurn, Nat.sub_mul]
    omega
  exact ⟨c, ofFloat?_sub hx ofFloat?_fullTurn (canonical_of_ofFloat? hc) hcunits.symm (by omega), hcunits⟩

/-- Wrapping what is left after that adds the whole turn and takes it off again. -/
private theorem signed_sub_fullTurn {x : Float} {a : Binary64} (hx : ofFloat? x = some a)
    (hlt : halfTurnParts.units < a.units) (hlt' : a.units < fullTurnParts.units) :
    signed (x - fullTurn) = x - fullTurn := by
  have hpos := units_halfTurn_pos
  have htwice := units_fullTurn
  have hfull : fullTurnParts.units = fullTurnParts.magnitude := rfl
  have hrange : IsCircular x := ⟨a, hx, not_negative_of_pos (by omega), hlt'⟩
  obtain ⟨c, hc, hunits⟩ := ofFloat?_sub_fullTurn hx hlt hlt'
  have hback : x - fullTurn + fullTurn = x :=
    ofFloat?_inj (ofFloat?_add hc ofFloat?_fullTurn (canonical_of_ofFloat? hx) (by omega) (by omega)) hx
  have hmag := c.units_eq
  have hfloor : floorRem (x - fullTurn) fullTurn = x := by
    rw [floorRem_eq, truncRem_of_lt hc (by split at hmag <;> omega), if_neg (by rw [isZero_iff hc]; omega),
      if_pos (by rw [lt_iff hc ofFloat?_zero, units_zero]; omega)]
    exact hback
  have hcircular : circular (x - fullTurn) = x := by
    rw [circular_eq, hfloor, if_neg hrange.not_le]
  rw [signed_eq, hcircular]
  exact if_pos ((lt_iff ofFloat?_halfTurn hx).2 hlt)

/-- What a position angle is: of `[0, 180]` and not the negative zero, or a whole turn below a number above 180. -/
private theorem signed_cases {x : Float} (hx : isFinite x = true) :
    (∃ c, ofFloat? (signed x) = some c ∧ c.negative = false ∧ c.units ≤ halfTurnParts.units) ∨
      ∃ w c, signed x = w - fullTurn ∧ ofFloat? w = some c ∧ halfTurnParts.units < c.units ∧
        c.units < fullTurnParts.units := by
  obtain ⟨c, hc, hneg, hlt⟩ := circular_isCircular hx
  rw [signed_eq]
  by_cases h : (halfTurn : Float) < circular x
  · rw [if_pos h]
    exact .inr ⟨_, c, rfl, hc, (lt_iff ofFloat?_halfTurn hc).1 h, hlt⟩
  · rw [if_neg h]
    rw [lt_iff ofFloat?_halfTurn hc] at h
    exact .inl ⟨c, hc, hneg, by omega⟩

theorem signed_signed {x : Float} (hx : isFinite x = true) : signed (signed x) = signed x := by
  obtain ⟨c, hc, hneg, hle⟩ | ⟨w, c, hw, hc, hlt, hlt'⟩ := signed_cases hx
  · exact signed_of_le hc hneg hle
  · rw [hw]
    exact signed_sub_fullTurn hc hlt hlt'

theorem signed_eq_zero {x : Float} (hx : isFinite x = true) (h : isZero (signed x) = true) : signed x = zero := by
  obtain ⟨c, hc, hneg, -⟩ | ⟨w, c, hw, hc, hlt, hlt'⟩ := signed_cases hx
  · exact eq_zero_of_isZero hc hneg h
  · obtain ⟨d, hd, hunits⟩ := ofFloat?_sub_fullTurn hc hlt hlt'
    rw [hw, isZero_iff hd] at h
    omega

/-! ### The range of a position angle -/

/-- A finite number of `(-180, 180]`. -/
structure IsPosition (x : Float) : Prop where
  finite : isFinite x = true
  neg_lt : -180 < x
  le : x ≤ 180

private theorem ofFloat?_neg_halfTurn : ofFloat? (-180) = some halfTurnParts.opposite := by
  decide +kernel

theorem signed_isPosition {x : Float} (hx : isFinite x = true) : IsPosition (signed x) := by
  have hpos := units_halfTurn_pos
  have htwice := units_fullTurn
  have hneg := units_opposite halfTurnParts
  -- whole or a turn down, the units of the angle are between those of the two ends
  obtain ⟨c, hc, hlt, hle⟩ : ∃ c, ofFloat? (signed x) = some c ∧ -halfTurnParts.units < c.units ∧
      c.units ≤ halfTurnParts.units := by
    obtain ⟨c, hc, hcneg, hle⟩ | ⟨w, c, hw, hc, hlt, hlt'⟩ := signed_cases hx
    · exact ⟨c, hc, by rw [units_of_not_negative hcneg]; omega, hle⟩
    · obtain ⟨d, hd, hunits⟩ := ofFloat?_sub_fullTurn hc hlt hlt'
      exact ⟨d, hw ▸ hd, by omega, by omega⟩
  exact
    { finite := (isFinite_iff _).2 ⟨c, hc⟩
      neg_lt := (lt_iff ofFloat?_neg_halfTurn hc).2 (by omega)
      le := (le_iff hc ofFloat?_halfTurn).2 hle }

/-- An angle that is infinite or undefined has no remainder, and wrapping leaves it undefined. -/
private theorem signed_of_not_finite {x : Float} (hx : isFinite x = false) : signed x = undefined := by
  have hnone : ofFloat? x = none := by
    cases h : ofFloat? x with
    | none => rfl
    | some a => cases hx.symm.trans ((isFinite_iff x).2 ⟨a, h⟩)
  have hrem : truncRem x fullTurn = undefined := by
    show Float64.truncRem x fullTurn = undefined
    simp only [Float64.truncRem, hnone]
  have hfloor : floorRem x fullTurn = undefined := by
    rw [floorRem_eq, hrem]
    decide +kernel
  rw [signed_eq, circular_eq, hfloor]
  decide +kernel

theorem isFinite_of_signed {x : Float} (h : isFinite (signed x) = true) : isFinite x = true := by
  by_contra hx
  rw [signed_of_not_finite (Bool.eq_false_iff.2 hx)] at h
  revert h
  decide +kernel

end EquatorialMount.Float64
