import EquatorialMount.Proofs.Binary64.Operations

/-!
# Numbers between powers of two

How large a result can get, and how small, is told by powers of two that bound the operands.  A number that is at most
a power of two or at least one is finite; so a chain of operations with such bounds never leaves the finite numbers.
-/

namespace EquatorialMount.Float64

open Binary64 Scalar

/-! ### Magnitudes -/

/-- The parts of a number, those of zero for one that is not finite. -/
def parts (x : Float) : Binary64 := (ofFloat? x).getD zeroParts

theorem parts_of_ofFloat? {x : Float} {b : Binary64} (h : ofFloat? x = some b) : parts x = b := by
  rw [parts, h]
  rfl

theorem ofFloat?_parts {x : Float} (h : isFinite x = true) : ofFloat? x = some (parts x) := by
  obtain ⟨b, hb⟩ := (isFinite_iff x).1 h
  rw [parts_of_ofFloat? hb]
  exact hb

private theorem isFinite_of_ofFloat? {x : Float} {b : Binary64} (h : ofFloat? x = some b) : isFinite x = true :=
  (isFinite_iff x).2 ⟨b, h⟩

/-- The magnitude of a finite number. -/
def size (x : Float) : ℚ := (parts x).size

private theorem size_of_ofFloat? {x : Float} {b : Binary64} (h : ofFloat? x = some b) : size x = b.size := by
  rw [size, parts_of_ofFloat? h]

theorem size_nonneg (x : Float) : 0 ≤ size x := (parts x).size_nonneg

theorem value_zero : zeroParts.value = 0 := abs_eq_zero.1 ((abs_value zeroParts).trans (size_eq_zero.2 rfl))

/-- A finite number whose magnitude is at most a power of two. -/
structure AtMost (k : ℤ) (x : Float) : Prop where
  finite : isFinite x = true
  size_le : size x ≤ 2 ^ k

/-- A finite number whose magnitude is at least a power of two. -/
structure AtLeast (k : ℤ) (x : Float) : Prop where
  finite : isFinite x = true
  le_size : 2 ^ k ≤ size x

/-- A finite number without a sign. -/
structure Unsigned (x : Float) : Prop where
  finite : isFinite x = true
  not_negative : (parts x).negative = false

section Operations

variable {x y : Float} {j k l : ℤ}

theorem AtMost.mono (h : AtMost j x) (hjk : j ≤ k) : AtMost k x :=
  ⟨h.finite, h.size_le.trans (zpow_le_zpow_right₀ one_le_two hjk)⟩

theorem AtLeast.mono (h : AtLeast k x) (hjk : j ≤ k) : AtLeast j x :=
  ⟨h.finite, (zpow_le_zpow_right₀ one_le_two hjk).trans h.le_size⟩

theorem AtLeast.pos (h : AtLeast k x) : 0 < size x := (zpow_pos two_pos k).trans_le h.le_size

/-- What is not zero is at least the least positive number. -/
theorem AtLeast.of_pos (hx : isFinite x = true) (h : 0 < size x) : AtLeast (-1074) x := by
  have hparts := ofFloat?_parts hx
  have hc := canonical_of_ofFloat? hparts
  have hsig : (1 : ℚ) ≤ (parts x).significand := by
    have hne : (parts x).significand ≠ 0 := mt size_eq_zero.2 h.ne'
    exact_mod_cast Nat.pos_of_ne_zero hne
  refine ⟨hx, ?_⟩
  calc (2 : ℚ) ^ (-1074 : ℤ) = 1 * 2 ^ (-1074 : ℤ) := (one_mul _).symm
    _ ≤ (parts x).significand * 2 ^ (parts x).exponent := by
        gcongr
        · exact one_le_two
        · exact hc.exponent_ge

private theorem AtMost.of_rounds {v : ℚ} {c : Binary64} (hx : ofFloat? x = some c) (h : Rounds v c) (hmin : -1074 ≤ k)
    (hlt : v < 2 ^ k) : AtMost k x :=
  ⟨isFinite_of_ofFloat? hx, (size_of_ofFloat? hx).trans_le (h.le hmin hlt)⟩

private theorem AtLeast.of_rounds {v : ℚ} {c : Binary64} (hx : ofFloat? x = some c) (h : Rounds v c) (hmin : -1074 ≤ k)
    (hle : 2 ^ k ≤ v) : AtLeast k x :=
  ⟨isFinite_of_ofFloat? hx, (h.ge hmin hle).trans_eq (size_of_ofFloat? hx).symm⟩

private theorem Unsigned.of_ofFloat? {c : Binary64} (hx : ofFloat? x = some c) (hneg : c.negative = false) :
    Unsigned x :=
  ⟨isFinite_of_ofFloat? hx, by rw [parts_of_ofFloat? hx, hneg]⟩

/-- A number without a sign is that of its magnitude. -/
theorem Unsigned.value_eq (hx : Unsigned x) : (parts x).value = size x := value_of_not_negative hx.not_negative

theorem Unsigned.eq_zero (hx : Unsigned x) (h : size x = 0) : x = zero := by
  refine eq_zero_of_units (ofFloat?_parts hx.finite) ofFloat?_zero hx.not_negative ?_ units_zero
  exact units_eq_zero.2 (size_eq_zero.1 h)

/-! ### Products -/

theorem size_mul_lt (hx : AtMost j x) (hy : AtMost k y) (h : j + k < l) : size x * size y < 2 ^ l := by
  calc size x * size y ≤ 2 ^ j * 2 ^ k :=
        mul_le_mul hx.size_le hy.size_le (size_nonneg y) (by positivity)
    _ = 2 ^ (j + k) := (zpow_add₀ two_ne_zero ..).symm
    _ < 2 ^ l := zpow_lt_zpow_right₀ one_lt_two h

theorem AtMost.mul (hx : AtMost j x) (hy : AtMost k y) (h : j + k < l) (hmin : -1074 ≤ l) (hmax : l ≤ 1023) :
    AtMost l (x * y) := by
  have hlt := size_mul_lt hx hy h
  obtain ⟨c, hc, -, hrounds, -⟩ := ofFloat?_mul (ofFloat?_parts hx.finite) (ofFloat?_parts hy.finite)
    (hlt.trans_le (zpow_le_zpow_right₀ one_le_two hmax))
  exact .of_rounds hc hrounds hmin hlt

theorem AtLeast.mul (hx : AtLeast j x) (hy : AtLeast k y) (h : l ≤ j + k) (hmin : -1074 ≤ l)
    (hsmall : size x * size y < 2 ^ (1023 : ℤ)) : AtLeast l (x * y) := by
  have hle : (2 : ℚ) ^ l ≤ size x * size y := by
    calc (2 : ℚ) ^ l ≤ 2 ^ (j + k) := zpow_le_zpow_right₀ one_le_two h
      _ = 2 ^ j * 2 ^ k := zpow_add₀ two_ne_zero ..
      _ ≤ size x * size y := mul_le_mul hx.le_size hy.le_size (by positivity) (size_nonneg x)
  obtain ⟨c, hc, -, hrounds, -⟩ := ofFloat?_mul (ofFloat?_parts hx.finite) (ofFloat?_parts hy.finite) hsmall
  exact .of_rounds hc hrounds hmin hle

theorem Unsigned.mul_self (hx : AtMost j x) (h : j + j < 1023) : Unsigned (x * x) := by
  obtain ⟨c, hc, hneg, -⟩ := ofFloat?_mul (ofFloat?_parts hx.finite) (ofFloat?_parts hx.finite) (size_mul_lt hx hx h)
  exact .of_ofFloat? hc (by rw [hneg, Bool.xor_self])

/-- A square below half of the least positive number is zero. -/
theorem size_mul_self_eq_zero (hx : isFinite x = true) (h : size x < 2 ^ (-538 : ℤ)) : size (x * x) = 0 := by
  have hlt : size x * size x < 2 ^ (-1075 : ℤ) := by
    calc size x * size x ≤ 2 ^ (-538 : ℤ) * 2 ^ (-538 : ℤ) :=
          mul_le_mul h.le h.le (size_nonneg x) (by positivity)
      _ = 2 ^ (-538 + -538 : ℤ) := (zpow_add₀ two_ne_zero ..).symm
      _ < 2 ^ (-1075 : ℤ) := zpow_lt_zpow_right₀ one_lt_two (by norm_num)
  have hparts := ofFloat?_parts hx
  obtain ⟨c, hc, -, -, hlost⟩ := ofFloat?_mul hparts hparts
    (hlt.trans_le (zpow_le_zpow_right₀ one_le_two (by norm_num)))
  rw [size_of_ofFloat? hc]
  exact hlost hlt

/-! ### Sums and differences -/

private theorem two_zpow_add_lt (hj : j + 1 < l) (hk : k + 1 < l) : (2 : ℚ) ^ j + 2 ^ k < 2 ^ l := by
  calc (2 : ℚ) ^ j + 2 ^ k ≤ 2 ^ (l - 2) + 2 ^ (l - 2) :=
        add_le_add (zpow_le_zpow_right₀ one_le_two (by omega)) (zpow_le_zpow_right₀ one_le_two (by omega))
    _ = 2 ^ (l - 1) := by
        rw [← two_mul, ← zpow_one_add₀ two_ne_zero]
        congr 1
        omega
    _ < 2 ^ l := zpow_lt_zpow_right₀ one_lt_two (by omega)

theorem size_add_lt (hx : AtMost j x) (hy : AtMost k y) (hj : j + 1 < l) (hk : k + 1 < l) :
    size x + size y < 2 ^ l := (add_le_add hx.size_le hy.size_le).trans_lt (two_zpow_add_lt hj hk)

theorem AtMost.add (hx : AtMost j x) (hy : AtMost k y) (hj : j + 1 < l) (hk : k + 1 < l) (hmin : -1074 ≤ l)
    (hmax : l ≤ 1023) : AtMost l (x + y) := by
  have hlt : |(parts x).value + (parts y).value| < 2 ^ l := by
    refine (abs_add_le _ _).trans_lt ?_
    rw [abs_value, abs_value]
    exact size_add_lt hx hy hj hk
  obtain ⟨c, hc, hrounds, -⟩ := ofFloat?_add_rounds (ofFloat?_parts hx.finite) (ofFloat?_parts hy.finite)
    (hlt.trans_le (zpow_le_zpow_right₀ one_le_two hmax))
  exact .of_rounds hc hrounds hmin hlt

theorem AtMost.sub (hx : AtMost j x) (hy : AtMost k y) (hj : j + 1 < l) (hk : k + 1 < l) (hmin : -1074 ≤ l)
    (hmax : l ≤ 1023) : AtMost l (x - y) := by
  have hlt : |(parts x).value - (parts y).value| < 2 ^ l := by
    refine (abs_sub _ _).trans_lt ?_
    rw [abs_value, abs_value]
    exact size_add_lt hx hy hj hk
  obtain ⟨c, hc, hrounds⟩ := ofFloat?_sub_rounds (ofFloat?_parts hx.finite) (ofFloat?_parts hy.finite)
    (hlt.trans_le (zpow_le_zpow_right₀ one_le_two hmax))
  exact .of_rounds hc hrounds hmin hlt

section Unsigned

variable (hx : Unsigned x) (hy : Unsigned y) (hsmall : size x + size y < 2 ^ (1023 : ℤ))

include hx hy hsmall

theorem Unsigned.add_rounds : ∃ c, ofFloat? (x + y) = some c ∧ Rounds (size x + size y) c ∧ c.negative = false := by
  have habs : |(parts x).value + (parts y).value| = size x + size y := by
    rw [hx.value_eq, hy.value_eq]
    exact abs_of_nonneg (add_nonneg (size_nonneg x) (size_nonneg y))
  rw [← habs] at hsmall ⊢
  obtain ⟨c, hc, hrounds, hneg⟩ := ofFloat?_add_rounds (ofFloat?_parts hx.finite) (ofFloat?_parts hy.finite) hsmall
  exact ⟨c, hc, hrounds, hneg hx.not_negative hy.not_negative⟩

theorem Unsigned.add : Unsigned (x + y) := by
  obtain ⟨c, hc, -, hneg⟩ := hx.add_rounds hy hsmall
  exact .of_ofFloat? hc hneg

/-- A sum of numbers without a sign is not below the power of two that one of them reaches. -/
theorem AtLeast.add (hmin : -1074 ≤ k) (h : AtLeast k x ∨ AtLeast k y) : AtLeast k (x + y) := by
  obtain ⟨c, hc, hrounds, -⟩ := hx.add_rounds hy hsmall
  refine .of_rounds hc hrounds hmin ?_
  rcases h with h | h
  · exact h.le_size.trans (le_add_of_nonneg_right (size_nonneg y))
  · exact h.le_size.trans (le_add_of_nonneg_left (size_nonneg x))

end Unsigned

/-! ### Quotients -/

private theorem AtLeast.significand_ne (h : AtLeast k x) : (parts x).significand ≠ 0 := by
  intro hzero
  have hsize : size x = 0 := size_eq_zero.2 hzero
  exact h.pos.ne' hsize

theorem size_div_lt (hx : AtMost j x) (hy : AtLeast k y) (h : j - k < l) : size x / size y < 2 ^ l := by
  calc size x / size y ≤ 2 ^ j / 2 ^ k := div_le_div₀ (by positivity) hx.size_le (by positivity) hy.le_size
    _ = 2 ^ (j - k) := (zpow_sub₀ two_ne_zero ..).symm
    _ < 2 ^ l := zpow_lt_zpow_right₀ one_lt_two h

theorem AtMost.div (hx : AtMost j x) (hy : AtLeast k y) (h : j - k < l) (hmin : -1074 ≤ l) (hmax : l ≤ 1023) :
    AtMost l (x / y) := by
  have hlt := size_div_lt hx hy h
  obtain ⟨c, hc, hrounds⟩ := ofFloat?_div (ofFloat?_parts hx.finite) (ofFloat?_parts hy.finite) hy.significand_ne
    (hlt.trans_le (zpow_le_zpow_right₀ one_le_two hmax))
  exact .of_rounds hc hrounds hmin hlt

theorem AtLeast.div (hx : AtLeast j x) (hy : AtMost k y) (hpos : 0 < size y) (h : l ≤ j - k) (hmin : -1074 ≤ l)
    (hsmall : size x / size y < 2 ^ (1023 : ℤ)) : AtLeast l (x / y) := by
  have hle : (2 : ℚ) ^ l ≤ size x / size y := by
    calc (2 : ℚ) ^ l ≤ 2 ^ (j - k) := zpow_le_zpow_right₀ one_le_two h
      _ = 2 ^ j / 2 ^ k := zpow_sub₀ two_ne_zero ..
      _ ≤ size x / size y := div_le_div₀ (size_nonneg x) hx.le_size hpos hy.size_le
  obtain ⟨c, hc, hrounds⟩ := ofFloat?_div (ofFloat?_parts hx.finite) (ofFloat?_parts hy.finite)
    (mt size_eq_zero.2 hpos.ne') hsmall
  exact .of_rounds hc hrounds hmin hle

/-! ### Square roots -/

theorem AtMost.sqrt (hx : AtMost j x) (hunsigned : Unsigned x) (h : j < k + k) (hmin : -1074 ≤ k) :
    AtMost k x.sqrt := by
  obtain ⟨c, hc, -, hrounds⟩ := ofFloat?_sqrt (ofFloat?_parts hx.finite) hunsigned.not_negative
  refine ⟨isFinite_of_ofFloat? hc, size_of_ofFloat? hc ▸ hrounds.le hmin ?_⟩
  rw [← zpow_add₀ two_ne_zero]
  exact hx.size_le.trans_lt (zpow_lt_zpow_right₀ one_lt_two h)

theorem AtLeast.sqrt (hx : AtLeast j x) (hunsigned : Unsigned x) (h : k + k ≤ j) (hmin : -1074 ≤ k) :
    AtLeast k x.sqrt := by
  obtain ⟨c, hc, -, hrounds⟩ := ofFloat?_sqrt (ofFloat?_parts hx.finite) hunsigned.not_negative
  refine ⟨isFinite_of_ofFloat? hc, size_of_ofFloat? hc ▸ hrounds.ge hmin ?_⟩
  rw [← zpow_add₀ two_ne_zero]
  exact (zpow_le_zpow_right₀ one_le_two h).trans hx.le_size

theorem Unsigned.sqrt (hx : Unsigned x) : Unsigned x.sqrt := by
  obtain ⟨c, hc, hneg, -⟩ := ofFloat?_sqrt (ofFloat?_parts hx.finite) hx.not_negative
  exact .of_ofFloat? hc hneg

/-! ### Signs and order -/

theorem AtMost.neg (hx : AtMost k x) : AtMost k (-x) := by
  have hneg := ofFloat?_neg (ofFloat?_parts hx.finite)
  exact ⟨isFinite_of_ofFloat? hneg, (size_of_ofFloat? hneg).trans_le hx.size_le⟩

theorem AtLeast.not_le_zero (h : AtLeast k x) (hu : Unsigned x) : ¬x ≤ zero := by
  rw [le_iff_value (ofFloat?_parts h.finite) ofFloat?_zero, hu.value_eq, value_zero]
  exact not_le.2 h.pos

/-- A number whose parts can be computed. -/
theorem AtMost.of_parts
    (h : ∃ b ∈ ofFloat? x, b.exponent ≤ k ∧ b.significand ≤ 2 ^ (k - b.exponent).toNat) : AtMost k x := by
  obtain ⟨b, hb, hk, hle⟩ := h
  exact ⟨isFinite_of_ofFloat? hb, (size_of_ofFloat? hb).trans_le ((mul_le_two_zpow hk).2 hle)⟩

theorem AtLeast.of_parts
    (h : ∃ b ∈ ofFloat? x, b.exponent ≤ k ∧ 2 ^ (k - b.exponent).toNat ≤ b.significand) : AtLeast k x := by
  obtain ⟨b, hb, hk, hle⟩ := h
  exact ⟨isFinite_of_ofFloat? hb, ((two_zpow_le_mul hk).2 hle).trans_eq (size_of_ofFloat? hb).symm⟩

/-- Every finite number is below a power of two. -/
theorem AtMost.of_isFinite (hx : isFinite x = true) : AtMost 1024 x :=
  ⟨hx, (canonical_of_ofFloat? (ofFloat?_parts hx)).size_lt.le⟩

section Between

variable {c : Float} {b : Binary64} (hc : ofFloat? c = some b) (hvalue : b.value = 2 ^ k)

include hc hvalue

theorem AtMost.le (h : AtMost k x) : x ≤ c := by
  rw [le_iff_value (ofFloat?_parts h.finite) hc, hvalue]
  exact (le_abs_self _).trans ((abs_value _).trans_le h.size_le)

/-- What lies between a power of two and its opposite. -/
private theorem AtMost.of_le (hx : isFinite x = true) (hlow : -c ≤ x) (hhigh : x ≤ c) : AtMost k x := by
  have hparts := ofFloat?_parts hx
  rw [le_iff_value (ofFloat?_neg hc) hparts, value_opposite, hvalue] at hlow
  rw [le_iff_value hparts hc, hvalue] at hhigh
  refine ⟨hx, ?_⟩
  rw [size, ← abs_value, abs_le]
  exact ⟨hlow, hhigh⟩

/-- What lies between a number and a power of two. -/
theorem AtMost.of_le_of_le (h : AtMost k x) (hy : isFinite y = true) (hlow : x ≤ y) (hhigh : y ≤ c) : AtMost k y := by
  refine .of_le hc hvalue hy ?_ hhigh
  have hparts := ofFloat?_parts hy
  rw [le_iff_value (ofFloat?_parts h.finite) hparts] at hlow
  rw [le_iff_value (ofFloat?_neg hc) hparts, value_opposite, hvalue]
  have hsize : |(parts x).value| ≤ 2 ^ k := (abs_value _).trans_le h.size_le
  exact (abs_le.1 hsize).1.trans hlow

end Between

end Operations

/-- The absolute value is at most a number exactly if that number and its opposite enclose what it is taken of. -/
theorem abs_le_iff {x c : Float} {b : Binary64} (hx : isFinite x = true) (hc : ofFloat? c = some b)
    (hb : 0 ≤ b.value) : Scalar.abs x ≤ c ↔ -c ≤ x ∧ x ≤ c := by
  have hparts := ofFloat?_parts hx
  have hvalue := (canonical_of_ofFloat? hparts).value_eq
  rw [le_iff_value (ofFloat?_neg hc) hparts, le_iff_value hparts hc, value_opposite, abs_eq]
  split
  · rename_i hle
    rw [le_iff_value hparts ofFloat?_zero, value_zero] at hle
    by_cases h0 : (parts x).units = 0
    · rw [zero_sub_zero hparts h0, le_iff_value ofFloat?_zero hc, value_zero]
      rw [h0, Int.cast_zero, zero_mul] at hvalue
      rw [hvalue]
      constructor
      · exact fun _ => ⟨neg_nonpos.2 hb, hb⟩
      · exact fun _ => hb
    · -- the difference that turns a negative number round is exact
      have hunits : (parts x).opposite.units ≠ 0 := by
        rw [units_opposite]
        exact neg_ne_zero.2 h0
      have hneg : zero - x = -x := by
        rw [← zero_sub_neg (ofFloat?_neg hparts) hunits, neg_neg hx]
      rw [hneg, le_iff_value (ofFloat?_neg hparts) hc, value_opposite]
      constructor
      · exact fun h => ⟨neg_le.1 h, hle.trans hb⟩
      · exact fun h => neg_le.1 h.1
  · rename_i hlt
    rw [le_iff_value hparts ofFloat?_zero, value_zero, not_le] at hlt
    rw [le_iff_value hparts hc]
    exact (and_iff_right ((neg_nonpos.2 hb).trans hlt.le)).symm

/-- Clamped to what lies between minus one and one. -/
theorem clamp_unit {x : Float} (hx : isFinite x = true) : isFinite (clamp (-one) one x) = true ∧
    -one ≤ clamp (-one) one x ∧ clamp (-one) one x ≤ one := by
  have hparts := ofFloat?_parts hx
  have hone := ofFloat?_one
  -- an undefined number passes both comparisons and is within neither bound
  have hlt (h : ¬x < -one) : -one ≤ x := by
    rw [lt_iff hparts (ofFloat?_neg hone)] at h
    exact (le_iff (ofFloat?_neg hone) hparts).2 (not_lt.1 h)
  have hgt (h : ¬one < x) : x ≤ one := by
    rw [lt_iff hone hparts] at h
    exact (le_iff hparts hone).2 (not_lt.1 h)
  unfold clamp
  split
  · decide +kernel
  · split
    · decide +kernel
    · exact ⟨hx, hlt ‹_›, hgt ‹_›⟩

end EquatorialMount.Float64
