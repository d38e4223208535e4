import Mathlib.Algebra.Order.ToIntervalMod
import Mathlib.Tactic.Linarith
import EquatorialMount.Angle
import EquatorialMount.Proofs.Exact.Number

/-!
# Wrapping exact angles

Over exact numbers the remainder of a positive modulus is the interval remainder of an ordered group.  So `circular`
and `signed` pick the one representative of an angle modulo a whole turn that lies in their range, and two angles have
the same wrapped angle exactly if they are congruent modulo 360.
-/

namespace EquatorialMount

namespace Angle

open AddCommGroup Scalar

/-! ### Congruence -/

section Congruence

variable {K : Type} [Field K]

theorem modEq_iff {x y : K} : x ≡ y [PMOD 360] ↔ ∃ n : ℤ, x = y + n * 360 := by
  rw [modEq_comm, modEq_iff_zsmul']
  simp only [zsmul_eq_mul, sub_eq_iff_eq_add']

/-- The half turn of a flip, if there is one. -/
def flipTurn (flipped : Bool) : K := if flipped then 180 else 0

theorem flipTurn_add_flipTurn (a b : Bool) : (flipTurn a + flipTurn b : K) ≡ flipTurn (a ^^ b) [PMOD 360] := by
  cases a <;> cases b <;> simp [flipTurn]
  exact modEq_iff.2 ⟨1, by norm_num⟩

theorem flipTurn_modEq_neg (a : Bool) : (flipTurn a : K) ≡ -flipTurn a [PMOD 360] := by
  cases a
  · simp [flipTurn]
  · exact modEq_iff.2 ⟨1, by simp [flipTurn]; norm_num⟩

end Congruence

/-! ### The remainder -/

section Remainder

variable {K : Type} [Field K] [LinearOrder K] [FloorRing K]

theorem checkFinite_eq (role : AngleRole) (x : K) : checkFinite role x = .ok x := rfl

theorem fold_eq (x : K) : fold x = if 180 < x then x - 360 else x := by
  rw [fold, halfTurn_eq, fullTurn_eq]

/-- Folding takes off at most one turn. -/
theorem fold_modEq (x : K) : fold x ≡ x [PMOD 360] := by
  rw [fold_eq]
  split
  · exact modEq_iff_zsmul.2 ⟨1, by simp⟩
  · rfl

theorem truncRem_modEq (x m : K) : truncRem x m ≡ x [PMOD m] := by
  rw [truncRem_eq]
  split
  · exact modEq_iff_zsmul.2 ⟨⌊x / m⌋, by rw [zsmul_eq_mul]; ring⟩
  · exact modEq_iff_zsmul.2 ⟨⌈x / m⌉, by rw [zsmul_eq_mul]; ring⟩

variable [IsStrictOrderedRing K]

theorem abs_truncRem_lt (x : K) {m : K} (hm : 0 < m) : |truncRem x m| < m := by
  have e (q : K) : x - m * q = m * (x / m - q) := by
    rw [mul_sub, mul_div_cancel₀ x hm.ne']
  have h : |x / m - (if 0 ≤ x / m then (⌊x / m⌋ : K) else ⌈x / m⌉)| < 1 := by
    rw [abs_lt]
    split
    · have h1 := Int.floor_le (x / m)
      have h2 := Int.lt_floor_add_one (x / m)
      constructor <;> linarith
    · have h1 := Int.le_ceil (x / m)
      have h2 := Int.ceil_lt_add_one (x / m)
      constructor <;> linarith
  rw [truncRem_eq, e, abs_mul, abs_of_pos hm]
  exact mul_lt_of_lt_one_right hm h

/-- What is less than the modulus, either way, is its own remainder. -/
theorem truncRem_of_lt {x m : K} (hm : 0 < m) (h : |x| < m) : truncRem x m = x := by
  have hquotient : |x / m| < 1 := by
    rwa [abs_div, abs_of_pos hm, div_lt_one hm]
  obtain ⟨hlo, hhi⟩ := abs_lt.1 hquotient
  rw [truncRem_eq]
  split
  · rw [Int.floor_eq_zero_iff.2 ⟨‹_›, hhi⟩, Int.cast_zero, mul_zero, sub_zero]
  · rw [Int.ceil_eq_zero_iff.2 ⟨hlo, (not_le.1 ‹_›).le⟩, Int.cast_zero, mul_zero, sub_zero]

theorem truncRem_neg (x m : K) : truncRem (-x) m = -truncRem x m := by
  have hquotient : (if 0 ≤ -(x / m) then (⌊-(x / m)⌋ : K) else ⌈-(x / m)⌉) =
      -(if 0 ≤ x / m then (⌊x / m⌋ : K) else ⌈x / m⌉) := by
    obtain h | h | h := lt_trichotomy (x / m) 0
    · rw [if_pos (by linarith), if_neg (by linarith), Int.floor_neg, Int.cast_neg]
    · rw [h]
      simp
    · rw [if_neg (by linarith), if_pos h.le, Int.ceil_neg, Int.cast_neg]
  rw [truncRem_eq, truncRem_eq, neg_div, hquotient]
  ring

/-- The remainder of whole multiples of a unit is a remainder of whole numbers. -/
theorem truncRem_natCast_mul (m n : ℕ) {u : ℚ} (hu : 0 < u) : truncRem (m * u) (n * u) = (m % n : ℕ) * u := by
  have hmod : ((m % n : ℕ) : ℚ) = m - n * (m / n : ℕ) := by
    rw [eq_sub_iff_add_eq]
    exact_mod_cast Nat.mod_add_div m n
  have hfloor : ⌊(m / n : ℚ)⌋ = (m / n : ℕ) := Rat.floor_natCast_div_natCast m n
  rw [truncRem_eq, mul_div_mul_right _ _ hu.ne', if_pos (by positivity), hfloor, hmod, Int.cast_natCast]
  ring

theorem floorRem_eq (x : K) {m : K} (hm : 0 < m) : floorRem x m = toIcoMod hm 0 x := by
  have hr := abs_lt.1 (abs_truncRem_lt x hm)
  have hx := truncRem_modEq x m
  -- a representative of `x` in `[0, m)` is the remainder
  have key {c : K} (h0 : 0 ≤ c) (hlt : c < m) (hc : c ≡ x [PMOD m]) : c = toIcoMod hm 0 x := by
    rw [← (toIcoMod_inj hm).2 hc]
    exact ((toIcoMod_eq_self hm).2 ⟨h0, by rwa [zero_add]⟩).symm
  unfold floorRem
  simp only [isZero_iff, zero_eq]
  split_ifs with h0 hneg
  · rw [h0] at hx
    exact key le_rfl hm hx
  · refine key (by linarith [hr.1]) (by linarith) ?_
    exact (modEq_iff_zsmul.2 ⟨-1, by simp⟩ : truncRem x m + m ≡ truncRem x m [PMOD m]).trans hx
  · exact key (not_lt.1 hneg) hr.2 hx

end Remainder

variable {K : Type} [Field K] [LinearOrder K] [IsStrictOrderedRing K] [FloorRing K]

theorem turn_pos : (0 : K) < 360 := by
  norm_num

theorem circular_eq (x : K) : circular x = toIcoMod turn_pos 0 x := by
  have h := toIcoMod_lt_right turn_pos 0 x
  rw [zero_add] at h
  rw [circular, fullTurn_eq, floorRem_eq x turn_pos]
  exact if_neg (not_le.2 h)

theorem signed_eq (x : K) : signed x = toIocMod turn_pos (-180) x := by
  have hm := toIcoMod_mem_Ico' turn_pos x
  have hx : x = toIcoMod turn_pos 0 x + toIcoDiv turn_pos 0 x • 360 :=
    (toIcoMod_add_toIcoDiv_zsmul turn_pos 0 x).symm
  rw [signed, circular_eq, halfTurn_eq, fullTurn_eq]
  symm
  rw [toIocMod_eq_iff]
  split_ifs with h
  · refine ⟨⟨by linarith, by linarith [hm.2]⟩, toIcoDiv turn_pos 0 x + 1, ?_⟩
    rw [add_smul, one_smul]
    linarith
  · exact ⟨⟨by linarith [hm.1], by linarith⟩, _, hx⟩

/-! ### Representatives -/

theorem circular_modEq (x : K) : circular x ≡ x [PMOD 360] := by
  rw [circular_eq]
  exact modEq_iff_zsmul'.2 ⟨_, self_sub_toIcoMod turn_pos 0 x⟩

theorem signed_modEq (x : K) : signed x ≡ x [PMOD 360] := by
  rw [signed_eq]
  exact modEq_iff_zsmul'.2 ⟨_, self_sub_toIocMod turn_pos (-180) x⟩

theorem circular_mem (x : K) : circular x ∈ Set.Ico 0 360 := by
  rw [circular_eq]
  exact toIcoMod_mem_Ico' turn_pos x

theorem signed_mem (x : K) : signed x ∈ Set.Ioc (-180) 180 := by
  have h := toIocMod_mem_Ioc turn_pos (-180) x
  rw [signed_eq]
  norm_num at h
  exact h

theorem circular_inj {x y : K} : circular x = circular y ↔ x ≡ y [PMOD 360] := by
  rw [circular_eq, circular_eq]
  exact toIcoMod_inj turn_pos

theorem signed_inj {x y : K} : signed x = signed y ↔ x ≡ y [PMOD 360] := by
  rw [signed_eq, signed_eq, modEq_iff_zsmul']
  exact toIocMod_eq_toIocMod turn_pos

theorem signed_of_mem {x : K} (h : x ∈ Set.Ioc (-180) 180) : signed x = x := by
  rw [signed_eq, toIocMod_eq_self]
  norm_num
  exact h

private theorem circular_of_mem {x : K} (h : x ∈ Set.Ico 0 360) : circular x = x := by
  rw [circular_eq, toIcoMod_eq_self, zero_add]
  exact h

theorem eq_signed_iff {x y : K} : y = signed x ↔ y ∈ Set.Ioc (-180) 180 ∧ y ≡ x [PMOD 360] := by
  constructor
  · rintro rfl
    exact ⟨signed_mem x, signed_modEq x⟩
  · rintro ⟨h, hx⟩
    rw [← signed_of_mem h]
    exact signed_inj.2 hx

theorem eq_circular_iff {x y : K} : y = circular x ↔ y ∈ Set.Ico 0 360 ∧ y ≡ x [PMOD 360] := by
  constructor
  · rintro rfl
    exact ⟨circular_mem x, circular_modEq x⟩
  · rintro ⟨h, hx⟩
    rw [← circular_of_mem h]
    exact circular_inj.2 hx

end Angle

end EquatorialMount
