import EquatorialMount.Proofs.Binary64.Library
import EquatorialMount.Proofs.Sphere.Ends
import EquatorialMount.Report

/-!
# Axes that come out

With a library that keeps to its ranges no step from three finite samples to their axis overflows, and the squares of a
normal underflow together with the normal or not at all.  So the axis is either the zero vector or a finite one that
carries a direction (`Samples.rotationAxis_cases`).
-/

namespace EquatorialMount

open Binary64 Float64 Scalar

variable {lib : Library} {j k l : ℤ}

namespace Vec3

variable {v w : Vec3 (WithLibrary lib)}

/-! ### Vectors between powers of two -/

/-- Every coordinate is at most a power of two. -/
structure Within (k : ℤ) (v : Vec3 (WithLibrary lib)) : Prop where
  x : AtMost k v.x
  y : AtMost k v.y
  z : AtMost k v.z

/-- Some coordinate is at least a power of two. -/
def Reaches (k : ℤ) (v : Vec3 (WithLibrary lib)) : Prop := AtLeast k v.x ∨ AtLeast k v.y ∨ AtLeast k v.z

theorem Within.isFinite (h : Within k v) : v.isFinite = true := by
  simp only [Vec3.isFinite, Bool.and_eq_true]
  exact ⟨⟨h.x.finite, h.y.finite⟩, h.z.finite⟩

theorem Within.sub (hv : Within j v) (hw : Within j w) (h : j + 1 < l) (hmin : -1074 ≤ l) (hmax : l ≤ 1023) :
    Within l (v.sub w) :=
  ⟨hv.x.sub hw.x h h hmin hmax, hv.y.sub hw.y h h hmin hmax, hv.z.sub hw.z h h hmin hmax⟩

theorem Within.cross (hv : Within j v) (hw : Within j w) (h : 2 * j + 2 < l) (hmin : -1074 ≤ 2 * j + 1)
    (hmax : l ≤ 1023) : Within l (v.cross w) := by
  have hmul {a b : Float} (ha : AtMost j a) (hb : AtMost j b) : AtMost (2 * j + 1) (a * b) :=
    ha.mul hb (by omega) hmin (by omega)
  have hsub {a b : Float} (ha : AtMost (2 * j + 1) a) (hb : AtMost (2 * j + 1) b) : AtMost l (a - b) :=
    ha.sub hb (by omega) (by omega) (by omega) hmax
  exact ⟨hsub (hmul hv.y hw.z) (hmul hv.z hw.y), hsub (hmul hv.z hw.x) (hmul hv.x hw.z),
    hsub (hmul hv.x hw.y) (hmul hv.y hw.x)⟩

/-! ### Lengths -/

section Length

variable (h : Within j v) (hmin : -1074 ≤ 2 * j + 1) (hmax : 2 * j + 5 ≤ 1023)

include h hmin hmax

/-- The squares of the coordinates and their sum: their bound, and that no square gets lost in the sum. -/
theorem Within.dot_self : AtMost (2 * j + 5) (v.dot v) ∧ Unsigned (v.dot v) ∧
    ∀ {k}, -1074 ≤ k → AtLeast k (v.x * v.x) ∨ AtLeast k (v.y * v.y) ∨ AtLeast k (v.z * v.z) → AtLeast k (v.dot v) := by
  have hmul {a : Float} (ha : AtMost j a) : AtMost (2 * j + 1) (a * a) ∧ Unsigned (a * a) :=
    ⟨ha.mul ha (by omega) hmin (by omega), .mul_self ha (by omega)⟩
  -- squares have no sign, so nothing cancels in their sum
  obtain ⟨hx, hxu⟩ := hmul h.x
  obtain ⟨hy, hyu⟩ := hmul h.y
  obtain ⟨hz, hzu⟩ := hmul h.z
  have hxy := hx.add hy (l := 2 * j + 3) (by omega) (by omega) (by omega) (by omega)
  have hsmall := (size_add_lt hx hy (l := 1023) (by omega) (by omega))
  have hsmall' := (size_add_lt hxy hz (l := 1023) (by omega) (by omega))
  have hxyu := hxu.add hyu hsmall
  refine ⟨hxy.add hz (by omega) (by omega) (by omega) hmax, hxyu.add hzu hsmall', fun hk hreaches => ?_⟩
  refine .add hxyu hzu hsmall' hk ?_
  rcases hreaches with hr | hr | hr
  · exact .inl (.add hxu hyu hsmall hk (.inl hr))
  · exact .inl (.add hxu hyu hsmall hk (.inr hr))
  · exact .inr hr

theorem Within.length {m : ℤ} (hm : 2 * j + 5 < m + m) (hmin' : -1074 ≤ m) : AtMost m v.length :=
  (h.dot_self hmin hmax).1.sqrt (h.dot_self hmin hmax).2.1 hm hmin'

theorem Reaches.length (hr : Reaches k v) (hk : -537 ≤ k) : AtLeast k v.length := by
  have hsquare {a : Float} (ha : AtMost j a) (hle : AtLeast k a) : AtLeast (k + k) (a * a) :=
    hle.mul hle le_rfl (by omega) (size_mul_lt ha ha (by omega))
  obtain ⟨-, hunsigned, hreaches⟩ := h.dot_self hmin hmax
  refine (hreaches (by omega) ?_).sqrt hunsigned le_rfl (by omega)
  exact hr.imp (hsquare h.x) (Or.imp (hsquare h.y) (hsquare h.z))

end Length

/-- A vector with a coordinate that does not get lost when it is squared carries a direction. -/
theorem Reaches.checkDetermined (h : Within j v) (hmin : -1074 ≤ 2 * j + 1) (hmax : 2 * j + 5 ≤ 1023)
    (hr : Reaches k v) (hk : -537 ≤ k) : v.checkDetermined = .ok v := by
  refine checkDetermined_ok_iff.2 ⟨rfl, h.isFinite, decide_eq_false ?_⟩
  exact (hr.length h hmin hmax hk).not_le_zero (h.dot_self hmin hmax).2.1.sqrt

/-! ### Normals -/

/-- The squares of small numbers vanish. -/
private theorem isZero_dot_self (h : v.isFinite = true) (hx : size v.x < 2 ^ (-538 : ℤ))
    (hy : size v.y < 2 ^ (-538 : ℤ)) (hz : size v.z < 2 ^ (-538 : ℤ)) : isZero (v.dot v) = true := by
  simp only [Vec3.isFinite, Bool.and_eq_true] at h
  have hsquare {a : Float} (ha : Scalar.isFinite a = true) (hsmall : size a < 2 ^ (-538 : ℤ)) :
      a * a = (Scalar.zero : Float) := by
    have hle : AtMost (-538) a := ⟨ha, hsmall.le⟩
    exact (Unsigned.mul_self hle (by norm_num)).eq_zero (size_mul_self_eq_zero ha hsmall)
  have hsum {a b c : Float} (ha : a = Scalar.zero) (hb : b = Scalar.zero) (hc : c = Scalar.zero) :
      isZero (a + b + c) = true := by
    rw [ha, hb, hc]
    decide +kernel
  exact hsum (hsquare h.1.1 hx) (hsquare h.1.2 hy) (hsquare h.2 hz)

/-- The power of two next to the greatest coordinate. -/
private theorem exists_scale (h : v.isFinite = true) (hdot : isZero (v.dot v) = false) :
    ∃ m : ℤ, -538 ≤ m ∧ Within (m + 1) v ∧ Reaches m v := by
  have hfinite := h
  simp only [Vec3.isFinite, Bool.and_eq_true] at hfinite
  have hbig : (2 : ℚ) ^ (-538 : ℤ) ≤ max (max (size v.x) (size v.y)) (size v.z) := by
    by_contra hlt
    simp only [not_le, max_lt_iff] at hlt
    exact Bool.false_ne_true (hdot.symm.trans (isZero_dot_self h hlt.1.1 hlt.1.2 hlt.2))
  obtain ⟨m, hle, hlt⟩ := exists_mem_Ico_zpow ((zpow_pos two_pos _).trans_le hbig) (one_lt_two (α := ℚ))
  have hm : -538 < m + 1 := (zpow_lt_zpow_iff_right₀ one_lt_two).1 (hbig.trans_lt hlt)
  simp only [max_lt_iff] at hlt
  simp only [le_max_iff] at hle
  refine ⟨m, by omega, ⟨⟨hfinite.1.1, hlt.1.1.le⟩, ⟨hfinite.1.2, hlt.1.2.le⟩, ⟨hfinite.2, hlt.2.le⟩⟩, ?_⟩
  rcases hle with (hx | hy) | hz
  · exact .inl ⟨hfinite.1.1, hx⟩
  · exact .inr (.inl ⟨hfinite.1.2, hy⟩)
  · exact .inr (.inr ⟨hfinite.2, hz⟩)

/-- The length of a vector is about its greatest coordinate, even one whose square vanishes. -/
private theorem length_of_scale {m : ℤ} (hdot : isZero (v.dot v) = false) (hm : -538 ≤ m) (hmax : m ≤ 500)
    (h : Within (m + 1) v) (hr : Reaches m v) : AtMost (m + 4) v.length ∧ AtLeast m v.length := by
  have hmin : -1074 ≤ 2 * (m + 1) + 1 := by omega
  refine ⟨h.length hmin (by omega) (by omega) (by omega), ?_⟩
  by_cases hsquare : -537 ≤ m
  · exact hr.length h hmin (by omega) hsquare
  · -- no square is sure to be left of the greatest coordinate, but the sum is not zero
    obtain ⟨hle, hunsigned, -⟩ := h.dot_self hmin (by omega)
    have hpos : 0 < size (v.dot v) := by
      refine lt_of_le_of_ne (Float64.size_nonneg _) fun hzero => Bool.false_ne_true (hdot.symm.trans ?_)
      have hisZero : isZero (Scalar.zero : Float) = true := by decide +kernel
      rw [hunsigned.eq_zero hzero.symm]
      exact hisZero
    exact ((AtLeast.of_pos hle.finite hpos).sqrt hunsigned (k := -537) (by norm_num) (by norm_num)).mono (by omega)

/-- A normal that does not count as zero is scaled to about one. -/
private theorem divideBy_length (h : Within 9 v) (hdot : isZero (v.dot v) = false) :
    Within 2 (v.divideBy v.length) ∧ Reaches (-4) (v.divideBy v.length) := by
  obtain ⟨m, hm, hwithin, hreaches⟩ := exists_scale h.isFinite hdot
  -- the coordinates are bounded, so the scale is, and no square overflows
  have hmax : m ≤ 9 := by
    have hle {a : Float} (hlow : AtLeast m a) (hhigh : AtMost 9 a) : m ≤ 9 :=
      (zpow_le_zpow_iff_right₀ one_lt_two).1 (hlow.le_size.trans hhigh.size_le)
    exact hreaches.elim (hle · h.x) fun hyz => hyz.elim (hle · h.y) (hle · h.z)
  obtain ⟨hlength, hlength'⟩ := length_of_scale hdot hm (by omega) hwithin hreaches
  have hdiv {a d : Float} (ha : AtMost (m + 1) a) (hd : AtLeast m d) : AtMost 2 (a / d) :=
    ha.div hd (by omega) (by norm_num) (by norm_num)
  have hdiv' {a d : Float} (ha : AtMost (m + 1) a) (hr : AtLeast m a) (hd : AtMost (m + 4) d) (hd' : AtLeast m d) :
      AtLeast (-4) (a / d) :=
    hr.div hd hd'.pos (by omega) (by norm_num) (size_div_lt ha hd' (by omega))
  refine ⟨⟨hdiv hwithin.x hlength', hdiv hwithin.y hlength', hdiv hwithin.z hlength'⟩, ?_⟩
  rcases hreaches with hr | hr | hr
  · exact .inl (hdiv' hwithin.x hr hlength hlength')
  · exact .inr (.inl (hdiv' hwithin.y hr hlength hlength'))
  · exact .inr (.inr (hdiv' hwithin.z hr hlength hlength'))

/-- Points within the unit sphere span a normal that counts as zero or can be scaled to about one. -/
private theorem planeNormal_cases {a b c : Vec3 (WithLibrary lib)} (ha : Within 1 a) (hb : Within 1 b)
    (hc : Within 1 c) :
    planeNormal a b c = zero ∨ Within 2 (planeNormal a b c) ∧ Reaches (-4) (planeNormal a b c) := by
  have hab : Within 3 (b.sub a) := hb.sub ha (by norm_num) (by norm_num) (by norm_num)
  have hbc : Within 3 (c.sub b) := hc.sub hb (by norm_num) (by norm_num) (by norm_num)
  have hn : Within 9 (spannedNormal a b c) := hab.cross hbc (by norm_num) (by norm_num) (by norm_num)
  unfold planeNormal
  dsimp only
  split
  · exact .inl rfl
  · rename_i hdot
    exact .inr (divideBy_length hn (Bool.eq_false_iff.2 hdot))

end Vec3

namespace AnglePair

open Vec3 (Within Reaches)

variable (hlib : lib.Accurate) {p : AnglePair (WithLibrary lib)}

/-! ### Pairs -/

theorem checkFinite_ok_iff : p.checkFinite = .ok () ↔ isFinite p.primary = true ∧ isFinite p.secondary = true := by
  rw [← Bool.and_eq_true]
  unfold checkFinite
  split <;> simp_all

private theorem isFinite_radians {x : Float} (hx : isFinite x = true) : isFinite (Trig.radians x) = true := by
  have hconstant : AtMost (-5) (Trig.radiansPerDegree : Float) := .of_parts (by decide +kernel)
  exact ((AtMost.of_isFinite hx).mul hconstant (l := 1020) (by norm_num) (by norm_num) (by norm_num)).finite

private theorem atMost_degrees {x : Float} (hx : AtMost k x) (hmin : -1074 ≤ k) (hmax : k ≤ 100) :
    AtMost (k + 7) (Trig.degrees x) := by
  have hconstant : AtMost 6 (Trig.degreesPerRadian : Float) := .of_parts (by decide +kernel)
  exact hx.mul hconstant (by omega) (by omega) (by omega)

include hlib

/-- The direction of a finite pair is on the unit sphere, roughly. -/
private theorem direction_within (hp : p.checkFinite = .ok ()) : Within 1 p.direction ∧ Reaches (-2) p.direction := by
  obtain ⟨hprimary, hsecondary⟩ := checkFinite_ok_iff.1 hp
  have hh := isFinite_radians hprimary
  have hd := isFinite_radians hsecondary
  have hmul {a b : Float} (ha : AtMost 0 a) (hb : AtMost 0 b) : AtMost 1 (a * b) :=
    ha.mul hb (by norm_num) (by norm_num) (by norm_num)
  have hmul' {a b : Float} (ha : AtMost 0 a) (hb : AtMost 0 b) (ha' : AtLeast (-1) a) (hb' : AtLeast (-1) b) :
      AtLeast (-2) (a * b) := ha'.mul hb' (by norm_num) (by norm_num) (size_mul_lt ha hb (by norm_num))
  refine ⟨⟨hmul (hlib.cos_atMost hd) (hlib.cos_atMost hh), hmul (hlib.cos_atMost hd) (hlib.sin_atMost hh),
    (hlib.sin_atMost hd).mono (by norm_num)⟩, ?_⟩
  rcases hlib.sin_or_cos hd with hsin | hcos
  · exact .inr (.inr (hsin.mono (by norm_num)))
  · rcases hlib.sin_or_cos hh with hsin | hcos'
    · exact .inr (.inl (hmul' (hlib.cos_atMost hd) (hlib.sin_atMost hh) hcos hsin))
    · exact .inl (hmul' (hlib.cos_atMost hd) (hlib.cos_atMost hh) hcos hcos')

/-- Rounding up stays below a power of two. -/
private theorem ceil_atMost {x : Float} (hx : AtMost 6 x) : AtMost 6 (lib.ceil x) := by
  have hbound : ofFloat? (ofNat 64 : Float) = some ⟨false, 2 ^ 52, -46⟩ := by decide +kernel
  have hvalue : Binary64.value ⟨false, 2 ^ 52, -46⟩ = 2 ^ (6 : ℤ) := by
    norm_num [Binary64.value, Binary64.size]
  have hhigh : lib.ceil x ≤ (ofNat 64 : Float) := hlib.ceil_le hx.finite (hx.le hbound hvalue)
  exact hx.of_le_of_le hbound hvalue (hlib.isFinite_ceil hx.finite) (hlib.le_ceil hx.finite) hhigh

private theorem ofDirection_atMost {v : Vec3 (WithLibrary lib)} (hv : v.isFinite = true) :
    AtMost 9 (ofDirection v).primary ∧ AtMost 8 (ofDirection v).secondary := by
  simp only [Vec3.isFinite, Bool.and_eq_true] at hv
  obtain ⟨hfinite, hlow, hhigh⟩ := clamp_unit (hv.2 : Scalar.isFinite (v.z : Float) = true)
  exact ⟨atMost_degrees (hlib.atan2_atMost hv.1.2 hv.1.1) (by norm_num) (by norm_num),
    atMost_degrees (hlib.asin_atMost hfinite hlow hhigh) (by norm_num) (by norm_num)⟩

/-- The other end of an axis has finite angles. -/
private theorem opposite_ofDirection_finite {v : Vec3 (WithLibrary lib)} (hv : v.isFinite = true) :
    (ofDirection v).opposite.checkFinite = .ok () := by
  obtain ⟨hprimary, hsecondary⟩ := ofDirection_atMost hlib hv
  have hhalf : AtMost 8 (halfTurn : Float) := .of_parts (by decide +kernel)
  have hfull : AtMost 9 (fullTurn : Float) := .of_parts (by decide +kernel)
  have hfull' : AtLeast 8 (fullTurn : Float) := .of_parts (by decide +kernel)
  -- the bounds are rough, but each step is far from overflow
  have hturned {x : Float} (hx : AtMost 9 x) : AtMost 11 (x + halfTurn) :=
    hx.add hhalf (by norm_num) (by norm_num) (by norm_num) (by norm_num)
  have hturns {x : Float} (hx : AtMost 11 x) : AtMost 6 ((x - halfTurn) / fullTurn) :=
    (hx.sub hhalf (l := 13) (by norm_num) (by norm_num) (by norm_num) (by norm_num)).div hfull' (by norm_num)
      (by norm_num) (by norm_num)
  have hwhole {x : Float} (hx : AtMost 6 x) : AtMost 16 (fullTurn * lib.ceil x) :=
    hfull.mul (ceil_atMost hlib hx) (by norm_num) (by norm_num) (by norm_num)
  have hfolded {x : Float} (hx : AtMost 11 x) : AtMost 18 (x - fullTurn * lib.ceil ((x - halfTurn) / fullTurn)) :=
    hx.sub (hwhole (hturns hx)) (by norm_num) (by norm_num) (by norm_num) (by norm_num)
  exact checkFinite_ok_iff.2 ⟨(hfolded (hturned hprimary)).finite, hsecondary.neg.finite⟩

end AnglePair

/-! ### The axis of samples -/

namespace Samples

theorem checkFinite_ok_iff {s : Samples (WithLibrary lib)} :
    s.checkFinite = .ok () ↔ ∀ p ∈ s.toList, p.checkFinite = .ok () := by
  simp only [toList, List.forall_mem_cons]
  unfold checkFinite
  cases s.first.checkFinite <;> cases s.second.checkFinite <;> simp [bind, Except.bind]

/-- Three finite samples have either no axis or a finite one that carries a direction. -/
theorem rotationAxis_cases (hlib : lib.Accurate) {s : Samples (WithLibrary lib)} (hs : s.checkFinite = .ok ()) :
    s.rotationAxis = .zero ∨ s.rotationAxis.Within 2 ∧ s.rotationAxis.Reaches (-4) := by
  have hdirection {p : AnglePair (WithLibrary lib)} (hp : p ∈ s.toList) : p.direction.Within 1 :=
    (AnglePair.direction_within hlib (checkFinite_ok_iff.1 hs p hp)).1
  exact Vec3.planeNormal_cases (hdirection (by simp [toList])) (hdirection (by simp [toList]))
    (hdirection (by simp [toList]))

end Samples

/-- Whichever end of an axis is reported on, it is finite and carries a direction. -/
theorem Report.oriented_checkDetermined (hlib : lib.Accurate) {axis : Vec3 (WithLibrary lib)} (h : axis.Within 2)
    (hr : axis.Reaches (-4)) (north : Bool) :
    (oriented axis north).1.checkDetermined = .ok (oriented axis north).1 := by
  unfold oriented
  dsimp only
  split
  · -- the other end is worked out anew from its angles
    obtain ⟨hwithin, hreaches⟩ :=
      AnglePair.direction_within hlib (AnglePair.opposite_ofDirection_finite hlib h.isFinite)
    exact hreaches.checkDetermined hwithin (by norm_num) (by norm_num) (by norm_num)
  · exact hr.checkDetermined h (by norm_num) (by norm_num) (by norm_num)

end EquatorialMount
