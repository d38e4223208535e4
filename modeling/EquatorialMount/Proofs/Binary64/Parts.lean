import Mathlib.Tactic.Linarith
import Mathlib.Tactic.Ring
import EquatorialMount.Binary64

/-!
# The parts of a binary64 number

A finite number is told by its sign, its significand and its exponent, and the bits, the parts and the number that the
arithmetic of `Float` unpacks all tell the same (`ofFloat?_eq`, `toBits_of_ofFloat?`).  The parts are canonical: a
number in the normal range has its leading bit.  Whatever canonical parts a result has before it is packed, it has
them afterwards (`ofFloat?_pack`).
-/

namespace EquatorialMount.Binary64

open Float.Model Float.Model.UnpackedFloat

/-! ### Bits -/

def isNegative : Sign → Bool
  | .negative => true
  | .positive => false

/-- The parts of an unpacked number. -/
def ofUnpacked? : UnpackedFloat → Option Binary64
  | .zero s => some ⟨isNegative s, 0, -1074⟩
  | .finite s m e _ => some ⟨isNegative s, m, e⟩
  | _ => none

private theorem toNat_unpackMantissa (b : BitVec Format.binary64.numBits) :
    (unpackMantissa b).toNat = b.toNat % 2 ^ 52 := by
  simp [unpackMantissa]

private theorem toNat_unpackExponent (b : BitVec Format.binary64.numBits) :
    (unpackExponent b).toNat = b.toNat / 2 ^ 52 % 2048 := by
  simp [unpackExponent, Nat.shiftRight_eq_div_pow]

private theorem isNegative_unpackSign (b : BitVec Format.binary64.numBits) :
    isNegative (Sign.ofBitVec (unpackSign b)) = decide (2 ^ 63 ≤ b.toNat) := by
  have hb : b.toNat < 2 ^ 64 := b.isLt
  have h : (unpackSign b).toNat = b.toNat / 2 ^ 63 := by
    delta unpackSign
    simp [Nat.shiftRight_eq_div_pow]
    omega
  have h0 : unpackSign b = 0#1 ↔ ¬2 ^ 63 ≤ b.toNat := by
    rw [← BitVec.toNat_inj, h]
    simp
  unfold Sign.ofBitVec
  by_cases hs : 2 ^ 63 ≤ b.toNat
  · rw [if_neg (h0.not_left.2 hs), decide_eq_true hs]
    rfl
  · rw [if_pos (h0.2 hs), decide_eq_false hs]
    rfl

private theorem toNat_one_append {n : Nat} (m : BitVec n) : (1#1 ++ m).toNat = 2 ^ n + m.toNat := by
  have h := Nat.two_pow_add_eq_or_of_lt m.isLt 1
  rw [BitVec.toNat_append, BitVec.toNat_one Nat.one_pos, Nat.shiftLeft_eq, Nat.one_mul]
  rwa [Nat.mul_one, eq_comm] at h

private theorem unpackExponent_eq_ones (b : BitVec Format.binary64.numBits) :
    unpackExponent b = -1#11 ↔ (unpackExponent b).toNat = 2047 := by
  rw [← BitVec.toNat_inj]
  rfl

private theorem unpackExponent_eq_zero (b : BitVec Format.binary64.numBits) :
    unpackExponent b = 0#11 ↔ (unpackExponent b).toNat = 0 := by
  rw [← BitVec.toNat_inj]
  rfl

private theorem unpackMantissa_eq_zero (b : BitVec Format.binary64.numBits) :
    unpackMantissa b = 0#52 ↔ (unpackMantissa b).toNat = 0 := by
  rw [← BitVec.toNat_inj]
  rfl

private theorem ofUnpacked?_unpack (b : BitVec Format.binary64.numBits) :
    ofUnpacked? (UnpackedFloat.unpack Format.binary64 b) =
      if b.toNat / 2 ^ 52 % 2048 = 2047 then none
      else if b.toNat / 2 ^ 52 % 2048 = 0 then some ⟨2 ^ 63 ≤ b.toNat, b.toNat % 2 ^ 52, -1074⟩
      else some ⟨2 ^ 63 ≤ b.toNat, 2 ^ 52 + b.toNat % 2 ^ 52, (b.toNat / 2 ^ 52 % 2048 : Nat) - 1075⟩ := by
  rw [← toNat_unpackMantissa, ← toNat_unpackExponent, ← isNegative_unpackSign]
  unfold UnpackedFloat.unpack
  by_cases h1 : (unpackExponent b).toNat = 2047
  · rw [if_pos h1, if_pos ((unpackExponent_eq_ones b).2 h1)]
    split <;> rfl
  · rw [if_neg h1, if_neg ((unpackExponent_eq_ones b).not.2 h1)]
    by_cases h2 : (unpackExponent b).toNat = 0
    · rw [if_pos h2, if_pos ((unpackExponent_eq_zero b).2 h2)]
      by_cases h3 : unpackMantissa b = 0#52
      · rw [dif_pos h3, (unpackMantissa_eq_zero b).1 h3]
        rfl
      · rw [dif_neg h3]
        refine congrArg (fun e => some (⟨_, _, e⟩ : Binary64)) ?_
        rw [h2]
        rfl
    · rw [if_neg h2, if_neg ((unpackExponent_eq_zero b).not.2 h2)]
      exact congrArg (fun m => some (⟨_, m, _⟩ : Binary64)) (toNat_one_append _)

/-- The parts read off the bits are those that arithmetic unpacks. -/
theorem ofFloat?_eq (x : Float) : ofFloat? x = ofUnpacked? x.toModel.unpack := by
  exact (ofUnpacked?_unpack x.toModel.toBits.toBitVec).symm

/-- The parts that a finite number has: in the normal range the leading bit is set. -/
structure Canonical (b : Binary64) : Prop where
  significand_lt : b.significand < 2 ^ 53
  exponent_ge : -1074 ≤ b.exponent
  exponent_le : b.exponent ≤ 971
  normal : 2 ^ 52 ≤ b.significand ∨ b.exponent = -1074

private theorem ofFloat?_cases {x : Float} {b : Binary64} (h : ofFloat? x = some b) :
    b.negative = decide (2 ^ 63 ≤ x.toBits.toNat) ∧
      ((x.toBits.toNat / 2 ^ 52 % 2048 = 0 ∧ b.significand = x.toBits.toNat % 2 ^ 52 ∧ b.exponent = -1074) ∨
      (x.toBits.toNat / 2 ^ 52 % 2048 ≠ 0 ∧ x.toBits.toNat / 2 ^ 52 % 2048 ≠ 2047 ∧
        b.significand = 2 ^ 52 + x.toBits.toNat % 2 ^ 52 ∧
        b.exponent = (x.toBits.toNat / 2 ^ 52 % 2048 : Nat) - 1075)) := by
  unfold ofFloat? at h
  simp only at h
  split at h
  · cases h
  · split at h <;> cases h
    · exact ⟨rfl, .inl ⟨‹_›, rfl, rfl⟩⟩
    · exact ⟨rfl, .inr ⟨‹_›, ‹_›, rfl, rfl⟩⟩

theorem canonical_of_ofFloat? {x : Float} {b : Binary64} (h : ofFloat? x = some b) : b.Canonical := by
  have hcases := (ofFloat?_cases h).2
  constructor <;> omega

/-- The bits of a finite number. -/
def bits (b : Binary64) : Nat :=
  let magnitude := if b.significand < leadingBit then b.significand
    else (b.exponent + 1074).toNat * leadingBit + b.significand
  if b.negative then signBit + magnitude else magnitude

theorem bits_eq (b : Binary64) : b.bits = (if b.negative then 2 ^ 63 else 0) +
    if b.significand < 2 ^ 52 then b.significand else (b.exponent + 1074).toNat * 2 ^ 52 + b.significand := by
  have hlead : leadingBit = 2 ^ 52 := rfl
  have hsign : signBit = 2 ^ 63 := rfl
  rw [bits, ← hlead, ← hsign]
  cases b.negative
  · exact (Nat.zero_add _).symm
  · rfl

theorem toBits_of_ofFloat? {x : Float} {b : Binary64} (h : ofFloat? x = some b) : x.toBits.toNat = b.bits := by
  have hx : x.toBits.toNat < 2 ^ 64 := x.toBits.toNat_lt
  obtain ⟨hs, hcases⟩ := ofFloat?_cases h
  simp only [bits_eq, hs, decide_eq_true_eq]
  split_ifs <;> omega

theorem ofFloat?_inj {x y : Float} {b : Binary64} (hx : ofFloat? x = some b) (hy : ofFloat? y = some b) : x = y := by
  have h : x.toBits = y.toBits := by
    rw [← UInt64.toNat_inj, toBits_of_ofFloat? hx, toBits_of_ofFloat? hy]
  obtain ⟨⟨bx, _⟩⟩ := x
  obtain ⟨⟨by', _⟩⟩ := y
  cases h
  rfl

theorem isFinite_iff (x : Float) : x.isFinite = true ↔ ∃ b, ofFloat? x = some b := by
  rw [ofFloat?_eq, ← Option.isSome_iff_exists]
  show x.toModel.unpack.isFinite = true ↔ _
  cases x.toModel.unpack <;> rfl

/-! ### Packing -/

def signOf (negative : Bool) : Sign := if negative then .negative else .positive

/-- The number with these parts as it is before it is packed. -/
def unpacked (b : Binary64) : UnpackedFloat :=
  if h : b.significand = 0 then .zero (signOf b.negative)
  else .finite (signOf b.negative) b.significand b.exponent (Nat.pos_of_ne_zero h)

theorem unpacked_of_eq_zero {b : Binary64} (h : b.significand = 0) : b.unpacked = .zero (signOf b.negative) := dif_pos h

theorem unpacked_of_ne_zero {b : Binary64} (h : b.significand ≠ 0) :
    b.unpacked = .finite (signOf b.negative) b.significand b.exponent (Nat.pos_of_ne_zero h) := dif_neg h

@[simp] theorem isNegative_signOf (negative : Bool) : isNegative (signOf negative) = negative := by
  cases negative <;> rfl

private theorem eq_unpacked_of_ofUnpacked? {u : UnpackedFloat} {b : Binary64} (h : ofUnpacked? u = some b) :
    u = b.unpacked := by
  cases u with
  | infinity s => cases h
  | notANumber => cases h
  | zero s =>
    cases h
    cases s <;> rfl
  | finite s m e hm =>
    cases h
    rw [unpacked, dif_neg hm.ne']
    cases s <;> rfl

theorem unpack_eq {x : Float} {b : Binary64} (h : ofFloat? x = some b) : x.toModel.unpack = b.unpacked :=
  eq_unpacked_of_ofUnpacked? (ofFloat?_eq x ▸ h)

private theorem toNat_packComponents (s : Sign) (e : BitVec 11) (m : BitVec 52) :
    (packComponents Format.binary64 s e m).toNat = s.toBitVec.toNat * 2 ^ 63 + e.toNat * 2 ^ 52 + m.toNat := by
  show (s.toBitVec ++ e ++ m : BitVec 64).toNat = _
  rw [BitVec.toNat_append, BitVec.toNat_append, ← Nat.shiftLeft_add_eq_or_of_lt e.isLt,
    ← Nat.shiftLeft_add_eq_or_of_lt m.isLt, Nat.shiftLeft_eq, Nat.shiftLeft_eq]
  ring

theorem ofUnpacked?_unpack_packComponents (s : Sign) (e : BitVec 11) (m : BitVec 52) (he : e.toNat ≠ 2047) :
    ofUnpacked? (UnpackedFloat.unpack Format.binary64 (packComponents Format.binary64 s e m)) =
      some (if e.toNat = 0 then ⟨isNegative s, m.toNat, -1074⟩
        else ⟨isNegative s, 2 ^ 52 + m.toNat, (e.toNat : Int) - 1075⟩) := by
  have hsign : decide (2 ^ 63 ≤ (packComponents Format.binary64 s e m).toNat) = isNegative s := by
    rw [toNat_packComponents]
    have := e.isLt
    have := m.isLt
    cases s
    · exact decide_eq_true (by simp [Sign.toBitVec]; omega)
    · exact decide_eq_false (by simp [Sign.toBitVec]; omega)
  rw [ofUnpacked?_unpack, ← toNat_unpackMantissa, ← toNat_unpackExponent, hsign, unpackExponent_packComponents,
    unpackMantissa_packComponents, if_neg he]
  split <;> rfl

private theorem pack_finite {s : Sign} {m : Nat} {e : Int} {hm : 0 < m} (hlt : m < 2 ^ 53) (hmin : -1074 ≤ e)
    (hmax : e ≤ 971) :
    UnpackedFloat.pack Format.binary64 (.finite s m e hm) = packComponents Format.binary64 s
      (BitVec.ofNat 11 (if 2 ^ 52 ≤ m then (e + 1075).toNat else 0)) (BitVec.ofNat 52 m) := by
  have hexp : (e + (1023 : Nat) + (52 : Nat)).toNat = (e + 1075).toNat := by omega
  have hlog : m.log2 + 1 = 53 ↔ 2 ^ 52 ≤ m := by
    have h1 := (Nat.log2_lt hm.ne').2 hlt
    have h2 : 52 ≤ m.log2 ↔ 2 ^ 52 ≤ m := Nat.le_log2 hm.ne'
    rw [← h2]
    omega
  show (if 2 ^ 11 ≤ (e + (1023 : Nat) + (52 : Nat)).toNat + 1 then packedInfinity Format.binary64 s
    else if m.log2 + 1 = 53 then packComponents Format.binary64 s
      (BitVec.ofNat 11 (e + (1023 : Nat) + (52 : Nat)).toNat) (BitVec.ofNat 52 m)
    else packComponents Format.binary64 s 0#11 (BitVec.ofNat 52 m)) = _
  rw [hexp, if_neg (by omega)]
  by_cases h : 2 ^ 52 ≤ m
  · rw [if_pos (hlog.2 h), if_pos h]
  · rw [if_neg (mt hlog.1 h), if_neg h]

private theorem ofUnpacked?_unpack_pack {b : Binary64} (hb : b.Canonical) :
    ofUnpacked? (UnpackedFloat.unpack Format.binary64 (UnpackedFloat.pack Format.binary64 b.unpacked)) = some b := by
  obtain ⟨negative, m, e⟩ := b
  obtain ⟨hlt, hmin, hmax, hnormal⟩ := hb
  simp only at hlt hmin hmax hnormal
  by_cases h0 : m = 0
  · have he : e = -1074 := by omega
    subst h0 he
    cases negative <;> rfl
  · have hexp : (BitVec.ofNat 11 (if 2 ^ 52 ≤ m then (e + 1075).toNat else 0)).toNat =
        if 2 ^ 52 ≤ m then (e + 1075).toNat else 0 := by
      rw [BitVec.toNat_ofNat]
      split <;> omega
    rw [unpacked, dif_neg h0, pack_finite hlt hmin hmax,
      ofUnpacked?_unpack_packComponents _ _ _ (by split_ifs at * <;> omega), hexp, isNegative_signOf,
      BitVec.toNat_ofNat]
    simp only [Option.some.injEq]
    split_ifs <;> simp only [mk.injEq, true_and] <;> omega

/-- A finite number is what its parts are packed into. -/
theorem ofFloat?_pack {b : Binary64} (hb : b.Canonical) :
    ofFloat? ⟨Float.Model.pack b.unpacked⟩ = some b := by
  rw [ofFloat?_eq]
  exact ofUnpacked?_unpack_pack hb

private theorem ofUnpacked?_unpack_bits {b : Binary64} (hb : b.Canonical) :
    ofUnpacked? (UnpackedFloat.unpack Format.binary64 (UInt64.ofNat b.bits).toBitVec) = some b := by
  obtain ⟨hlt, hmin, hmax, hnormal⟩ := hb
  have hsize : b.bits < 2 ^ 64 := by
    rw [bits_eq]
    split_ifs <;> omega
  have hbits : (UInt64.ofNat b.bits).toBitVec.toNat = b.bits := UInt64.toNat_ofNat_of_lt hsize
  have hneg : decide (2 ^ 63 ≤ b.bits) = b.negative := by
    rw [bits_eq]
    cases b.negative
    · refine decide_eq_false ?_
      simp only [Bool.false_eq_true, if_false]
      split_ifs <;> omega
    · exact decide_eq_true (by simp)
  have hfields : if b.significand < 2 ^ 52 then b.bits / 2 ^ 52 % 2048 = 0 ∧ b.bits % 2 ^ 52 = b.significand
      else b.bits / 2 ^ 52 % 2048 = (b.exponent + 1075).toNat ∧ 2 ^ 52 + b.bits % 2 ^ 52 = b.significand := by
    rw [bits_eq]
    split_ifs <;> omega
  have key := ofUnpacked?_unpack (UInt64.ofNat b.bits).toBitVec
  rw [hbits, hneg] at key
  refine key.trans ?_
  obtain ⟨negative, m, e⟩ := b
  simp only at *
  split_ifs at hfields with h
  · rw [if_neg (by omega), if_pos hfields.1, hfields.2]
    simp only [Option.some.injEq, mk.injEq, true_and]
    omega
  · rw [if_neg (by omega), if_neg (by omega), hfields.2, hfields.1]
    simp only [Option.some.injEq, mk.injEq, true_and]
    omega

theorem ofFloat?_ofBits {b : Binary64} (hb : b.Canonical) : ofFloat? (Float.ofBits (UInt64.ofNat b.bits)) = some b := by
  rw [ofFloat?_eq]
  show ofUnpacked? (UnpackedFloat.unpack Format.binary64 (UnpackedFloat.pack Format.binary64
    (UnpackedFloat.unpack Format.binary64 (UInt64.ofNat b.bits).toBitVec))) = _
  rw [eq_unpacked_of_ofUnpacked? (ofUnpacked?_unpack_bits hb)]
  exact ofUnpacked?_unpack_pack hb

end EquatorialMount.Binary64
