import Mathlib
import ScriptRun.Decimal.Binary

/-!
# A float is its parts

Taking a float apart and putting it together again gives the same float (`Parts.toFloat_ofFloat`).
There is one float that is no number, so this holds of all floats.
-/

namespace ScriptRun.Decimal

open Float.Model Float.Model.UnpackedFloat

/-! ### The bits of a float -/

theorem toBitVec_ofBitVec (b : BitVec 1) : (Sign.ofBitVec b).toBitVec = b := by
  revert b
  decide

theorem packComponents_unpack (b : BitVec Format.binary64.numBits) :
    packComponents Format.binary64 (Sign.ofBitVec (unpackSign b)) (unpackExponent b)
      (unpackMantissa b) = b := by
  rw [packComponents, toBitVec_ofBitVec]
  apply BitVec.eq_of_getLsbD_eq
  intro i hi
  have hbits : i < 64 := hi
  simp only [unpackSign, unpackExponent, unpackMantissa, BitVec.getLsbD_append, BitVec.getLsbD_cast,
    BitVec.getLsbD_extractLsb]
  split_ifs with hmantissa hexponent
  · rw [decide_eq_true (by omega), Nat.zero_add, Bool.true_and]
  · rw [decide_eq_true (by omega), Bool.true_and]
    congr 1
    omega
  · rw [decide_eq_true (by omega), Bool.true_and]
    congr 1
    omega

theorem toNat_leadingOne (v : BitVec 52) : (1#1 ++ v).toNat = 2 ^ 52 + v.toNat := by
  rw [BitVec.toNat_append, ← Nat.shiftLeft_add_eq_or_of_lt v.isLt]
  rfl

theorem pack_unpack {b : BitVec Format.binary64.numBits} (hb : Format.binary64.Valid b) :
    UnpackedFloat.pack Format.binary64 (UnpackedFloat.unpack Format.binary64 b) = b := by
  have hwhole := packComponents_unpack b
  have hmantissa : (unpackMantissa b).toNat < 2 ^ 52 := (unpackMantissa b).isLt
  have hexponent : (unpackExponent b).toNat < 2 ^ 11 := (unpackExponent b).isLt
  have hbits : Format.binary64.mantissaBits = 53 := rfl
  rw [UnpackedFloat.unpack]
  dsimp only
  split_ifs with hones hinfinite hzero hempty
  · rw [UnpackedFloat.pack, packedInfinity, ← hones]
    rw [hinfinite] at hwhole
    exact hwhole
  · exact (hb.eq_packedNaN hones hinfinite).symm
  · rw [UnpackedFloat.pack, packedZero]
    rw [hzero, hempty] at hwhole
    exact hwhole
  · rw [UnpackedFloat.pack]
    dsimp only
    have hne : (unpackMantissa b).toNat ≠ 0 := by
      intro h
      exact hempty (BitVec.eq_of_toNat_eq h)
    have hlog := (Nat.log2_lt hne).2 hmantissa
    rw [hzero] at hwhole ⊢
    generalize Format.binary64.exponentBias = bias
    rw [if_neg, if_neg, BitVec.ofNat_toNat, BitVec.setWidth_eq]
    · exact hwhole
    · omega
    · rw [BitVec.toNat_ofNat]
      omega
  · rw [UnpackedFloat.pack]
    dsimp only
    have hnot_ones : (unpackExponent b).toNat ≠ 2 ^ 11 - 1 := by
      intro h
      exact hones (BitVec.eq_of_toNat_eq h)
    have hlog : (1#1 ++ unpackMantissa b).toNat.log2 = 52 := by
      rw [toNat_leadingOne, Nat.log2_eq_iff (by omega)]
      omega
    have hlow : BitVec.ofNat 52 (1#1 ++ unpackMantissa b).toNat = unpackMantissa b := by
      apply BitVec.eq_of_toNat_eq
      rw [BitVec.toNat_ofNat, toNat_leadingOne, Nat.add_mod_left, Nat.mod_eq_of_lt hmantissa]
    generalize Format.binary64.exponentBias = bias
    have hbiased : (((unpackExponent b).toNat : ℤ) - (bias + (52 : ℕ)) + bias + (52 : ℕ)).toNat =
        (unpackExponent b).toNat := by
      omega
    rw [hbiased, if_neg (by omega), if_pos (by omega), hlow, BitVec.ofNat_toNat, BitVec.setWidth_eq]
    exact hwhole

theorem ofBits_toBits (x : Float) : Float.ofBits x.toBits = x := by
  obtain ⟨bits, hbits⟩ := x
  have hpack := pack_unpack hbits
  simp only [Float.ofBits, Float.toBits, Float.Model.ofBits, Float.Model.pack, hpack]

/-! ### The parts of a float -/

/-- The parts of a positive float. -/
structure IsPositive (mantissa : ℕ) (exponent : ℤ) : Prop where
  positive : 0 < mantissa
  small : mantissa < 2 * leastNormal
  least : leastExponent ≤ exponent
  most : exponent ≤ 971
  normal : exponent = leastExponent ∨ leastNormal ≤ mantissa

theorem isPositive_of_ofFloat {x : Float} {negative : Bool} {mantissa : ℕ} {exponent : ℤ}
    (h : Parts.ofFloat x = .finite negative mantissa exponent) (hmantissa : mantissa ≠ 0) :
    IsPositive mantissa exponent := by
  simp only [Parts.ofFloat] at h
  have hpow : Nat.pow 2 52 = leastNormal := rfl
  have hpow' : Nat.pow 2 11 = 2048 := rfl
  rw [hpow, hpow'] at h
  have hfraction : x.toBits.toNat % leastNormal < leastNormal := Nat.mod_lt _ (by decide)
  have hbiased : x.toBits.toNat / leastNormal % 2048 < 2048 := Nat.mod_lt _ (by decide)
  generalize x.toBits.toNat % leastNormal = fraction at *
  generalize x.toBits.toNat / leastNormal % 2048 = biased at *
  split_ifs at h with hones hempty hzero
  · obtain ⟨-, rfl, rfl⟩ := Parts.finite.inj h
    exact ⟨by omega, by omega, le_rfl, by decide, .inl rfl⟩
  · obtain ⟨-, rfl, rfl⟩ := Parts.finite.inj h
    have hleast : leastExponent = -1074 := rfl
    exact ⟨by omega, by omega, by omega, by omega, .inr (by omega)⟩

theorem unpackExponent_toNat (x : Float) :
    (@unpackExponent Format.binary64 x.toModel.toBits.toBitVec).toNat =
      x.toBits.toNat / 2 ^ 52 % 2 ^ 11 := by
  simp only [unpackExponent, BitVec.toNat_cast, BitVec.extractLsb_toNat, Nat.shiftRight_eq_div_pow]
  rfl

theorem unpackMantissa_toNat (x : Float) :
    (@unpackMantissa Format.binary64 x.toModel.toBits.toBitVec).toNat = x.toBits.toNat % 2 ^ 52 := by
  simp only [unpackMantissa, BitVec.toNat_cast, BitVec.extractLsb_toNat, Nat.shiftRight_zero]
  rfl

theorem unpackExponent_eq_iff (x : Float) :
    @unpackExponent Format.binary64 x.toModel.toBits.toBitVec = -1#11 ↔
      x.toBits.toNat / Nat.pow 2 52 % Nat.pow 2 11 = 2047 := by
  have hpow : x.toBits.toNat / Nat.pow 2 52 % Nat.pow 2 11 =
      (@unpackExponent Format.binary64 x.toModel.toBits.toBitVec).toNat :=
    (unpackExponent_toNat x).symm
  rw [hpow]
  exact BitVec.toNat_inj.symm

theorem unpackMantissa_eq_iff (x : Float) :
    @unpackMantissa Format.binary64 x.toModel.toBits.toBitVec = 0#52 ↔
      x.toBits.toNat % Nat.pow 2 52 = 0 := by
  have hpow : x.toBits.toNat % Nat.pow 2 52 =
      (@unpackMantissa Format.binary64 x.toModel.toBits.toBitVec).toNat :=
    (unpackMantissa_toNat x).symm
  rw [hpow]
  exact BitVec.toNat_inj.symm

/-- There is only one float that is no number. -/
theorem toBits_of_nan {x : Float} (hexponent : x.toBits.toNat / Nat.pow 2 52 % Nat.pow 2 11 = 2047)
    (hmantissa : x.toBits.toNat % Nat.pow 2 52 ≠ 0) : x.toBits = 0x7ff8000000000000 := by
  rw [← unpackExponent_eq_iff] at hexponent
  rw [ne_eq, ← unpackMantissa_eq_iff] at hmantissa
  have hpacked := x.toModel.valid.eq_packedNaN hexponent hmantissa
  exact UInt64.toBitVec_inj.1 hpacked

theorem toFloat_of_lt (negative : Bool) {mantissa : ℕ} (exponent : ℤ) (h : mantissa < leastNormal) :
    (Parts.finite negative mantissa exponent).toFloat =
      Float.ofBits (UInt64.ofNat (mantissa + if negative then Nat.pow 2 63 else 0)) := by
  rw [Parts.toFloat, if_pos h]

theorem toFloat_of_le (negative : Bool) {mantissa : ℕ} {exponent : ℤ} (h : leastNormal ≤ mantissa)
    (hsmall : mantissa < 2 * leastNormal) (hexponent : exponent ≤ 971) :
    (Parts.finite negative mantissa exponent).toFloat = Float.ofBits (UInt64.ofNat
      ((exponent + 1075).toNat * leastNormal + (mantissa - leastNormal) +
        if negative then Nat.pow 2 63 else 0)) := by
  rw [Parts.toFloat, if_neg (by omega)]
  simp only [if_neg hsmall.ne]
  rw [if_neg (by omega)]
  rfl

theorem Parts.toFloat_ofFloat (x : Float) : (Parts.ofFloat x).toFloat = x := by
  have hbits : x.toBits.toNat < 2 ^ 64 := x.toBits.toNat_lt
  have hback {bits : UInt64} (h : bits.toNat = x.toBits.toNat) : Float.ofBits bits = x := by
    rw [UInt64.toNat_inj.1 h, ofBits_toBits]
  have hpow : Nat.pow 2 52 = 4503599627370496 := rfl
  have hpow' : Nat.pow 2 11 = 2048 := rfl
  have hpow'' : Nat.pow 2 63 = 9223372036854775808 := rfl
  have hnormal : leastNormal = 4503599627370496 := rfl
  rw [Parts.ofFloat, hpow, hpow', hpow'']
  split_ifs with hones hempty hzero
  · rw [Parts.toFloat]
    apply hback
    simp only [decide_eq_true_eq]
    split_ifs with hnegative
    · show 0xfff0000000000000 = _
      omega
    · show 0x7ff0000000000000 = _
      omega
  · rw [Parts.toFloat]
    apply hback
    rw [toBits_of_nan hones hempty]
  · rw [toFloat_of_lt _ _ (by omega)]
    apply hback
    simp only [UInt64.toNat_ofNat', decide_eq_true_eq, hpow'']
    split_ifs <;> omega
  · rw [toFloat_of_le _ (by omega) (by omega) (by omega), sub_add_cancel, Int.toNat_natCast,
      Nat.add_sub_cancel]
    apply hback
    simp only [UInt64.toNat_ofNat', decide_eq_true_eq, hpow'', hnormal]
    split_ifs <;> omega

/-! ### Which kind of float it is -/

theorem sign_eq (x : Float) :
    Sign.ofBitVec (@unpackSign Format.binary64 x.toModel.toBits.toBitVec) =
      if Nat.pow 2 63 ≤ x.toBits.toNat then .negative else .positive := by
  have hbits : x.toBits.toNat < 2 ^ 64 := x.toBits.toNat_lt
  have hsign : (@unpackSign Format.binary64 x.toModel.toBits.toBitVec).toNat =
      x.toBits.toNat / 2 ^ 63 % 2 := by
    simp only [unpackSign, BitVec.toNat_cast, BitVec.extractLsb_toNat, Nat.shiftRight_eq_div_pow]
    rfl
  have hpow : Nat.pow 2 63 = 2 ^ 63 := rfl
  have hiff : @unpackSign Format.binary64 x.toModel.toBits.toBitVec = 0#1 ↔
      ¬ 2 ^ 63 ≤ x.toBits.toNat := by
    rw [← BitVec.toNat_inj, hsign, BitVec.toNat_ofNat]
    omega
  rw [hpow, Sign.ofBitVec]
  split_ifs with hzero hlarge
  · exact absurd hlarge (hiff.1 hzero)
  · rfl
  · rfl
  · exact absurd (hiff.2 ‹_›) hzero

/-- A float is no number, infinite or finite, and its parts say which. -/
theorem unpack_cases (x : Float) :
    Parts.ofFloat x = .nan ∧ x.toModel.unpack = .notANumber ∨
      (∃ negative, Parts.ofFloat x = .infinite negative ∧
        x.toModel.unpack = .infinity (if negative then .negative else .positive)) ∨
      ∃ negative mantissa exponent, Parts.ofFloat x = .finite negative mantissa exponent ∧
        x.toModel.unpack.isNaN = false ∧ x.toModel.unpack.isInf = false := by
  rw [Float.Model.unpack, UnpackedFloat.unpack, Parts.ofFloat]
  dsimp only
  by_cases hones : @unpackExponent Format.binary64 x.toModel.toBits.toBitVec = -1#11
  · rw [if_pos hones, if_pos ((unpackExponent_eq_iff x).1 hones)]
    by_cases hempty : @unpackMantissa Format.binary64 x.toModel.toBits.toBitVec = 0#52
    · rw [if_pos hempty, if_pos ((unpackMantissa_eq_iff x).1 hempty), sign_eq]
      refine .inr (.inl ⟨_, rfl, ?_⟩)
      simp only [decide_eq_true_eq]
    · rw [if_neg hempty, if_neg (mt (unpackMantissa_eq_iff x).2 hempty)]
      exact .inl ⟨rfl, rfl⟩
  · rw [if_neg hones, if_neg (mt (unpackExponent_eq_iff x).2 hones)]
    refine .inr (.inr ?_)
    by_cases hzero : x.toBits.toNat / Nat.pow 2 52 % Nat.pow 2 11 = 0
    · rw [if_pos hzero]
      refine ⟨_, _, _, rfl, ?_⟩
      split_ifs <;> exact ⟨rfl, rfl⟩
    · rw [if_neg hzero]
      refine ⟨_, _, _, rfl, ?_⟩
      split_ifs <;> exact ⟨rfl, rfl⟩

theorem ofFloat_of_isNaN {x : Float} (h : x.isNaN = true) : Parts.ofFloat x = .nan := by
  have hunpack : x.toModel.unpack.isNaN = true := h
  obtain ⟨hparts, -⟩ | ⟨_, -, hinfinity⟩ | ⟨_, _, _, -, hnan, -⟩ := unpack_cases x
  · exact hparts
  · rw [hinfinity] at hunpack
    exact absurd hunpack Bool.false_ne_true
  · exact absurd (hnan.symm.trans hunpack) Bool.false_ne_true

theorem ofFloat_of_isInf {x : Float} (h : x.isInf = true) :
    Parts.ofFloat x = .infinite (decide (x < 0)) := by
  have hunpack : x.toModel.unpack.isInf = true := h
  have hzero : (0 : Float).toModel.unpack = .zero .positive := rfl
  have hlt : decide (x < 0) = x.toModel.unpack.lt (.zero .positive) := by
    rw [← hzero, Bool.eq_iff_iff, decide_eq_true_eq]
    exact decide_eq_true_iff
  obtain ⟨-, hnan⟩ | ⟨negative, hparts, hinfinity⟩ | ⟨_, _, _, -, -, hinf⟩ := unpack_cases x
  · rw [hnan] at hunpack
    exact absurd hunpack Bool.false_ne_true
  · rw [hparts, hlt, hinfinity]
    cases negative <;> rfl
  · exact absurd (hinf.symm.trans hunpack) Bool.false_ne_true

theorem ofFloat_finite {x : Float} (hnan : x.isNaN = false) (hinf : x.isInf = false) :
    ∃ negative mantissa exponent, Parts.ofFloat x = .finite negative mantissa exponent := by
  have hunpack_nan : x.toModel.unpack.isNaN = false := hnan
  have hunpack_inf : x.toModel.unpack.isInf = false := hinf
  obtain ⟨-, hunpack⟩ | ⟨negative, -, hunpack⟩ | ⟨negative, mantissa, exponent, hparts, -⟩ :=
    unpack_cases x
  · rw [hunpack] at hunpack_nan
    exact absurd hunpack_nan.symm Bool.false_ne_true
  · rw [hunpack] at hunpack_inf
    exact absurd hunpack_inf.symm Bool.false_ne_true
  · exact ⟨negative, mantissa, exponent, hparts⟩

end ScriptRun.Decimal
