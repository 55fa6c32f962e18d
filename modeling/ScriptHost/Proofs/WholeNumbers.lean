import Mathlib
import ScriptHost.TableScript.Number

/-!
# Whole numbers as integers and as doubles

A double that stands for an integer of no more than 53 bits is the double nearest to that integer, so nothing is lost
where one becomes the other.

* `unpack_pack` — a double with a full mantissa is taken apart as it was put together.
* `whole_cases` — the doubles that stand for small integers.
* `ofInteger_beq` — **a double that stands for a small integer is equal to the double of that integer**.
-/

namespace ScriptHost.TableScript.Number

open Float.Model (Format UnpackedFloat)
open Float.Model.UnpackedFloat

/-- A double has 53 bits. -/
abbrev double : Format := .binary64

/-! ## Equality -/

theorem unpacked_beq_self (x : UnpackedFloat) (h : x.isNaN = false) : x.beq x = true := by
  cases x with
  | notANumber => cases h
  | infinity sign => cases sign <;> rfl
  | zero sign => rfl
  | finite sign mantissa exponent hpos =>
    cases sign <;> simp [UnpackedFloat.beq, UnpackedFloat.compare]

/-- A number is equal to itself. -/
theorem float_beq_self {x : Float} (h : x.isNaN = false) : (x == x) = true := unpacked_beq_self x.toModel.unpack h

theorem nan_isNaN : nan.isNaN = true := by decide +kernel

/-! ## Taking apart -/

theorem finite_congr {s s' : Sign} {m m' : Nat} {e e' : Int} {h : 0 < m} {h' : 0 < m'} (hs : s = s') (hm : m = m')
    (he : e = e') : UnpackedFloat.finite s m e h = .finite s' m' e' h' := by
  subst hs hm he
  rfl

theorem sign_packComponents {format : Format} (s : Sign) (e : BitVec format.exponentBits)
    (m : BitVec format.mantissaBitsWithoutImplicit) :
    Sign.ofBitVec (unpackSign (packComponents format s e m)) = s := by
  have hbit : unpackSign (packComponents format s e m) = s.toBitVec := by
    refine BitVec.eq_of_getLsbD_eq fun i hi => ?_
    have hzero : i = 0 := by omega
    subst hzero
    simp [unpackSign, packComponents, BitVec.getLsbD_append, BitVec.getElem_append]
  rw [hbit]
  cases s <;> rfl

theorem toNat_implicit (m : BitVec 52) : (1#1 ++ m).toNat = 2 ^ 52 + m.toNat := by
  rw [BitVec.toNat_append, ← Nat.shiftLeft_add_eq_or_of_lt m.isLt]
  simp [Nat.shiftLeft_eq]

/-- A double with a full mantissa is taken apart as it was put together. -/
theorem unpack_pack (s : Sign) {m : Nat} {e : Int} (hpos : 0 < m) (hm : 2 ^ 52 ≤ m) (hm' : m < 2 ^ 53) (he : -52 ≤ e)
    (he' : e ≤ 0) : unpack double (pack double (.finite s m e hpos)) = .finite s m e hpos := by
  have hlog : m.log2 + 1 = double.mantissaBits := congrArg (· + 1) ((Nat.log2_eq_iff (by omega)).mpr ⟨hm, hm'⟩)
  obtain ⟨b, hb⟩ : ∃ b : Nat, (e + double.exponentBias + double.mantissaBitsWithoutImplicit).toNat = b := ⟨_, rfl⟩
  have hbias : (double.exponentBias : Int) = 1023 := rfl
  have hbits : (double.mantissaBitsWithoutImplicit : Int) = 52 := rfl
  rw [hbias, hbits] at hb
  have hbe : (BitVec.ofNat 11 b).toNat = b := by
    rw [BitVec.toNat_ofNat, Nat.mod_eq_of_lt (by omega)]
  have hzero : BitVec.ofNat 11 b ≠ 0#11 := fun heq => by
    have hnat := congrArg BitVec.toNat heq
    rw [hbe] at hnat
    simp only [BitVec.toNat_ofNat, Nat.zero_mod] at hnat
    omega
  have hones : BitVec.ofNat 11 b ≠ -1#11 := fun heq => by
    have hnat := congrArg BitVec.toNat heq
    rw [hbe] at hnat
    have hall : (-1#11).toNat = 2047 := rfl
    omega
  have hpack : pack double (.finite s m e hpos)
      = packComponents double s (BitVec.ofNat 11 b) (BitVec.ofNat 52 m) := by
    unfold pack
    dsimp only
    rw [hbias, hbits, hb, if_neg (by simp; omega), if_pos hlog]
  rw [hpack]
  unfold unpack
  simp only [unpackMantissa_packComponents, unpackExponent_packComponents, sign_packComponents]
  rw [if_neg hones, if_neg hzero]
  simp only [hbe, hbias, hbits]
  refine finite_congr rfl ?_ (by omega)
  rw [toNat_implicit, BitVec.toNat_ofNat]
  omega

/-! ## Bits -/

theorem toNat_unpackMantissa (b : BitVec 64) : (@unpackMantissa double b).toNat = b.toNat % 2 ^ 52 := by
  simp [unpackMantissa]

theorem toNat_unpackExponent (b : BitVec 64) : (@unpackExponent double b).toNat = b.toNat / 2 ^ 52 % 2 ^ 11 := by
  simp [unpackExponent, Nat.shiftRight_eq_div_pow]

theorem fraction_eq (x : Float) : (x.toBits &&& 0xFFFFFFFFFFFFF).toNat = x.toBits.toNat % 2 ^ 52 := by
  rw [UInt64.toNat_and]
  exact Nat.and_two_pow_sub_one_eq_mod _ 52

theorem biased_eq (x : Float) : ((x.toBits >>> 52) &&& 0x7FF).toNat = x.toBits.toNat / 2 ^ 52 % 2 ^ 11 := by
  rw [UInt64.toNat_and, UInt64.toNat_shiftRight, Nat.shiftRight_eq_div_pow]
  exact Nat.and_two_pow_sub_one_eq_mod _ 11

theorem sign_eq (x : Float) : Sign.ofBitVec (@unpackSign double x.toBits.toBitVec)
    = if Decimal.signBit x then .negative else .positive := by
  have hlt := x.toBits.toNat_lt
  have hbit : @unpackSign double x.toBits.toBitVec = BitVec.ofBool (Decimal.signBit x) := by
    refine BitVec.eq_of_toNat_eq ?_
    have hleft : (@unpackSign double x.toBits.toBitVec).toNat = x.toBits.toNat / 2 ^ 63 % 2 := by
      simp [unpackSign, Nat.shiftRight_eq_div_pow]
    have hright : (x.toBits >>> 63).toNat = x.toBits.toNat / 2 ^ 63 := by
      rw [UInt64.toNat_shiftRight, Nat.shiftRight_eq_div_pow]
      rfl
    rw [hleft, BitVec.toNat_ofBool, Decimal.signBit]
    by_cases hone : x.toBits >>> 63 = 1
    · rw [hone] at hright
      rw [hone, ← hright]
      rfl
    · have hne : (x.toBits >>> 63).toNat ≠ 1 := fun heq => hone (UInt64.toNat_inj.mp heq)
      rw [beq_false_of_ne hone]
      simp only [Bool.toNat_false]
      omega
  rw [hbit]
  cases Decimal.signBit x <;> rfl

/-! ## Doubles by their bits -/

section Bits

variable {x : Float}

theorem unpack_zero (hfraction : x.toBits.toNat % 2 ^ 52 = 0) (hbiased : x.toBits.toNat / 2 ^ 52 % 2 ^ 11 = 0) :
    ∃ s, x.toModel.unpack = .zero s := by
  have hm : @unpackMantissa double x.toBits.toBitVec = 0#_ :=
    BitVec.eq_of_toNat_eq ((toNat_unpackMantissa _).trans hfraction)
  have he : @unpackExponent double x.toBits.toBitVec = 0#_ :=
    BitVec.eq_of_toNat_eq ((toNat_unpackExponent _).trans hbiased)
  refine ⟨Sign.ofBitVec (@unpackSign double x.toBits.toBitVec), ?_⟩
  change unpack double x.toBits.toBitVec = _
  unfold unpack
  simp only [hm, he]
  rfl

theorem unpack_normal (hfinite : x.toBits.toNat / 2 ^ 52 % 2 ^ 11 ≠ 2047)
    (hnormal : x.toBits.toNat / 2 ^ 52 % 2 ^ 11 ≠ 0) : ∃ hpos,
    x.toModel.unpack = .finite (if Decimal.signBit x then .negative else .positive)
      (x.toBits.toNat % 2 ^ 52 + 2 ^ 52) ((x.toBits.toNat / 2 ^ 52 % 2 ^ 11 : Nat) - 1075) hpos := by
  have hmantissa : (@unpackMantissa double x.toBits.toBitVec).toNat = x.toBits.toNat % 2 ^ 52 :=
    toNat_unpackMantissa _
  have hexponent : (@unpackExponent double x.toBits.toBitVec).toNat = x.toBits.toNat / 2 ^ 52 % 2 ^ 11 :=
    toNat_unpackExponent _
  have hsign := sign_eq x
  have hones : @unpackExponent double x.toBits.toBitVec ≠ -1#_ := fun heq =>
    hfinite (hexponent.symm.trans (congrArg BitVec.toNat heq))
  have hzero : @unpackExponent double x.toBits.toBitVec ≠ 0#_ := fun heq =>
    hnormal (hexponent.symm.trans (congrArg BitVec.toNat heq))
  refine ⟨by omega, ?_⟩
  change unpack double x.toBits.toBitVec = _
  unfold unpack
  simp only [if_neg hones, if_neg hzero, hsign, hexponent]
  refine finite_congr rfl ?_ rfl
  rw [toNat_implicit, hmantissa, Nat.add_comm]

end Bits

/-! ## Whole numbers -/

theorem natAbs_truncate (b : Decimal.Binary) : b.truncate.natAbs = b.quotient.1 / b.quotient.2 := by
  change (if b.negative then -((b.quotient.1 / b.quotient.2 : Nat) : Int) else _).natAbs = _
  cases b.negative with
  | true => exact (Int.natAbs_neg _).trans (Int.natAbs_natCast _)
  | false => exact Int.natAbs_natCast _

theorem truncate_neg_iff {b : Decimal.Binary} (hpos : 0 < b.truncate.natAbs) :
    b.truncate < 0 ↔ b.negative = true := by
  rw [natAbs_truncate] at hpos
  unfold Decimal.Binary.truncate
  cases b.negative with
  | true =>
    simp only [if_true, iff_true]
    omega
  | false =>
    simp only [Bool.false_eq_true, if_false, iff_false]
    omega

theorem toWhole?_eq_some {x : Float} {i : Int} (h : Decimal.toWhole? x = some i) :
    ∃ b, Decimal.Binary.ofFloat? x = some b ∧ b.quotient.2 ∣ b.quotient.1 ∧ b.truncate = i := by
  obtain ⟨b, hb, hwhole⟩ := Option.bind_eq_some_iff.mp h
  split at hwhole
  · next hdvd =>
    rw [Decimal.Binary.isWhole, beq_iff_eq] at hdvd
    exact ⟨b, hb, Nat.dvd_of_mod_eq_zero hdvd, Option.some.inj hwhole⟩
  · cases hwhole

/-- So small a number is not whole, unless it is zero. -/
theorem small_mantissa {b : Decimal.Binary} (hm : b.mantissa < 2 ^ 52) (hexponent : b.exponent ≤ -52)
    (hdvd : b.quotient.2 ∣ b.quotient.1) : b.mantissa = 0 ∧ b.truncate = 0 := by
  have hnum : b.quotient.1 = b.mantissa * 2 ^ b.exponent.toNat := rfl
  have hden : b.quotient.2 = 2 ^ (-b.exponent).toNat := rfl
  have hone : b.exponent.toNat = 0 := by omega
  rw [hone, Nat.pow_zero, Nat.mul_one] at hnum
  have hpow : 2 ^ 52 ∣ b.quotient.2 := hden ▸ Nat.pow_dvd_pow 2 (by omega)
  have hzero : b.mantissa = 0 := Nat.eq_zero_of_dvd_of_lt (Nat.dvd_trans hpow (hnum ▸ hdvd)) hm
  refine ⟨hzero, Int.natAbs_eq_zero.mp ?_⟩
  rw [natAbs_truncate, hnum, hzero, Nat.zero_div]

/-- A whole number below 2^53 with a full mantissa has as many zeros behind as the point is moved. -/
theorem full_mantissa {b : Decimal.Binary} (hm : 2 ^ 52 ≤ b.mantissa) (hm' : b.mantissa < 2 ^ 53)
    (hdvd : b.quotient.2 ∣ b.quotient.1) (hlimit : b.truncate.natAbs < 2 ^ 53) :
    ∃ k : Nat, k ≤ 52 ∧ b.exponent = -k ∧ b.truncate.natAbs * 2 ^ k = b.mantissa := by
  have hvalue := natAbs_truncate b
  have hnum : b.quotient.1 = b.mantissa * 2 ^ b.exponent.toNat := rfl
  have hden : b.quotient.2 = 2 ^ (-b.exponent).toNat := rfl
  rw [hnum, hden] at hdvd hvalue
  by_cases hgreat : 0 < b.exponent
  · -- it would have more bits
    have hone : (-b.exponent).toNat = 0 := by omega
    rw [hone, Nat.pow_zero, Nat.div_one] at hvalue
    have hpow : 2 ^ 1 ≤ 2 ^ b.exponent.toNat := Nat.pow_le_pow_right (by omega) (by omega)
    have hle : 2 ^ 52 * 2 ^ 1 ≤ b.mantissa * 2 ^ b.exponent.toNat := Nat.mul_le_mul hm hpow
    omega
  · have hone : b.exponent.toNat = 0 := by omega
    rw [hone, Nat.pow_zero, Nat.mul_one] at hdvd hvalue
    refine ⟨(-b.exponent).toNat, ?_, by omega, ?_⟩
    · have hle := Nat.le_of_dvd (by omega) hdvd
      have hlt : (-b.exponent).toNat < 53 := (Nat.pow_lt_pow_iff_right (by omega)).mp (Nat.lt_of_le_of_lt hle hm')
      omega
    · rw [hvalue, Nat.div_mul_cancel hdvd]

/-- A double that stands for an integer below 2^53 is zero, or it has a full mantissa, of which the last bits are
zeros. -/
theorem whole_cases {x : Float} {i : Int} (h : Decimal.toWhole? x = some i) (hi : i.natAbs < 2 ^ 53) :
    (i = 0 ∧ ∃ s, x.toModel.unpack = .zero s) ∨
      ∃ (k : Nat) (hpos : 0 < i.natAbs * 2 ^ k), k ≤ 52 ∧ 2 ^ 52 ≤ i.natAbs * 2 ^ k ∧ i.natAbs * 2 ^ k < 2 ^ 53 ∧
        x.toModel.unpack = .finite (if i < 0 then .negative else .positive) (i.natAbs * 2 ^ k) (-k) hpos := by
  obtain ⟨b, hb, hdvd, rfl⟩ := toWhole?_eq_some h
  have hlt := Nat.mod_lt x.toBits.toNat (Nat.two_pow_pos 52)
  unfold Decimal.Binary.ofFloat? at hb
  simp only [fraction_eq, biased_eq, beq_iff_eq] at hb
  split at hb
  · cases hb
  next hfinite =>
  split at hb
  · next hlow =>
    have hmantissa := congrArg Decimal.Binary.mantissa (Option.some.inj hb)
    have hexponent := congrArg Decimal.Binary.exponent (Option.some.inj hb)
    dsimp only at hmantissa hexponent
    obtain ⟨hzero, hvalue⟩ := small_mantissa (by omega) (by omega) hdvd
    exact .inl ⟨hvalue, unpack_zero (hmantissa.trans hzero) hlow⟩
  · next hnormal =>
    obtain ⟨hpos, hunpack⟩ := unpack_normal hfinite hnormal
    have hmantissa := congrArg Decimal.Binary.mantissa (Option.some.inj hb)
    have hexponent := congrArg Decimal.Binary.exponent (Option.some.inj hb)
    have hnegative := congrArg Decimal.Binary.negative (Option.some.inj hb)
    dsimp only at hmantissa hexponent hnegative
    obtain ⟨k, hk, hmoved, hvalue⟩ := full_mantissa (by omega) (by omega) hdvd hi
    have hsome : 0 < b.truncate.natAbs := by
      refine Nat.pos_of_ne_zero fun hzero => ?_
      rw [hzero] at hvalue
      omega
    refine .inr ⟨k, by omega, hk, by omega, by omega, hunpack.trans (finite_congr ?_ ?_ ?_)⟩
    · rw [hnegative]
      simp only [truncate_neg_iff hsome]
    · omega
    · omega

/-! ## Integers as doubles -/

theorem targetExponent_eq {t : Int} (ht : -1000 ≤ t) : double.targetExponent t = t - 53 := by
  have hmin : double.minExponent = -1074 := rfl
  have hbits : (double.mantissaBits : Int) = 53 := rfl
  rw [Format.targetExponent, hmin, hbits]
  omega

/-- A full mantissa is not shifted. -/
theorem shift_full {m : Nat} (hm : 2 ^ 52 ≤ m) (hm' : m < 2 ^ 53) {e : Int} (he : -1000 ≤ e) :
    shiftToTargetExponent double m e .exact = (⟨m, false, false⟩, e) := by
  have hlog : m.log2 = 52 := (Nat.log2_eq_iff (by omega)).mpr ⟨hm, hm'⟩
  have htotal : Float.Model.totalExponent m e = 53 + e := by
    rw [Float.Model.totalExponent, hlog]
    rfl
  rw [shiftToTargetExponent, htotal, targetExponent_eq (by omega), shiftToExponent]
  have hzero : (53 + e - 53 - e).toNat = 0 := by omega
  simp only [hzero]
  rw [Int.natCast_zero, Int.add_zero]
  rfl

theorem round_full {n k : Nat} (hpos : 0 < n * 2 ^ k) (hk : k ≤ 52) (hm : 2 ^ 52 ≤ n * 2 ^ k)
    (hm' : n * 2 ^ k < 2 ^ 53) (s : Sign) : UnpackedFloat.round double s n 0 = .finite s (n * 2 ^ k) (-k) hpos := by
  have hn : n ≠ 0 := by
    rintro rfl
    omega
  have hlog : n.log2 = 52 - k := by
    have hlow : 2 ^ (52 - k) * 2 ^ k = 2 ^ 52 := by rw [← Nat.pow_add, Nat.sub_add_cancel hk]
    have hhigh : 2 ^ (52 - k + 1) * 2 ^ k = 2 ^ 53 := by
      have hsum : 52 - k + 1 + k = 53 := by omega
      rw [← Nat.pow_add, hsum]
    refine (Nat.log2_eq_iff hn).mpr ⟨?_, ?_⟩
    · exact Nat.le_of_mul_le_mul_right (hlow ▸ hm) (Nat.two_pow_pos k)
    · exact Nat.lt_of_mul_lt_mul_right (hhigh ▸ hm')
  have htotal : Float.Model.totalExponent n 0 = 53 - k := by
    rw [Float.Model.totalExponent, hlog]
    omega
  have hdecrease : decreaseExponent n 0 (-(k : Int)) = (n * 2 ^ k, -(k : Int)) := by
    have hshift : (0 - -(k : Int)).toNat = k := by omega
    rw [decreaseExponent, hshift, Nat.shiftLeft_eq, Int.zero_sub]
  have htarget : (53 : Int) - k - 53 = -k := by omega
  rw [UnpackedFloat.round, htotal, targetExponent_eq (by omega), htarget]
  simp only [hdecrease]
  have hshift : shiftToTargetExponent double (n * 2 ^ k) (-(k : Int)) .exact
      = (⟨n * 2 ^ k, false, false⟩, -(k : Int)) := shift_full hm hm' (by omega)
  have hround : (⟨n * 2 ^ k, false, false⟩ : ExtendedMantissa).roundedMantissa = n * 2 ^ k := rfl
  rw [roundWithAccuracy]
  simp only [hshift, hround]
  exact dif_neg (Nat.ne_of_gt hpos)

/-- A number with a full mantissa is the double nearest to it. -/
theorem unpack_toFloat {n k : Nat} (hpos : 0 < n * 2 ^ k) (hn : n < 2 ^ 53) (hk : k ≤ 52) (hm : 2 ^ 52 ≤ n * 2 ^ k)
    (hm' : n * 2 ^ k < 2 ^ 53) :
    n.toUInt64.toFloat.toModel.unpack = .finite .positive (n * 2 ^ k) (-(k : Int)) hpos := by
  have hsame : n.toUInt64.toNat = n := by
    rw [Nat.toUInt64, UInt64.toNat_ofNat']
    omega
  have hsome : 0 < (n : Int) := by
    rcases Nat.eq_zero_or_pos n with rfl | hn
    · omega
    · omega
  have hnormal : ofUInt64 double n.toUInt64 = .finite .positive (n * 2 ^ k) (-(k : Int)) hpos := by
    rw [ofUInt64, ofNat, ofInt, UnpackedFloat.normalize, hsame, Int.compare_eq_gt.mpr hsome]
    exact round_full hpos hk hm hm' .positive
  change unpack double (pack double (ofUInt64 double n.toUInt64)) = _
  rw [hnormal]
  exact unpack_pack .positive hpos hm hm' (by omega) (by omega)

theorem unpack_neg {x : Float} {s : Sign} {m : Nat} {e : Int} (hpos : 0 < m) (hm : 2 ^ 52 ≤ m) (hm' : m < 2 ^ 53)
    (he : -52 ≤ e) (he' : e ≤ 0) (hx : x.toModel.unpack = .finite s m e hpos) :
    (-x).toModel.unpack = .finite (-s) m e hpos := by
  change unpack double (pack double (neg x.toModel.unpack)) = _
  rw [hx]
  exact unpack_pack (-s) hpos hm hm' he he'

theorem beq_of_unpack {x y : Float} (hx : x.isNaN = false) (h : y.toModel.unpack = x.toModel.unpack) :
    (y == x) = true := by
  change y.toModel.unpack.beq x.toModel.unpack = true
  rw [h]
  exact unpacked_beq_self _ hx

/-- A double that stands for an integer below 2^53 is equal to the double of that integer. -/
theorem ofInteger_beq {x : Float} {i : Int} (h : Decimal.toWhole? x = some i) (hi : i.natAbs < 2 ^ 53) :
    (ofInteger (.ofInt i) == x) = true := by
  have hint : (Int64.ofInt i).toInt = i := Int64.toInt_ofInt_of_le (by omega) (by omega)
  have hneg : Int64.ofInt i < 0 ↔ i < 0 := by
    rw [Int64.lt_iff_toInt_lt, hint]
    rfl
  rw [ofInteger, hint]
  rcases whole_cases h hi with ⟨rfl, s, hzero⟩ | ⟨k, hpos, hk, hm, hm', hunpack⟩
  · rw [if_neg (by simp)]
    have hfloat : (0 : Int).natAbs.toUInt64.toFloat.toModel.unpack = .zero .positive := rfl
    change (Float.Model.unpack _).beq x.toModel.unpack = true
    rw [hfloat, hzero]
    rfl
  · have hfloat := unpack_toFloat hpos hi hk hm hm'
    have hx : x.isNaN = false := by
      change x.toModel.unpack.isNaN = false
      rw [hunpack]
      rfl
    refine beq_of_unpack hx ?_
    rw [hunpack]
    by_cases hsign : i < 0
    · rw [if_pos (hneg.mpr hsign), if_pos hsign]
      exact unpack_neg hpos hm hm' (by omega) (by omega) hfloat
    · rw [if_neg fun hlt => hsign (hneg.mp hlt), if_neg hsign]
      exact hfloat

end ScriptHost.TableScript.Number
