import Storefront.Decimal.Binary
import Storefront.Proofs.Floats.Definedness
import Storefront.Proofs.Floats.Order
import Storefront.Proofs.Floats.Rounding
/-!
# Whole numbers as floats

A number of at least one has a leading one among its 53 places and an exponent of at least -52.
Rounding keeps that, carries included, and so does packing, unless the number is packed as an
infinity. So a whole number that is at least one is a float that is at least one, however it is
computed, and one that is not is a float that is at most zero.
-/

namespace Storefront.Floats

open Float.Model Float.Model.UnpackedFloat

/-- An unpacked float of some sign is at least one in size: all places of its mantissa are taken,
and the leading one stands for at least one. -/
def IsLarge (sign : Sign) : UnpackedFloat → Prop
  | .infinity s => s = sign
  | .finite s mantissa exponent _ =>
    s = sign ∧ 2 ^ 52 ≤ mantissa ∧ mantissa < 2 ^ 53 ∧ -52 ≤ exponent
  | _ => False

variable {x y : UnpackedFloat} {sign : Sign} {mantissa : Nat} {exponent : Int}

/-- An unpacked float of at least one in size is infinite or has a full mantissa. -/
theorem IsLarge.cases (large : IsLarge sign x) :
    x = .infinity sign ∨ ∃ mantissa exponent pos, x = .finite sign mantissa exponent pos ∧
      2 ^ 52 ≤ mantissa ∧ mantissa < 2 ^ 53 ∧ -52 ≤ exponent := by
  cases x with
  | notANumber => exact large.elim
  | zero => exact large.elim
  | infinity s => exact .inl (congrArg _ large)
  | finite s mantissa exponent pos =>
    obtain ⟨rfl, bounds⟩ := large
    exact .inr ⟨mantissa, exponent, pos, rfl, bounds⟩

section Rounding

/-- Shifting a number of at least one with at least 53 places leaves 53 of them. -/
theorem shiftToTargetExponent_large (full : 2 ^ 52 ≤ mantissa)
    (large : 0 ≤ (mantissa.log2 : Int) + exponent) (accuracy : Accuracy) :
    2 ^ 52 ≤ (shiftToTargetExponent .binary64 mantissa exponent accuracy).1.mantissa ∧
      -52 ≤ (shiftToTargetExponent .binary64 mantissa exponent accuracy).2 := by
  have places : 52 ≤ mantissa.log2 := (Nat.le_log2 (by omega)).mpr full
  have low : 2 ^ mantissa.log2 ≤ mantissa := Nat.log2_self_le (by omega)
  simp only [shiftToTargetExponent, shiftToExponent, targetExponent_eq, mantissa_shiftRight,
    mantissa_ofMantissaAndAccuracy]
  generalize counted : (max ((mantissa.log2 : Int) + 1 + exponent - 53) (-1074) - exponent).toNat =
    count
  have shifted : mantissa.log2 = 52 + count := by omega
  refine ⟨?_, by omega⟩
  rw [Nat.le_div_iff_mul_le (Nat.two_pow_pos count), ← Nat.pow_add, ← shifted]
  exact low

/-- Rounding a number of at least one with at least 53 places gives such a number. -/
theorem roundWithAccuracy_large (sign : Sign) (full : 2 ^ 52 ≤ mantissa)
    (large : 0 ≤ (mantissa.log2 : Int) + exponent) (exponent_ge : -1074 ≤ exponent)
    (accuracy : Accuracy) :
    IsLarge sign (roundWithAccuracy .binary64 sign mantissa exponent accuracy) := by
  obtain ⟨places, reaches⟩ := shiftToTargetExponent_large full large accuracy
  have low := (shiftToTargetExponent_rounded (Nat.lt_of_lt_of_le (Nat.two_pow_pos 52) full)
    exponent_ge accuracy).exponent_ge
  simp only [roundWithAccuracy]
  generalize shiftToTargetExponent .binary64 mantissa exponent accuracy = first at *
  have rounded : 2 ^ 52 ≤ first.1.roundedMantissa := Nat.le_trans places (le_roundedMantissa _)
  -- A carry adds a place, which the second shift takes away.
  have leading : 52 ≤ first.1.roundedMantissa.log2 := (Nat.le_log2 (by omega)).mpr rounded
  have stands : 0 ≤ (first.1.roundedMantissa.log2 : Int) + first.2 := by omega
  obtain ⟨final, still⟩ := shiftToTargetExponent_large rounded stands .exact
  have small := (shiftToTargetExponent_rounded (Nat.lt_of_lt_of_le (Nat.two_pow_pos 52) rounded)
    low .exact).small
  rw [dif_neg (by omega)]
  exact ⟨rfl, final, small, still⟩

/-- A whole number that is not zero is rounded to a float of at least one. -/
theorem normalize_large {n : Nat} (pos : 0 < n) :
    IsLarge .positive (UnpackedFloat.normalize .binary64 (n : Int) 0 .positive) := by
  have low : 2 ^ n.log2 ≤ n := Nat.log2_self_le (by omega)
  have above : compare (n : Int) 0 = .gt := Int.compare_eq_gt.mpr (by omega)
  rw [UnpackedFloat.normalize, above]
  simp only [UnpackedFloat.round, decreaseExponent, targetExponent_eq, Int.toNat_natCast,
    Nat.shiftLeft_eq]
  generalize counted : (0 - max ((n.log2 : Int) + 1 + 0 - 53) (-1074)).toNat = count
  have full : 2 ^ 52 ≤ n * 2 ^ count := calc
    2 ^ 52 ≤ 2 ^ (n.log2 + count) := Nat.pow_le_pow_right (by decide) (by omega)
    _ = 2 ^ n.log2 * 2 ^ count := Nat.pow_add ..
    _ ≤ n * 2 ^ count := Nat.mul_le_mul_right _ low
  have leading : n.log2 + count ≤ (n * 2 ^ count).log2 := by
    refine (Nat.le_log2 (by omega)).mpr ?_
    rw [Nat.pow_add]
    exact Nat.mul_le_mul_right _ low
  exact roundWithAccuracy_large _ full (by omega) (by omega) _

/-- A whole number that is not zero is rounded from 53 more places. -/
theorem scientific_eq {n : Nat} (pos : 0 < n) :
    UnpackedFloat.ofScientific .binary64 n 0 =
      roundWithAccuracy .binary64 .positive (n <<< 53) (-53) .exact := by
  have bits : Format.binary64.exponentBits = 11 := rfl
  have places : Format.binary64.mantissaBits = 53 := rfl
  unfold UnpackedFloat.ofScientific
  rw [dif_neg (Nat.ne_of_gt pos), if_neg (by rw [bits]; decide), if_neg (by rw [bits]; omega),
    if_pos le_rfl]
  simp only [UnpackedFloat.mul, places, Int.toNat_zero, Nat.pow_zero, Nat.mul_one, Int.add_zero]
  rfl

/-- A product of numbers of at least one is at least one. -/
theorem mul_large (left : IsLarge .positive x) (right : IsLarge .positive y) :
    IsLarge .positive (UnpackedFloat.mul .binary64 x y) := by
  obtain rfl | ⟨m, e, _, rfl, full, -, large⟩ := left.cases <;>
    obtain rfl | ⟨n, f, _, rfl, alsoFull, -, alsoLarge⟩ := right.cases
  · rfl
  · rfl
  · rfl
  · have product : 2 ^ 52 * 2 ^ 52 ≤ m * n := Nat.mul_le_mul full alsoFull
    have leading : 104 ≤ (m * n).log2 := (Nat.le_log2 (by omega)).mpr product
    exact roundWithAccuracy_large _ (by omega) (by omega) (by omega) _

end Rounding

section Packing

/-- Packing keeps the sign. -/
theorem unpackSign_packComponents (s : Sign) (e : BitVec Format.binary64.exponentBits)
    (m : BitVec Format.binary64.mantissaBitsWithoutImplicit) :
    unpackSign (packComponents .binary64 s e m) = s.toBitVec := by
  have topmost : ∀ (bit : BitVec 1) (places : BitVec 11) (rest : BitVec 52),
      (bit ++ places ++ rest).extractLsb 63 63 = bit := by grind
  exact topmost s.toBitVec e m

/-- The components of a normal float are unpacked with a leading one before the mantissa. -/
theorem unpack_packComponents (s : Sign) (m : Nat) {e : Int} (low : -1074 ≤ e) (high : e < 972) :
    ∃ pos, UnpackedFloat.unpack .binary64 (packComponents .binary64 s
      (BitVec.ofNat 11 (e + 1075).toNat) (BitVec.ofNat 52 m)) =
        .finite s (2 ^ 52 + m % 2 ^ 52) e pos := by
  have value : (BitVec.ofNat 11 (e + 1075).toNat).toNat = (e + 1075).toNat := by
    rw [BitVec.toNat_ofNat, Nat.mod_eq_of_lt (by omega)]
  have notFull : BitVec.ofNat 11 (e + 1075).toNat ≠ -1#11 := fun full => by
    rw [full] at value
    change 2047 = _ at value
    omega
  have notBlank : BitVec.ofNat 11 (e + 1075).toNat ≠ 0#11 := fun blank => by
    rw [blank] at value
    change 0 = _ at value
    omega
  have mantissa : (1#1 ++ BitVec.ofNat 52 m).toNat = 2 ^ 52 + m % 2 ^ 52 := by
    rw [BitVec.toNat_append, BitVec.toNat_ofNat, BitVec.toNat_ofNat,
      ← Nat.shiftLeft_add_eq_or_of_lt (Nat.mod_lt m (Nat.two_pow_pos 52))]
    rfl
  have exponent : ((BitVec.ofNat 11 (e + 1075).toNat).toNat : Int) - ((1023 : Nat) + (52 : Nat)) =
      e := by
    omega
  have sign : Sign.ofBitVec s.toBitVec = s := by cases s <;> rfl
  refine ⟨by omega, ?_⟩
  unfold UnpackedFloat.unpack
  simp only [unpackMantissa_packComponents, unpackExponent_packComponents,
    unpackSign_packComponents]
  rw [if_neg notFull, if_neg notBlank]
  exact (UnpackedFloat.finite.injEq ..).mpr ⟨sign, mantissa, exponent⟩

/-- Packing keeps a number of at least one as it is, or makes it infinite. -/
theorem unpack_pack_large (large : IsLarge sign x) :
    IsLarge sign (UnpackedFloat.unpack .binary64 (UnpackedFloat.pack .binary64 x)) := by
  obtain rfl | ⟨m, e, pos, rfl, full, small, exponent_ge⟩ := large.cases
  · cases sign <;> rfl
  · have places : m.log2 = 52 := (Nat.log2_eq_iff (by omega)).mpr ⟨full, small⟩
    have biased : (e + Format.binary64.exponentBias +
        Format.binary64.mantissaBitsWithoutImplicit).toNat = (e + 1075).toNat := by
      change (e + (1023 : Nat) + (52 : Nat)).toNat = _
      omega
    simp only [UnpackedFloat.pack, biased]
    split_ifs with overflow normal
    · cases sign <;> rfl
    · have below : ¬ 2 ^ 11 ≤ (e + 1075).toNat + 1 := overflow
      obtain ⟨_, unpacked⟩ := unpack_packComponents sign m (by omega) (show e < 972 by omega)
      refine unpacked ▸ ⟨rfl, ?_, ?_, exponent_ge⟩ <;> omega
    · exact absurd (congrArg (· + 1) places) normal

end Packing

section Numbers

variable {a b : Float} {n : Nat} {number : Int}

/-- A float of at least one in size that is positive is at least one. -/
theorem one_le_of_large (large : IsLarge .positive a.toModel.unpack) : 1.0 ≤ a := by
  have one : (1.0 : Float).toModel.unpack = .finite .positive (2 ^ 52) (-52) (by decide) := by rfl
  have holds : Scalar.le 1.0 a = true := by
    obtain unpacked | ⟨m, e, pos, unpacked, full, -, exponent_ge⟩ := large.cases
    · rw [le_eq, one, unpacked]
      rfl
    · rw [le_eq, one, unpacked]
      change ((compare (-52) e).then (compare (2 ^ 52) m)).isLE = true
      rcases Int.lt_or_eq_of_le exponent_ge with higher | rfl
      · rw [compare_lt_iff_lt.mpr higher]
        rfl
      · rw [compare_eq_iff_eq.mpr rfl, Ordering.eq_then]
        exact Nat.isLE_compare.mpr full
  exact of_decide_eq_true holds

/-- A float of at least one in size that is negative is at most zero. -/
theorem le_zero_of_large (large : IsLarge .negative a.toModel.unpack) : a ≤ 0.0 := by
  have zero : (0.0 : Float).toModel.unpack = .zero .positive := by rfl
  have holds : Scalar.le a 0.0 = true := by
    obtain unpacked | ⟨m, e, pos, unpacked, -⟩ := large.cases <;>
      rw [le_eq, zero, unpacked] <;> rfl
  exact of_decide_eq_true holds

/-- A product of floats of at least one is at least one. -/
theorem IsLarge.mul (left : IsLarge .positive a.toModel.unpack)
    (right : IsLarge .positive b.toModel.unpack) : IsLarge .positive (a * b).toModel.unpack :=
  unpack_pack_large (mul_large left right)

/-- A float of at least one has a negative counterpart of the same size. -/
theorem IsLarge.neg (large : IsLarge .positive a.toModel.unpack) :
    IsLarge .negative (-a).toModel.unpack := by
  refine unpack_pack_large (x := a.toModel.unpack.neg) ?_
  obtain unpacked | ⟨m, e, pos, unpacked, bounds⟩ := large.cases
  · rw [unpacked]
    rfl
  · rw [unpacked]
    exact ⟨rfl, bounds⟩

/-- The digits of a whole number that is not zero write a float of at least one. -/
theorem ofScientific_large (pos : 0 < n) :
    IsLarge .positive (Float.ofScientific n false 0).toModel.unpack := by
  unfold Float.ofScientific
  split
  · next small =>
    have whole : IsLarge .positive n.toUInt64.toFloat.toModel.unpack := by
      have kept : n.toUInt64.toNat = n := Nat.mod_eq_of_lt (by omega)
      exact unpack_pack_large (normalize_large (kept.symm ▸ pos))
    have one : IsLarge .positive (Float.exactlyRepresentablePowersOfTen[0]).toModel.unpack :=
      ⟨rfl, by decide, by decide, by decide⟩
    exact whole.mul one
  · next large =>
    have places : 2 ^ 53 ≤ n := by omega
    refine unpack_pack_large ?_
    change IsLarge .positive (UnpackedFloat.ofScientific .binary64 n 0)
    rw [scientific_eq pos]
    have low : 2 ^ 53 * 2 ^ 53 ≤ n <<< 53 := by
      rw [Nat.shiftLeft_eq]
      exact Nat.mul_le_mul_right _ places
    have leading : 106 ≤ (n <<< 53).log2 := (Nat.le_log2 (by omega)).mpr low
    exact roundWithAccuracy_large _ (by omega) (by omega) (by decide) _

/-- A whole number within the floats has a float of at least one if it is at least one, and else one
that is at most zero. -/
theorem bounds_of_nearestFloat? (nearest : Decimal.nearestFloat? number = some a) :
    if 1 ≤ number then 1.0 ≤ a else a ≤ 0.0 := by
  unfold Decimal.nearestFloat? at nearest
  dsimp only at nearest
  split at nearest
  · cases nearest
  · cases nearest
    rcases lt_trichotomy number 0 with below | rfl | above
    · rw [if_neg (by omega), if_pos below]
      exact le_zero_of_large (ofScientific_large (by omega)).neg
    · decide
    · rw [if_pos (by omega), if_neg (by omega)]
      exact one_le_of_large (ofScientific_large (by omega))

end Numbers

end Storefront.Floats
