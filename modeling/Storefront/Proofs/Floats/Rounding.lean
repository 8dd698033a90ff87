import Storefront.Proofs.Floats.Comparison
/-!
# Sums that are zero

A sum of floats is computed exactly on mantissas and exponents, rounded, and packed. Rounding a
number that is a multiple of the smallest float never gives zero, and packing keeps what rounding
gave; so a sum is zero only when it is zero exactly. The one float whose sum with one is zero is
minus one.
-/

namespace Storefront.Floats

open Float.Model Float.Model.UnpackedFloat

/-- The mantissa and the exponent of a rounded number that is not zero. -/
structure Rounded (mantissa : Nat) (exponent : Int) : Prop where
  pos : 0 < mantissa
  small : mantissa < 2 ^ 53
  exponent_ge : -1074 ≤ exponent

section Shifting

/-- Shifting by single places divides the mantissa. -/
theorem mantissa_shiftRight (extended : ExtendedMantissa) (count : Nat) :
    (extended >>> count).mantissa = extended.mantissa / 2 ^ count := by
  change (Nat.repeat ExtendedMantissa.shiftRightOne count extended).mantissa = _
  induction count with
  | zero => simp [Nat.repeat]
  | succ count ih =>
    rw [Nat.repeat, ExtendedMantissa.shiftRightOne, ih, Nat.div_div_eq_div_mul, ← Nat.pow_succ]

/-- Rounding a mantissa does not make it smaller. -/
theorem le_roundedMantissa (extended : ExtendedMantissa) :
    extended.mantissa ≤ extended.roundedMantissa := by
  rcases extended with ⟨mantissa, _ | _, _ | _⟩ <;>
    simp [ExtendedMantissa.roundedMantissa, ExtendedMantissa.accuracy,
      Accuracy.roundToNearestEven]

/-- Starting from an accuracy keeps the mantissa. -/
theorem mantissa_ofMantissaAndAccuracy (mantissa : Nat) (accuracy : Accuracy) :
    (ExtendedMantissa.ofMantissaAndAccuracy mantissa accuracy).mantissa = mantissa := by
  rcases accuracy with _ | (_ | _ | _) <;> rfl

/-- The exponent that a number is shifted to: 53 places below its leading one, and not below the
exponent of the smallest float. -/
theorem targetExponent_eq (mantissa : Nat) (exponent : Int) :
    Format.binary64.targetExponent (totalExponent mantissa exponent) =
      max (mantissa.log2 + 1 + exponent - 53) (-1074) := by
  rfl

/-- Shifting a multiple of the smallest float leaves at least one and at most 53 places. -/
theorem shiftToTargetExponent_rounded {mantissa : Nat} {exponent : Int} (pos : 0 < mantissa)
    (exponent_ge : -1074 ≤ exponent) (accuracy : Accuracy) :
    Rounded (shiftToTargetExponent .binary64 mantissa exponent accuracy).1.mantissa
      (shiftToTargetExponent .binary64 mantissa exponent accuracy).2 := by
  have low : 2 ^ mantissa.log2 ≤ mantissa := Nat.log2_self_le (by omega)
  have high : mantissa < 2 ^ (mantissa.log2 + 1) := Nat.lt_log2_self
  simp only [shiftToTargetExponent, shiftToExponent, targetExponent_eq, mantissa_shiftRight,
    mantissa_ofMantissaAndAccuracy]
  generalize counted : (max ((mantissa.log2 : Int) + 1 + exponent - 53) (-1074) - exponent).toNat =
    count
  have short : count ≤ mantissa.log2 := by omega
  have long : mantissa.log2 + 1 ≤ 53 + count := by omega
  refine ⟨?pos, ?small, by omega⟩
  case pos =>
    exact Nat.div_pos (Nat.le_trans (Nat.pow_le_pow_right (by decide) short) low)
      (Nat.two_pow_pos count)
  case small =>
    have bound : mantissa < 2 ^ count * 2 ^ 53 := by
      rw [← Nat.pow_add, Nat.add_comm]
      exact Nat.lt_of_lt_of_le high (Nat.pow_le_pow_right (by decide) long)
    exact Nat.div_lt_of_lt_mul bound

/-- Rounding a multiple of the smallest float gives a float that is not zero. -/
theorem roundWithAccuracy_finite (sign : Sign) {mantissa : Nat} {exponent : Int}
    (pos : 0 < mantissa) (exponent_ge : -1074 ≤ exponent) (accuracy : Accuracy) :
    ∃ m e h, roundWithAccuracy .binary64 sign mantissa exponent accuracy = .finite sign m e h ∧
      Rounded m e := by
  have first := shiftToTargetExponent_rounded pos exponent_ge accuracy
  have rounded := Nat.lt_of_lt_of_le first.pos (le_roundedMantissa _)
  have second := shiftToTargetExponent_rounded rounded first.exponent_ge .exact
  refine ⟨_, _, second.pos, ?_, second⟩
  simp only [roundWithAccuracy]
  rw [dif_neg (Nat.pos_iff_ne_zero.mp second.pos)]

/-- Rounding a mantissa that is not zero, at an exponent that is not too small, gives a float that
is not zero. -/
theorem normalize_finite {mantissa exponent : Int} (nonzero : mantissa ≠ 0)
    (exponent_ge : -1074 ≤ exponent) (zeroSign : Sign) :
    ∃ sign m e h,
      UnpackedFloat.normalize .binary64 mantissa exponent zeroSign = .finite sign m e h ∧
        Rounded m e := by
  have rounds : ∀ (sign : Sign) {size : Nat}, 0 < size →
      ∃ m e h, UnpackedFloat.round .binary64 sign size exponent = .finite sign m e h ∧
        Rounded m e := by
    intro sign size pos
    simp only [UnpackedFloat.round, decreaseExponent, targetExponent_eq]
    refine roundWithAccuracy_finite sign ?_ (by omega) .exact
    rw [Nat.shiftLeft_eq]
    exact Nat.mul_pos pos (Nat.two_pow_pos _)
  unfold UnpackedFloat.normalize
  rcases compared : compare mantissa 0 with _ | _ | _
  · obtain ⟨m, e, h, equal, bounds⟩ := rounds .negative
      (show 0 < (-mantissa).toNat by have := Int.compare_eq_lt.mp compared; omega)
    exact ⟨_, m, e, h, equal, bounds⟩
  · exact absurd (Int.compare_eq_eq.mp compared) nonzero
  · obtain ⟨m, e, h, equal, bounds⟩ := rounds .positive
      (show 0 < mantissa.toNat by have := Int.compare_eq_gt.mp compared; omega)
    exact ⟨_, m, e, h, equal, bounds⟩

end Shifting

section Packing

/-- A packed float is a zero exactly when its exponent and its mantissa have no bit set. -/
theorem unpack_eq_zero_iff (bits : BitVec Format.binary64.numBits) :
    (∃ sign, UnpackedFloat.unpack .binary64 bits = .zero sign) ↔
      unpackExponent bits = 0#11 ∧ unpackMantissa bits = 0#52 := by
  have ends : (0#11 : BitVec Format.binary64.exponentBits) ≠ -1#11 := by decide
  unfold UnpackedFloat.unpack
  constructor
  · rintro ⟨sign, equal⟩
    dsimp only at equal
    split_ifs at equal
    next _ first blank => exact ⟨first, blank⟩
  · rintro ⟨exponent, mantissa⟩
    simp only [exponent, mantissa]
    exact ⟨_, rfl⟩

/-- Packing a rounded number does not turn it into zero. -/
theorem unpack_pack_ne_zero (sign : Sign) {mantissa : Nat} {exponent : Int}
    (bounds : Rounded mantissa exponent) (zeroSign : Sign) :
    UnpackedFloat.unpack .binary64
      (UnpackedFloat.pack .binary64 (.finite sign mantissa exponent bounds.pos)) ≠
        .zero zeroSign := by
  intro zero
  obtain ⟨noExponent, noMantissa⟩ := (unpack_eq_zero_iff _).mp ⟨zeroSign, zero⟩
  have bias : (exponent + Format.binary64.exponentBias +
      Format.binary64.mantissaBitsWithoutImplicit).toNat = (exponent + 1075).toNat := by
    change (exponent + (1023 : Nat) + (52 : Nat)).toNat = _
    omega
  have low := bounds.exponent_ge
  have high := bounds.small
  have pos := bounds.pos
  simp only [UnpackedFloat.pack, bias] at noExponent noMantissa
  split_ifs at noExponent noMantissa with overflow normal
  · simp [packedInfinity] at noExponent
  · rw [unpackExponent_packComponents] at noExponent
    have value := congrArg BitVec.toNat noExponent
    simp only [BitVec.toNat_ofNat] at value
    omega
  · rw [unpackMantissa_packComponents] at noMantissa
    have value := congrArg BitVec.toNat noMantissa
    have short : mantissa < 2 ^ 52 := by
      have bits : mantissa.log2 < 53 := (Nat.log2_lt (by omega)).mpr high
      have notNormal : mantissa.log2 + 1 ≠ 53 := normal
      exact (Nat.log2_lt (by omega)).mp (by omega)
    simp only [BitVec.toNat_ofNat] at value
    omega

/-- A sum is zero only if its exact value is. -/
theorem unpack_pack_normalize_eq_zero {mantissa exponent : Int} (exponent_ge : -1074 ≤ exponent)
    {sign zeroSign : Sign}
    (zero : UnpackedFloat.unpack .binary64
      (UnpackedFloat.pack .binary64 (UnpackedFloat.normalize .binary64 mantissa exponent sign)) =
        .zero zeroSign) :
    mantissa = 0 := by
  by_contra nonzero
  obtain ⟨s, m, e, h, equal, bounds⟩ := normalize_finite nonzero exponent_ge sign
  rw [equal] at zero
  exact unpack_pack_ne_zero s bounds zeroSign zero

end Packing

section MinusOne

/-- The parts of a packed float that unpacks to a finite number: below the normal floats the
exponent is the smallest one, among them the leading one of the mantissa is not stored. -/
theorem unpack_eq_finite {bits : BitVec Format.binary64.numBits} {sign : Sign} {mantissa : Nat}
    {exponent : Int} {pos : 0 < mantissa}
    (equal : UnpackedFloat.unpack .binary64 bits = .finite sign mantissa exponent pos) :
    exponent = -1074 ∧ mantissa = (unpackMantissa bits).toNat ∨
      mantissa = 2 ^ 52 + (unpackMantissa bits).toNat ∧
        exponent = ((unpackExponent bits).toNat : Int) - 1075 ∧
        0 < (unpackExponent bits).toNat := by
  unfold UnpackedFloat.unpack at equal
  dsimp only at equal
  split_ifs at equal
  next _ first _ =>
    simp only [UnpackedFloat.finite.injEq] at equal
    obtain ⟨rfl, rfl, rfl⟩ := equal
    refine .inl ⟨?_, rfl⟩
    rw [first]
    rfl
  next _ normal =>
    simp only [UnpackedFloat.finite.injEq] at equal
    obtain ⟨rfl, rfl, rfl⟩ := equal
    refine .inr ⟨?_, ?_, ?_⟩
    · rw [BitVec.toNat_append, ← Nat.shiftLeft_add_eq_or_of_lt (unpackMantissa bits).isLt]
      rfl
    · change ((unpackExponent bits).toNat : Int) - ((1023 : Nat) + (52 : Nat)) = _
      omega
    · exact Nat.pos_of_ne_zero fun zero => normal (BitVec.eq_of_toNat_eq zero)

/-- A packed float that unpacks to a finite number is a multiple of the smallest float, and has all
53 places of its mantissa unless its exponent is the smallest one. -/
theorem bounds_of_unpack_eq_finite {bits : BitVec Format.binary64.numBits} {sign : Sign}
    {mantissa : Nat} {exponent : Int} {pos : 0 < mantissa}
    (equal : UnpackedFloat.unpack .binary64 bits = .finite sign mantissa exponent pos) :
    Rounded mantissa exponent ∧ (exponent = -1074 ∨ 2 ^ 52 ≤ mantissa) := by
  have stored : (unpackMantissa bits).toNat < 2 ^ 52 := (unpackMantissa bits).isLt
  obtain ⟨smallest, places⟩ | ⟨places, stands, normal⟩ := unpack_eq_finite equal
  · exact ⟨⟨pos, by omega, by omega⟩, .inl smallest⟩
  · exact ⟨⟨pos, by omega, by omega⟩, .inr (by omega)⟩

/-- Only minus one unpacks to minus one. -/
theorem eq_minusOne {x : Float} {pos : 0 < 2 ^ 52}
    (equal : x.toModel.unpack = .finite .negative (2 ^ 52) (-52) pos) : x = -1.0 := by
  have minusOne : (-1.0 : Float).toModel.unpack = .finite .negative (2 ^ 52) (-52) pos := by rfl
  apply Float.toBits_inj.mp
  apply UInt64.toBitVec_inj.mp
  exact (unpack_inj_of_valid x.toModel.valid (-1.0 : Float).toModel.valid).mp
    (equal.trans minusOne.symm)

/-- If a number with 53 places, or with fewer at the smallest exponent, is one, then it is written
like one. -/
theorem eq_one_of_cancelled {mantissa : Nat} {exponent : Int} (bounds : Rounded mantissa exponent)
    (full : exponent = -1074 ∨ 2 ^ 52 ≤ mantissa)
    (cancelled : mantissa <<< (exponent - min exponent (-52)).toNat =
      2 ^ 52 <<< (-52 - min exponent (-52)).toNat) :
    mantissa = 2 ^ 52 ∧ exponent = -52 := by
  have small := bounds.small
  rw [Nat.shiftLeft_eq, Nat.shiftLeft_eq] at cancelled
  by_cases below : exponent < -52
  · -- Below one's exponent the shifted one has more places than any mantissa.
    have kept : (exponent - min exponent (-52)).toNat = 0 := by omega
    have shifted : 2 ^ 1 ≤ 2 ^ (-52 - min exponent (-52)).toNat :=
      Nat.pow_le_pow_right (by decide) (by omega)
    rw [kept] at cancelled
    omega
  · have kept : (-52 - min exponent (-52)).toNat = 0 := by omega
    have pos := Nat.two_pow_pos (exponent - min exponent (-52)).toNat
    rw [kept, Nat.pow_zero, Nat.mul_one] at cancelled
    have places : 2 ^ 52 ≤ mantissa := by omega
    have unshifted : 2 ^ (exponent - min exponent (-52)).toNat = 1 := by
      by_contra more
      have twice := Nat.mul_le_mul places
        (show 2 ≤ 2 ^ (exponent - min exponent (-52)).toNat by omega)
      omega
    have none : (exponent - min exponent (-52)).toNat = 0 := by
      by_contra some
      exact absurd unshifted (Nat.ne_of_gt (Nat.one_lt_two_pow some))
    rw [unshifted] at cancelled
    omega

/-- A float whose exact sum with one is zero is minus one. -/
theorem eq_minusOne_of_cancelled {x : Float} {sign : Sign} {mantissa : Nat} {exponent : Int}
    {pos : 0 < mantissa} (unpacked : x.toModel.unpack = .finite sign mantissa exponent pos)
    (cancelled : sign.apply (mantissa <<< (exponent - min exponent (-52)).toNat : Nat) +
      (2 ^ 52 <<< (-52 - min exponent (-52)).toNat : Nat) = 0) : x = -1.0 := by
  obtain ⟨bounds, full⟩ := bounds_of_unpack_eq_finite unpacked
  cases sign with
  | positive =>
    have pos : 0 < 2 ^ 52 <<< (-52 - min exponent (-52)).toNat := by
      rw [Nat.shiftLeft_eq]
      exact Nat.mul_pos (by decide) (Nat.two_pow_pos _)
    simp only [Sign.apply] at cancelled
    exact absurd (Nat.add_eq_zero_iff.mp (Int.ofNat_inj.mp cancelled)).2 (Nat.ne_of_gt pos)
  | negative =>
    simp only [Sign.apply] at cancelled
    obtain ⟨rfl, rfl⟩ := eq_one_of_cancelled bounds full (by omega)
    exact eq_minusOne unpacked

/-- Adding one to a float gives zero exactly when the float is minus one. -/
theorem isZero_add_one_iff (x : Float) : Scalar.isZero (x + 1.0) = true ↔ x = -1.0 := by
  constructor
  · intro zero
    obtain ⟨zeroSign, zero⟩ := (isZero_iff _).mp zero
    have one : (1.0 : Float).toModel.unpack = .finite .positive (2 ^ 52) (-52) (by decide) := by rfl
    change UnpackedFloat.unpack .binary64 (UnpackedFloat.pack .binary64
      (UnpackedFloat.add .binary64 x.toModel.unpack (1.0 : Float).toModel.unpack)) = _ at zero
    rw [one] at zero
    rcases unpacked : x.toModel.unpack with infinite | _ | s | ⟨sign, mantissa, exponent, pos⟩
    · rw [unpacked] at zero
      cases infinite <;> cases zero
    · rw [unpacked] at zero
      cases zero
    · rw [unpacked] at zero
      cases s <;> cases zero
    · rw [unpacked] at zero
      have low := (bounds_of_unpack_eq_finite unpacked).1.exponent_ge
      exact eq_minusOne_of_cancelled unpacked (unpack_pack_normalize_eq_zero (by omega) zero)
  · rintro rfl
    decide

end MinusOne

end Storefront.Floats
