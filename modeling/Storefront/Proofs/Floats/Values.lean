import Storefront.Decimal.Binary
import Storefront.Proofs.Floats.Rounding
/-!
# Floats on the number line

A float that is neither infinite nor undefined is a whole number of steps, a step being the smallest
float above zero. The bits of a float say how many, and comparing floats, exponents before
mantissas, is comparing numbers of steps. With an infinity at either end this is a line on which
whole numbers have their places as well, so both kinds of numbers are in one order.
-/

namespace Storefront

/-- The line on which numbers have their places: an infinity at either end, and between them the
numbers of steps. -/
abbrev NumberLine := ℤ ×ₗ ℤ

namespace NumberLine

/-- The place of the negative infinity. -/
def bottom : NumberLine := toLex (-1, 0)

/-- The place of a number of steps. -/
def stepped (steps : ℤ) : NumberLine := toLex (0, steps)

/-- The place of the positive infinity. -/
def top : NumberLine := toLex (1, 0)

variable {a b : ℤ}

@[simp] theorem stepped_lt_stepped : stepped a < stepped b ↔ a < b := by
  simp [stepped, Prod.Lex.toLex_lt_toLex]

@[simp] theorem bottom_lt_stepped : bottom < stepped a := by
  simp [bottom, stepped, Prod.Lex.toLex_lt_toLex]

@[simp] theorem stepped_lt_top : stepped a < top := by
  simp [top, stepped, Prod.Lex.toLex_lt_toLex]

@[simp] theorem bottom_lt_top : bottom < top := bottom_lt_stepped.trans (stepped_lt_top (a := 0))

theorem compare_stepped (a b : ℤ) : compare (stepped a) (stepped b) = compare a b := by
  rw [← cmp_eq_compare, ← cmp_eq_compare]
  exact StrictMono.cmp_map_eq (fun _ _ lower => stepped_lt_stepped.mpr lower) a b

end NumberLine

open NumberLine

namespace Decimal

/-- An exact value in steps of the smallest float. -/
def Binary.steps (value : Binary) : ℤ :=
  let size : ℤ := value.mantissa * 2 ^ (value.exponent + 1074).toNat
  if value.negative then -size else size

/-- The place of what a float stands for; an undefined float has none. -/
def Reading.place? : Reading → Option NumberLine
  | .finite value => some (stepped value.steps)
  | .infinite negative => some (if negative then bottom else top)
  | .undefined => none

end Decimal

namespace Floats

open Float.Model Float.Model.UnpackedFloat

section Bits

variable (x : Float)

/-- The lowest bits of a float are its mantissa. -/
theorem fraction_eq :
    (x.toBits &&& 0xFFFFFFFFFFFFF).toNat =
      (@unpackMantissa .binary64 x.toBits.toBitVec).toNat := by
  rw [unpackMantissa_def, BitVec.extractLsb'_toNat, UInt64.toNat_and]
  change x.toBits.toNat &&& (2 ^ 52 - 1) = x.toBits.toNat >>> 0 % 2 ^ 52
  rw [Nat.and_two_pow_sub_one_eq_mod, Nat.shiftRight_zero]

/-- The bits above the mantissa are the exponent. -/
theorem exponent_eq :
    ((x.toBits >>> 52) &&& 0x7FF).toNat =
      (@unpackExponent .binary64 x.toBits.toBitVec).toNat := by
  rw [unpackExponent_def, BitVec.extractLsb'_toNat, UInt64.toNat_and, UInt64.toNat_shiftRight]
  change x.toBits.toNat >>> 52 &&& (2 ^ 11 - 1) = x.toBits.toNat >>> 52 % 2 ^ 11
  rw [Nat.and_two_pow_sub_one_eq_mod]

/-- The highest bit is the sign. -/
theorem sign_eq :
    Sign.ofBitVec (@unpackSign .binary64 x.toBits.toBitVec) =
      if x.toBits >>> 63 == 1 then .negative else .positive := by
  have size := x.toBits.toNat_lt
  have one : (x.toBits >>> 63 == 1) = true ↔
      ¬ @unpackSign .binary64 x.toBits.toBitVec = 0#1 := by
    rw [beq_iff_eq, ← UInt64.toNat_inj, ← BitVec.toNat_inj, unpackSign_def,
      BitVec.extractLsb'_toNat, UInt64.toNat_shiftRight]
    change x.toBits.toNat >>> 63 = 1 ↔ ¬ x.toBits.toNat >>> 63 % 2 ^ 1 = 0
    omega
  rw [Sign.ofBitVec]
  split
  · next zero => rw [if_neg fun set => one.mp set zero]
  · next set => rw [if_pos (one.mpr set)]

/-- A float unpacks to what it stands for. -/
theorem unpack_eq :
    x.toModel.unpack =
      match Decimal.Reading.ofFloat x with
      | .undefined => .notANumber
      | .infinite negative => .infinity (if negative then .negative else .positive)
      | .finite value =>
        let sign := if value.negative then .negative else .positive
        if pos : 0 < value.mantissa then .finite sign value.mantissa value.exponent pos
        else .zero sign := by
  have small : (@unpackMantissa .binary64 x.toBits.toBitVec).toNat < 2 ^ 52 :=
    (unpackMantissa _).isLt
  have full : @unpackExponent .binary64 x.toBits.toBitVec = -1#11 ↔
      ((x.toBits >>> 52) &&& 0x7FF).toNat == 0x7FF := by
    rw [exponent_eq, ← BitVec.toNat_inj, beq_iff_eq]
    rfl
  have low : @unpackExponent .binary64 x.toBits.toBitVec = 0#11 ↔
      ((x.toBits >>> 52) &&& 0x7FF).toNat == 0 := by
    rw [exponent_eq, ← BitVec.toNat_inj, beq_iff_eq]
    rfl
  have blank : @unpackMantissa .binary64 x.toBits.toBitVec = 0#52 ↔
      (x.toBits &&& 0xFFFFFFFFFFFFF).toNat == 0 := by
    rw [fraction_eq, ← BitVec.toNat_inj, beq_iff_eq]
    rfl
  change UnpackedFloat.unpack .binary64 x.toBits.toBitVec = _
  unfold UnpackedFloat.unpack Decimal.Reading.ofFloat
  dsimp only
  rw [sign_eq]
  by_cases ends : @unpackExponent .binary64 x.toBits.toBitVec = -1#11
  · rw [if_pos ends, if_pos (full.mp ends)]
    by_cases none : @unpackMantissa .binary64 x.toBits.toBitVec = 0#52
    · rw [if_pos none, if_pos (blank.mp none)]
    · rw [if_neg none, if_neg (mt blank.mpr none)]
  · rw [if_neg ends, if_neg (mt full.mpr ends)]
    by_cases smallest : @unpackExponent .binary64 x.toBits.toBitVec = 0#11
    · rw [if_pos smallest, if_pos (low.mp smallest)]
      dsimp only
      by_cases none : @unpackMantissa .binary64 x.toBits.toBitVec = 0#52
      · rw [dif_pos none, dif_neg (by rw [beq_iff_eq.mp (blank.mp none)]; exact lt_irrefl 0)]
      · have pos := Nat.pos_of_ne_zero (mt beq_iff_eq.mpr (mt blank.mpr none))
        rw [dif_neg none, dif_pos pos]
        simp only [fraction_eq, smallest]
        rfl
    · rw [if_neg smallest, if_neg (mt low.mpr smallest)]
      dsimp only
      rw [dif_pos (by omega)]
      simp only [fraction_eq, exponent_eq, UnpackedFloat.finite.injEq, true_and]
      refine ⟨?_, rfl⟩
      rw [BitVec.toNat_append, ← Nat.shiftLeft_add_eq_or_of_lt small]
      rfl

/-- The exponent of a finite float is at least that of the smallest one. -/
theorem exponent_ge_of_finite {x : Float} {value : Decimal.Binary}
    (reads : Decimal.Reading.ofFloat x = .finite value) : -1074 ≤ value.exponent := by
  unfold Decimal.Reading.ofFloat at reads
  dsimp only at reads
  split_ifs at reads with ends blank smallest
  · cases reads
    exact le_refl _
  · cases reads
    rw [beq_iff_eq] at smallest
    dsimp only
    omega

end Bits

section Places

/-- The place of an unpacked float; an undefined one has none. -/
def placeOf : UnpackedFloat → Option NumberLine
  | .infinity .negative => some bottom
  | .infinity .positive => some top
  | .notANumber => none
  | .zero _ => some (stepped 0)
  | .finite .negative mantissa exponent _ =>
    some (stepped (-(mantissa * 2 ^ (exponent + 1074).toNat)))
  | .finite .positive mantissa exponent _ =>
    some (stepped (mantissa * 2 ^ (exponent + 1074).toNat))

/-- A float has the place of what it stands for. -/
theorem placeOf_unpack (x : Float) :
    placeOf x.toModel.unpack = (Decimal.Reading.ofFloat x).place? := by
  rw [unpack_eq]
  rcases Decimal.Reading.ofFloat x with ⟨_ | _, _ | mantissa, exponent, narrow⟩ | (_ | _) | _
  all_goals simp [placeOf, Decimal.Reading.place?, Decimal.Binary.steps]

/-- A greater exponent means more steps, since only the smallest exponent has mantissas that are not
full. -/
theorem steps_lt_of_exponent {m n : Nat} {e f : Int} (small : m < 2 ^ 53) (low : -1074 ≤ e)
    (full : f = -1074 ∨ 2 ^ 52 ≤ n) (higher : e < f) :
    (m * 2 ^ (e + 1074).toNat : ℤ) < n * 2 ^ (f + 1074).toNat := by
  have places : 2 ^ 52 ≤ n := full.resolve_left (by omega)
  have doubled : (e + 1074).toNat + 1 ≤ (f + 1074).toNat := by omega
  have counts : m * 2 ^ (e + 1074).toNat < n * 2 ^ (f + 1074).toNat := calc
    m * 2 ^ (e + 1074).toNat < 2 ^ 53 * 2 ^ (e + 1074).toNat :=
      Nat.mul_lt_mul_of_pos_right small (Nat.two_pow_pos _)
    _ = 2 ^ 52 * 2 ^ ((e + 1074).toNat + 1) := by ring
    _ ≤ 2 ^ 52 * 2 ^ (f + 1074).toNat :=
      Nat.mul_le_mul_left _ (Nat.pow_le_pow_right (by decide) doubled)
    _ ≤ n * 2 ^ (f + 1074).toNat := Nat.mul_le_mul_right _ places
  exact_mod_cast counts

/-- A mantissa that is not zero makes at least one step. -/
theorem steps_pos {m : Nat} (e : Int) (pos : 0 < m) : (0 : ℤ) < m * 2 ^ (e + 1074).toNat := by
  positivity

/-- Comparing exponents and then mantissas is comparing steps. -/
theorem compare_then_compare {m n : Nat} {e f : Int} (first : Rounded m e) (second : Rounded n f)
    (fullFirst : e = -1074 ∨ 2 ^ 52 ≤ m) (fullSecond : f = -1074 ∨ 2 ^ 52 ≤ n) :
    (compare e f).then (compare m n) =
      compare (m * 2 ^ (e + 1074).toNat : ℤ) (n * 2 ^ (f + 1074).toNat) := by
  rcases lt_trichotomy e f with lower | rfl | higher
  · rw [compare_lt_iff_lt.mpr lower, compare_lt_iff_lt.mpr
      (steps_lt_of_exponent first.small first.exponent_ge fullSecond lower)]
    rfl
  · have pos : (0 : ℤ) < 2 ^ (e + 1074).toNat := by positivity
    rw [compare_eq_iff_eq.mpr rfl, Ordering.eq_then, ← cmp_eq_compare, ← cmp_eq_compare,
      cmp_mul_pos_right pos]
    exact (StrictMono.cmp_map_eq Nat.strictMono_cast m n).symm
  · rw [compare_gt_iff_gt.mpr higher, compare_gt_iff_gt.mpr
      (steps_lt_of_exponent second.small second.exponent_ge fullFirst higher)]
    rfl

/-- Changing the signs of two numbers swaps their order. -/
theorem compare_neg_neg (a b : ℤ) : compare (-a) (-b) = (compare a b).swap := by
  rw [← cmp_eq_compare, ← cmp_eq_compare, cmp_swap]
  exact StrictAnti.cmp_map_eq (fun _ _ lower => neg_lt_neg lower) a b

/-- Floats are compared by their places. -/
theorem compare_eq_places (x y : Float) :
    x.toModel.unpack.compare y.toModel.unpack =
      (Decimal.Reading.ofFloat x).place?.bind fun p =>
        (Decimal.Reading.ofFloat y).place?.map fun q => compare p q := by
  rw [← placeOf_unpack, ← placeOf_unpack]
  rcases first : x.toModel.unpack with (_ | _) | _ | (_ | _) | ⟨_ | _, m, e, pos⟩ <;>
    rcases second : y.toModel.unpack with (_ | _) | _ | (_ | _) | ⟨_ | _, n, f, alsoPos⟩ <;>
    simp [UnpackedFloat.compare, placeOf, compare_stepped, eq_comm (a := Ordering.lt),
      eq_comm (a := Ordering.gt), compare_lt_iff_lt, compare_gt_iff_gt, *]
  case infinity.negative.infinity.negative => rfl
  case infinity.positive.infinity.positive => rfl
  case infinity.negative.infinity.positive => exact (compare_lt_iff_lt.mpr bottom_lt_top).symm
  case infinity.positive.infinity.negative => exact (compare_gt_iff_gt.mpr bottom_lt_top).symm
  -- Between a negative and a positive float no place needs to be computed.
  case finite.negative.finite.positive =>
    exact (neg_lt_zero.mpr (steps_pos e pos)).trans (steps_pos f alsoPos)
  case finite.positive.finite.negative =>
    exact (neg_lt_zero.mpr (steps_pos f alsoPos)).trans (steps_pos e pos)
  case finite.positive.finite.positive =>
    obtain ⟨bounds, full⟩ := bounds_of_unpack_eq_finite first
    obtain ⟨alsoBounds, alsoFull⟩ := bounds_of_unpack_eq_finite second
    exact compare_then_compare bounds alsoBounds full alsoFull
  case finite.negative.finite.negative =>
    obtain ⟨bounds, full⟩ := bounds_of_unpack_eq_finite first
    obtain ⟨alsoBounds, alsoFull⟩ := bounds_of_unpack_eq_finite second
    rw [compare_neg_neg, compare_then_compare bounds alsoBounds full alsoFull]

end Places

end Floats

end Storefront
