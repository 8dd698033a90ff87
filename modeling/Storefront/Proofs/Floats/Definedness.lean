import Mathlib
import Storefront.Numeral
import Storefront.Proofs.Floats.Comparison
/-!
# Undefined floats

The undefined float comes from itself and from operations on zeros and infinities. Packing and
negation keep it, and rounding does not give it; so no digits write it, however large the number or
the exponent. Text reads as the undefined float exactly if it spells the name of it.
-/

namespace Storefront

namespace Floats

open Float.Model Float.Model.UnpackedFloat

section Packing

variable (s : Sign) (e : BitVec Format.binary64.exponentBits)
  (m : BitVec Format.binary64.mantissaBitsWithoutImplicit)

/-- Only a full exponent with something in the mantissa is packed for an undefined float. -/
theorem isNaN_unpack_packComponents :
    (UnpackedFloat.unpack .binary64 (packComponents .binary64 s e m)).isNaN =
      decide (e = -1#_ ∧ m ≠ 0#_) := by
  unfold UnpackedFloat.unpack
  simp only [unpackExponent_packComponents, unpackMantissa_packComponents]
  split_ifs <;> simp_all [UnpackedFloat.isNaN]

/-- Packing keeps floats defined, and undefined ones undefined. -/
theorem isNaN_unpack_pack (x : UnpackedFloat) :
    (UnpackedFloat.unpack .binary64 (UnpackedFloat.pack .binary64 x)).isNaN = x.isNaN := by
  rcases x with s | _ | s | ⟨s, m, e, pos⟩
  case infinity => exact (isNaN_unpack_packComponents ..).trans (decide_eq_false (by simp))
  case notANumber => exact (isNaN_unpack_packComponents ..).trans (decide_eq_true (by decide))
  case zero => exact (isNaN_unpack_packComponents ..).trans (decide_eq_false (by simp))
  case finite =>
    change _ = false
    simp only [UnpackedFloat.pack]
    split_ifs with overflow normal
    · exact (isNaN_unpack_packComponents ..).trans (decide_eq_false (by simp))
    · rw [isNaN_unpack_packComponents]
      refine decide_eq_false fun full => ?_
      have ends := congrArg BitVec.toNat full.1
      have below : ¬ 2 ^ 11 ≤ (e + Format.binary64.exponentBias +
        Format.binary64.mantissaBitsWithoutImplicit).toNat + 1 := overflow
      rw [BitVec.toNat_ofNat, Nat.mod_eq_of_lt (by omega)] at ends
      change _ = 2047 at ends
      omega
    · rw [isNaN_unpack_packComponents]
      exact decide_eq_false fun full => absurd full.1 (by decide)

/-- What is packed into a float is defined exactly if it was. -/
theorem isNaN_ofModel_pack (x : UnpackedFloat) :
    (Float.ofModel (Float.Model.pack x)).isNaN = x.isNaN := isNaN_unpack_pack x

end Packing

section Rounding

variable {x : UnpackedFloat} (sign : Sign) (mantissa : Nat) (exponent : Int)

/-- Rounding gives a defined float. -/
theorem isNaN_roundWithAccuracy (accuracy : Accuracy) :
    (roundWithAccuracy .binary64 sign mantissa exponent accuracy).isNaN = false := by
  simp only [roundWithAccuracy]
  split <;> rfl

/-- A whole number times a power of two is rounded to a defined float. -/
theorem isNaN_normalize (mantissa exponent : Int) (sign : Sign) :
    (UnpackedFloat.normalize .binary64 mantissa exponent sign).isNaN = false := by
  unfold UnpackedFloat.normalize
  split
  · exact isNaN_roundWithAccuracy ..
  · rfl
  · exact isNaN_roundWithAccuracy ..

/-- A defined float times a finite one that is not zero is defined. -/
theorem isNaN_mul_finite (defined : x.isNaN = false) (pos : 0 < mantissa) :
    (UnpackedFloat.mul .binary64 x (.finite sign mantissa exponent pos)).isNaN = false := by
  cases x with
  | notANumber => cases defined
  | infinity s => rfl
  | zero s => rfl
  | finite => exact isNaN_roundWithAccuracy ..

/-- A defined float divided by a finite one that is not zero is defined. -/
theorem isNaN_div_finite (defined : x.isNaN = false) (pos : 0 < mantissa) :
    (UnpackedFloat.div .binary64 x (.finite sign mantissa exponent pos)).isNaN = false := by
  cases x with
  | notANumber => cases defined
  | infinity s => rfl
  | zero s => rfl
  | finite => exact isNaN_roundWithAccuracy ..

/-- A whole number times a power of ten is rounded to a defined float. -/
theorem isNaN_scientific :
    (UnpackedFloat.ofScientific .binary64 mantissa exponent).isNaN = false := by
  unfold UnpackedFloat.ofScientific
  split_ifs
  · rfl
  · rfl
  · rfl
  · exact isNaN_mul_finite _ _ _ rfl _
  · exact isNaN_div_finite _ _ _ rfl _

end Rounding

section Arithmetic

variable {x y : Float}

/-- A changed sign keeps a float defined, or undefined. -/
theorem isNaN_neg (x : Float) : (-x).isNaN = x.isNaN := by
  refine (isNaN_ofModel_pack x.toModel.unpack.neg).trans ?_
  change _ = x.toModel.unpack.isNaN
  cases x.toModel.unpack <;> rfl

/-- Only defined floats are at most each other. -/
theorem defined_of_le (atMost : x ≤ y) : x.isNaN = false ∧ y.isNaN = false := by
  have lower : Scalar.le x y = true := decide_eq_true atMost
  rw [le_eq, Option.any_eq_true] at lower
  obtain ⟨order, compared, -⟩ := lower
  exact defined_of_compare compared

/-- A float is not above one that it is at most. -/
theorem not_lt_of_le (atMost : x ≤ y) : Scalar.lt y x = false := by
  have lower : Scalar.le x y = true := decide_eq_true atMost
  rw [le_eq, Option.any_eq_true] at lower
  obtain ⟨order, compared, isLE⟩ := lower
  rw [lt_eq, compare_swap x.toModel.unpack y.toModel.unpack, compared]
  cases order with
  | lt => rfl
  | eq => rfl
  | gt => cases isLE

/-- Undefined floats are not above or below any. -/
theorem not_lt_of_undefined (undefined : x.isNaN = true ∨ y.isNaN = true) :
    Scalar.lt x y = false := by
  by_contra below
  rw [Bool.not_eq_false, lt_eq, beq_iff_eq] at below
  obtain ⟨left, right⟩ := defined_of_compare below
  exact undefined.elim (Bool.eq_false_iff.mp left) (Bool.eq_false_iff.mp right)

/-- A quotient with an undefined side is undefined. -/
theorem isNaN_div_of_undefined (undefined : x.isNaN = true ∨ y.isNaN = true) :
    (x / y).isNaN = true := by
  have undefined_iff : ∀ z : UnpackedFloat, z.isNaN = true → z = .notANumber := by
    rintro (_ | _ | _ | _) undefined <;> cases undefined
    rfl
  refine (isNaN_ofModel_pack (UnpackedFloat.div .binary64 _ _)).trans ?_
  rcases undefined with left | right
  · rw [undefined_iff _ left]
    rfl
  · rw [undefined_iff _ right]
    cases x.toModel.unpack <;> rfl

/-- Whether a float is finite and not zero. -/
def isNonzero (x : Float) : Bool :=
  match x.toModel.unpack with
  | .finite .. => true
  | _ => false

/-- A finite float that is not zero has a mantissa. -/
theorem exists_finite (nonzero : isNonzero x = true) :
    ∃ sign mantissa exponent pos, x.toModel.unpack = .finite sign mantissa exponent pos := by
  unfold isNonzero at nonzero
  split at nonzero
  · next unpacked => exact ⟨_, _, _, _, unpacked⟩
  · cases nonzero

/-- The powers of ten that are floats are not zero. -/
theorem isNonzero_power (exponent : Nat)
    (small : exponent < Float.exactlyRepresentablePowersOfTen.size) :
    isNonzero Float.exactlyRepresentablePowersOfTen[exponent] = true := by
  have each : Float.exactlyRepresentablePowersOfTen.all isNonzero = true := by decide +kernel
  exact Array.all_eq_true.mp each exponent small

/-- What digits and an exponent write is defined. -/
theorem isNaN_ofScientific (mantissa : Nat) (negative : Bool) (exponent : Nat) :
    (Float.ofScientific mantissa negative exponent).isNaN = false := by
  unfold Float.ofScientific
  split
  · next small =>
    have whole : mantissa.toUInt64.toFloat.isNaN = false :=
      (isNaN_ofModel_pack _).trans (isNaN_normalize ..)
    obtain ⟨sign, places, size, pos, power⟩ := exists_finite (isNonzero_power exponent
      (by simp [Float.exactlyRepresentablePowersOfTen]; omega))
    split
    · refine (isNaN_ofModel_pack (UnpackedFloat.div .binary64 _ _)).trans ?_
      rw [power]
      exact isNaN_div_finite _ _ _ whole _
    · refine (isNaN_ofModel_pack (UnpackedFloat.mul .binary64 _ _)).trans ?_
      rw [power]
      exact isNaN_mul_finite _ _ _ whole _
  · exact (isNaN_ofModel_pack _).trans (isNaN_scientific _ _)

/-- A whole number within the floats has a defined one. -/
theorem isNaN_of_nearestFloat? {n : Int} (nearest : Decimal.nearestFloat? n = some x) :
    x.isNaN = false := by
  unfold Decimal.nearestFloat? at nearest
  dsimp only at nearest
  split at nearest
  · cases nearest
  · cases nearest
    split
    · exact (isNaN_neg _).trans (isNaN_ofScientific ..)
    · exact isNaN_ofScientific ..

end Arithmetic

end Floats

namespace Numeral

open Text

variable {cs : List Char} {x : Float}

/-- Some characters spell the name of the undefined number: its letters in either case, behind at
most one sign. -/
def NamesUndefined (cs : List Char) : Prop := (takeSign cs).2.map Char.toLower = ['n', 'a', 'n']

instance (cs : List Char) : Decidable (NamesUndefined cs) :=
  inferInstanceAs (Decidable (_ = ['n', 'a', 'n']))

section Names

/-- A character with a known small letter is that letter or its capital one. -/
theorem eq_or_eq_of_toLower {c small : Char} (capital : Char)
    (pair : capital.val + 32 = small.val) (lower : c.toLower = small) :
    c = small ∨ c = capital := by
  unfold Char.toLower at lower
  split at lower
  · have shifted : c.val + 32 = capital.val + 32 := (congrArg Char.val lower).trans pair.symm
    exact .inr (Char.ext ((UInt32.add_left_inj 32).mp shifted))
  · exact .inl lower

/-- The characters that a name of the undefined number can have. -/
def nameChars : List Char := ['+', '-', 'n', 'N', 'a', 'A']

/-- A sign that is taken off is a sign. -/
theorem mem_of_takeSign {c : Char} (member : c ∈ cs) :
    c ∈ ['+', '-'] ∨ c ∈ (takeSign cs).2 := by
  unfold takeSign
  split
  · next rest => exact (List.mem_cons.mp member).imp (fun same => by simp [same]) id
  · next rest => exact (List.mem_cons.mp member).imp (fun same => by simp [same]) id
  · exact .inr member

/-- A name of the undefined number has no other characters. -/
theorem NamesUndefined.mem (names : NamesUndefined cs) : ∀ c ∈ cs, c ∈ nameChars := by
  intro c member
  rcases mem_of_takeSign member with sign | letter
  · exact List.mem_append_left ['n', 'N', 'a', 'A'] sign
  · have lower : c.toLower ∈ (takeSign cs).2.map Char.toLower := List.mem_map_of_mem letter
    rw [names] at lower
    have small : c.toLower = 'n' ∨ c.toLower = 'a' := by
      simp only [List.mem_cons, List.not_mem_nil, or_false] at lower
      tauto
    rcases small with n | a
    · rcases eq_or_eq_of_toLower 'N' rfl n with rfl | rfl <;> decide
    · rcases eq_or_eq_of_toLower 'A' rfl a with rfl | rfl <;> decide

end Names

section Digits

/-- A character that is no plain digit after digits of every script were made plain was none. -/
theorem plain_eq_self {c : Char} (other : (plain c).isDigit = false) : plain c = c := by
  unfold plain at other ⊢
  split
  · next value digit =>
    obtain ⟨first, found, rfl⟩ := Option.map_eq_some_iff.mp digit
    have block := List.find?_some found
    simp only [Bool.and_eq_true, decide_eq_true_eq] at block
    have plainDigits : ∀ value : Fin 10, (Char.ofNat ('0'.toNat + value)).isDigit = true := by
      decide
    have written := plainDigits ⟨c.toNat - first, by omega⟩
    rw [digit] at other
    exact absurd (other.symm.trans written) Bool.false_ne_true
  · rfl

/-- A character that is no underscore is kept when groups are joined. -/
theorem joinGroups?_cons {c : Char} (other : c ≠ '_') (afterDigit : Bool) (rest : List Char) :
    joinGroups? afterDigit (c :: rest) = (joinGroups? c.isDigit rest).map (c :: ·) := by
  rw [joinGroups?]
  exact other

/-- Text without underscores has no groups to join. -/
theorem joinGroups?_eq_some (whole : '_' ∉ cs) (afterDigit : Bool) :
    joinGroups? afterDigit cs = some cs := by
  induction cs generalizing afterDigit with
  | nil => rfl
  | cons c rest ih =>
    obtain ⟨first, others⟩ := not_or.mp (mt List.mem_cons.mpr whole)
    rw [joinGroups?_cons (Ne.symm first), ih others, Option.map_some]

/-- Text that has no digit after its groups were joined had no groups. -/
theorem eq_of_joinGroups? {joined : List Char} {afterDigit : Bool}
    (joins : joinGroups? afterDigit cs = some joined)
    (digitless : ∀ c ∈ joined, c.isDigit = false) : cs = joined := by
  fun_induction joinGroups? afterDigit cs generalizing joined with
  | case1 => exact Option.some.inj joins
  | case2 _ c rest follows ih =>
    -- The character behind an underscore is a digit, and it is still there.
    have digit : c.isDigit = true := (Bool.and_eq_true_iff.mp follows).2
    have other : c ≠ '_' := by
      rintro rfl
      cases digit
    rw [joinGroups?_cons other] at joins
    obtain ⟨behind, -, rfl⟩ := Option.map_eq_some_iff.mp joins
    cases digit.symm.trans (digitless c List.mem_cons_self)
  | case3 => cases joins
  | case4 => cases joins
  | case5 _ c rest _ ih =>
    obtain ⟨behind, joinsRest, rfl⟩ := Option.map_eq_some_iff.mp joins
    rw [ih joinsRest fun d member => digitless d (List.mem_cons_of_mem c member)]

end Digits

section Texts

/-- A decimal that is scaled is defined. -/
theorem isNaN_scaled (mantissa : Nat) (exponent : Int) :
    (scaled mantissa exponent).isNaN = false := by
  unfold scaled
  dsimp only
  split_ifs
  · decide +kernel
  · decide +kernel
  · decide +kernel
  · exact Floats.isNaN_ofScientific ..

/-- A number that digits write is defined. -/
theorem isNaN_of_magnitude? (reads : magnitude? cs = some x) : x.isNaN = false := by
  unfold magnitude? at reads
  dsimp only at reads
  split at reads
  all_goals
    split_ifs at reads
    split at reads
    · cases reads
      exact isNaN_scaled ..
    · cases reads

/-- No digits are read where the name of the undefined number stands. -/
theorem magnitude?_of_lower (named : cs.map Char.toLower = ['n', 'a', 'n']) :
    magnitude? cs = none := by
  cases cs with
  | nil => cases named
  | cons c rest =>
    rcases eq_or_eq_of_toLower 'N' rfl (List.cons.inj named).1 with rfl | rfl <;> rfl

/-- A named number is undefined exactly if its name is that of the undefined one. -/
theorem isNaN_of_named? (reads : named? cs = some x) :
    x.isNaN = true ↔ cs.map Char.toLower = ['n', 'a', 'n'] := by
  have spelled : ∀ {name : String}, String.ofList (cs.map Char.toLower) = name →
      cs.map Char.toLower = name.toList := fun same =>
    String.toList_ofList.symm.trans (congrArg String.toList same)
  unfold named? at reads
  split at reads
  · next infinite =>
    rw [← Option.some.inj reads, spelled infinite]
    decide +kernel
  · next infinite =>
    rw [← Option.some.inj reads, spelled infinite]
    decide +kernel
  · next undefined =>
    rw [← Option.some.inj reads, spelled undefined]
    decide +kernel
  · cases reads

/-- A decimal is a size behind a sign. -/
theorem decimal?_eq (cs : List Char) :
    decimal? cs = ((magnitude? (takeSign cs).2).orElse fun _ => named? (takeSign cs).2).map
      fun size => if (takeSign cs).1 then -size else size := rfl

/-- A decimal is undefined exactly if it is the name of the undefined number. -/
theorem isNaN_of_decimal? (reads : decimal? cs = some x) : x.isNaN = true ↔ NamesUndefined cs := by
  rw [decimal?_eq] at reads
  obtain ⟨size, sized, rfl⟩ := Option.map_eq_some_iff.mp reads
  have signed : (if (takeSign cs).1 then -size else size).isNaN = size.isNaN := by
    split
    · exact Floats.isNaN_neg size
    · rfl
  refine (Bool.eq_iff_iff.mp signed).trans ?_
  cases digits : magnitude? (takeSign cs).2 with
  | some magnitude =>
    rw [digits] at sized
    cases sized
    refine iff_of_false (Bool.eq_false_iff.mp (isNaN_of_magnitude? digits)) fun names => ?_
    cases digits.symm.trans (magnitude?_of_lower names)
  | none =>
    rw [digits] at sized
    exact isNaN_of_named? sized

/-- A name of the undefined number is a decimal. -/
theorem NamesUndefined.exists_decimal? (names : NamesUndefined cs) : ∃ x, decimal? cs = some x := by
  have named : named? (takeSign cs).2 = some (0.0 / 0.0) := by
    rw [named?, names]
    rfl
  rw [decimal?_eq, magnitude?_of_lower names]
  exact ⟨_, congrArg (Option.map fun size => if (takeSign cs).1 then -size else size) named⟩

/-- The characters of a name are no digits and no underscores, and they are plain. -/
theorem of_mem_nameChars {c : Char} (member : c ∈ nameChars) :
    c.isDigit = false ∧ c ≠ '_' ∧ plain c = c := by
  simp only [nameChars, List.mem_cons, List.not_mem_nil, or_false] at member
  rcases member with rfl | rfl | rfl | rfl | rfl | rfl <;> exact ⟨rfl, by decide, rfl⟩

/-- Digits are made plain and groups are joined without a change to a name. -/
theorem NamesUndefined.joinGroups? (names : NamesUndefined cs) :
    Numeral.joinGroups? false (cs.map plain) = some cs := by
  have same : cs.map plain = cs :=
    (List.map_congr_left fun c member => (of_mem_nameChars (names.mem c member)).2.2).trans
      cs.map_id
  rw [same]
  exact joinGroups?_eq_some (fun member => (of_mem_nameChars (names.mem _ member)).2.1 rfl) false

/-- Text that is a name after its digits were made plain and its groups joined was one before. -/
theorem NamesUndefined.of_joinGroups? {joined : List Char}
    (joins : Numeral.joinGroups? false (cs.map plain) = some joined)
    (names : NamesUndefined joined) : NamesUndefined cs := by
  have digitless : ∀ c ∈ joined, c.isDigit = false :=
    fun c member => (of_mem_nameChars (names.mem c member)).1
  have kept : cs.map plain = joined := eq_of_joinGroups? joins digitless
  have same : cs.map plain = cs :=
    (List.map_congr_left fun c member =>
      plain_eq_self (digitless _ (kept ▸ List.mem_map_of_mem member))).trans cs.map_id
  rwa [← same, kept]

/-- Free text that is a name of the undefined number, with nothing but space around it, is read. -/
theorem exists_freeFloat? {text : String}
    (names : NamesUndefined (trimBy isSpace text.toList)) : ∃ x, freeFloat? text = some x := by
  obtain ⟨x, writes⟩ := names.exists_decimal?
  refine ⟨x, ?_⟩
  rw [freeFloat?, names.joinGroups?]
  exact writes

/-- Free text that is read is undefined exactly if it is a name of the undefined number, with
nothing but space around it. -/
theorem isNaN_of_freeFloat? {text : String} (reads : freeFloat? text = some x) :
    x.isNaN = true ↔ NamesUndefined (trimBy isSpace text.toList) := by
  obtain ⟨joined, joins, writes⟩ := Option.bind_eq_some_iff.mp reads
  refine (isNaN_of_decimal? writes).trans ⟨.of_joinGroups? joins, fun names => ?_⟩
  rw [names.joinGroups?] at joins
  rwa [← Option.some.inj joins]

end Texts

end Numeral

end Storefront
