import Storefront.Item.Attribute
import Storefront.Proofs.Floats.Values
/-!
# The order of free-form values

Whole numbers, floats and truth values are compared by their places on one line, texts by their
characters, and lists by the first of their entries that differ. So "below" is transitive, nothing
is below itself, and a value may be replaced by an equal one on either side. Attributes of items
inherit this from their values and from the instants of moments.
-/

namespace Storefront

namespace NumberLine

/-- How many steps of the smallest float make one. -/
def unit : ℤ := 2 ^ 1074

theorem unit_pos : 0 < unit :=
  pow_pos two_pos 1074

end NumberLine

open NumberLine

namespace Json

namespace Amount

/-- The place of a number; an undefined float has none. -/
def place? : Amount → Option NumberLine
  | .whole value => some (stepped (value * unit))
  | .real value => (Decimal.Reading.ofFloat value).place?

/-- A finite value as a quotient has the same size as in steps. -/
theorem quotient_steps {value : Decimal.Binary} (exponent_ge : -1074 ≤ value.exponent) :
    (if value.negative then -(value.quotient.1 : ℤ) else value.quotient.1) * unit =
      value.steps * value.quotient.2 := by
  have shifted : value.exponent.toNat + 1074 =
      (value.exponent + 1074).toNat + (-value.exponent).toNat := by omega
  have sizes : (value.quotient.1 : ℤ) * unit =
      value.mantissa * 2 ^ (value.exponent + 1074).toNat * value.quotient.2 := by
    simp only [Decimal.Binary.quotient, Nat.shiftLeft_eq, one_mul, Nat.cast_mul, Nat.cast_pow,
      Nat.cast_ofNat]
    rw [unit, mul_assoc, ← pow_add, shifted, pow_add, mul_assoc]
  unfold Decimal.Binary.steps
  dsimp only
  cases value.negative with
  | false => exact sizes
  | true =>
    rw [if_pos rfl, if_pos rfl, neg_mul, neg_mul, sizes]

/-- A whole number and a float are compared by their places. -/
theorem compareWhole_eq (n : ℤ) (x : Float) :
    compareWhole n x =
      (Decimal.Reading.ofFloat x).place?.map fun q => compare (stepped (n * unit)) q := by
  unfold compareWhole
  cases reads : Decimal.Reading.ofFloat x with
  | undefined => rfl
  | infinite negative =>
    cases negative with
    | false => exact congrArg some (compare_lt_iff_lt.mpr stepped_lt_top).symm
    | true => exact congrArg some (compare_gt_iff_gt.mpr bottom_lt_stepped).symm
  | finite value =>
    have sizes := quotient_steps (Floats.exponent_ge_of_finite reads)
    have pos : (0 : ℤ) < value.quotient.2 := by
      simp only [Decimal.Binary.quotient, Nat.shiftLeft_eq, one_mul]
      positivity
    dsimp only [Decimal.Reading.place?, Option.map_some]
    rw [compare_stepped, ← cmp_eq_compare, ← cmp_eq_compare, ← cmp_mul_pos_right unit_pos, sizes,
      ← cmp_mul_pos_right pos (n * unit), mul_right_comm]

/-- Two floats are compared like their unpacked forms. -/
theorem compareReal_eq (x y : Float) :
    (if x < y then some .lt else if y < x then some .gt else if x == y then some .eq else none) =
      x.toModel.unpack.compare y.toModel.unpack := by
  have below : decide (x < y) = _ := Floats.lt_eq x y
  have above : decide (y < x) = _ := Floats.lt_eq y x
  have equal := Floats.beq_eq x y
  rw [Floats.compare_swap x.toModel.unpack y.toModel.unpack] at above
  cases compared : x.toModel.unpack.compare y.toModel.unpack with
  | none => simp_all
  | some order => cases order <;> simp_all

/-- Numbers are compared by their places. -/
theorem compare?_eq (a b : Amount) :
    compare? a b = a.place?.bind fun p => b.place?.map fun q => compare p q := by
  cases a with
  | whole m =>
    cases b with
    | whole n =>
      simp only [compare?, place?, Option.bind_some, Option.map_some, compare_stepped]
      rw [← cmp_eq_compare, ← cmp_eq_compare, cmp_mul_pos_right unit_pos]
    | real y => rw [compare?, compareWhole_eq, place?, place?, Option.bind_some]
  | real x =>
    cases b with
    | whole n =>
      rw [compare?, compareWhole_eq, place?, place?, Option.map_map]
      cases (Decimal.Reading.ofFloat x).place? with
      | none => rfl
      | some p => exact congrArg some (Std.OrientedOrd.eq_swap).symm
    | real y => rw [compare?, place?, place?, ← Floats.compare_eq_places, compareReal_eq]

/-- A number is below another one exactly if its place is. -/
theorem below_iff {a b : Amount} :
    below a b = true ↔ ∃ p ∈ a.place?, ∃ q ∈ b.place?, p < q := by
  rw [below, beq_iff_eq, compare?_eq]
  simp [Option.bind_eq_some_iff, compare_lt_iff_lt]

/-- Two numbers are equal exactly if they have one place. -/
theorem compare?_eq_eq_iff {a b : Amount} :
    compare? a b = some .eq ↔ ∃ p ∈ a.place?, p ∈ b.place? := by
  rw [compare?_eq]
  simp [Option.bind_eq_some_iff, compare_eq_iff_eq]

end Amount

/-- The place of a value that is a number; every other value has none. -/
def place? (value : Json) : Option NumberLine := value.amount?.bind Amount.place?

section Cases

variable {op : String} {a b : Json}

/-- Only numbers have places. -/
theorem number_of_place {p : NumberLine} (place : p ∈ a.place?) : a.amount?.isSome = true := by
  obtain ⟨m, number, -⟩ := Option.bind_eq_some_iff.mp place
  rw [number, Option.isSome_some]

/-- Numbers are equal to numbers in the same place. -/
theorem same_number_iff (number : a.amount?.isSome = true) :
    same a b = true ↔ ∃ p ∈ a.place?, p ∈ b.place? := by
  obtain ⟨m, number⟩ := Option.isSome_iff_exists.mp number
  unfold same place?
  split
  all_goals try cases number
  next =>
    cases b.amount? with
    | none => simp [number]
    | some n =>
      rw [number, Option.bind_some, Option.bind_some, ← Amount.compare?_eq_eq_iff, beq_iff_eq]

/-- Numbers are below numbers in higher places. -/
theorem less_number_iff (number : a.amount?.isSome = true) :
    less op a b = .ok true ↔ ∃ p ∈ a.place?, ∃ q ∈ b.place?, p < q := by
  obtain ⟨m, number⟩ := Option.isSome_iff_exists.mp number
  unfold less place?
  split
  all_goals try cases number
  next =>
    cases b.amount? with
    | none => simp [number]
    | some n =>
      rw [number, Option.bind_some, Option.bind_some, ← Amount.below_iff, Except.ok.injEq]

/-- What equals a value: values of the same form with equal entries, and numbers in the same
place. -/
theorem same_iff : same a b = true ↔
    match a with
    | .null => b = .null
    | .str text => b = .str text
    | .arr xs => ∃ ys, b = .arr ys ∧ sameItems xs ys = true
    | .obj entries => ∃ others, b = .obj others ∧ entries.length = others.length ∧
        sameEntries entries others = true
    | number => ∃ p ∈ number.place?, p ∈ b.place? := by
  cases a with
  | null => cases b <;> simp [same, amount?]
  | str text => cases b <;> simp [same, amount?, @eq_comm _ text]
  | arr xs => cases b <;> simp [same, amount?]
  | obj entries => cases b <;> simp [same, amount?]
  | bool _ | int _ | float _ => exact same_number_iff rfl

/-- What a value is below: later texts, greater lists and numbers in higher places; null and objects
are below nothing. -/
theorem less_iff : less op a b = .ok true ↔
    match a with
    | .null | .obj _ => False
    | .str text => ∃ later, b = .str later ∧ text < later
    | .arr xs => ∃ ys, b = .arr ys ∧ lessItems op xs ys = .ok true
    | number => ∃ p ∈ number.place?, ∃ q ∈ b.place?, p < q := by
  cases a with
  | null => cases b <;> simp [less, amount?]
  | obj _ => cases b <;> simp [less, amount?]
  | str text => cases b <;> simp [less, amount?]
  | arr xs => cases b <;> simp [less, amount?]
  | bool _ | int _ | float _ => exact less_number_iff rfl

end Cases

section Equality

/-- Values equal to one number are equal. -/
theorem same_number_trans {a b c : Json} (number : a.amount?.isSome = true)
    (first : same a b = true) (second : same b c = true) : same a c = true := by
  obtain ⟨p, place, shared⟩ := (same_number_iff number).mp first
  obtain ⟨q, again, last⟩ := (same_number_iff (number_of_place shared)).mp second
  cases Option.mem_unique shared again
  exact (same_number_iff number).mpr ⟨p, place, last⟩

/-- The entries of a row are in another one if the first one is and the others are. -/
theorem sameEntries_cons_iff {key : String} {value : Json} {rest ys : Row} :
    sameEntries ((key, value) :: rest) ys = true ↔
      (∃ other, ys.lookup key = some other ∧ same value other = true) ∧
        sameEntries rest ys = true := by
  rw [sameEntries, Bool.and_eq_true]
  cases ys.lookup key <;> simp

/-- What is found in a row is found, as an equal value, in every row that has its entries. -/
theorem lookup_of_sameEntries {ys zs : Row} (held : sameEntries ys zs = true) {key : String}
    {value : Json} (found : ys.lookup key = some value) :
    ∃ other, zs.lookup key = some other ∧ same value other = true := by
  induction ys with
  | nil => cases found
  | cons entry rest ih =>
    obtain ⟨name, first⟩ := entry
    obtain ⟨here, others⟩ := sameEntries_cons_iff.mp held
    rw [List.lookup_cons] at found
    split at found
    · next same =>
      cases found
      rw [beq_iff_eq.mp same]
      exact here
    · exact ih others found

mutual

/-- Values equal to one value are equal. -/
theorem same_trans : ∀ {a b c : Json}, same a b = true → same b c = true → same a c = true
  | .null, _, _, first, second => by
    cases same_iff.mp first
    exact second
  | .str _, _, _, first, second => by
    cases same_iff.mp first
    exact second
  | .bool _, _, _, first, second => same_number_trans rfl first second
  | .int _, _, _, first, second => same_number_trans rfl first second
  | .float _, _, _, first, second => same_number_trans rfl first second
  | .arr xs, _, _, first, second => by
    obtain ⟨ys, rfl, first⟩ := same_iff.mp first
    obtain ⟨zs, rfl, second⟩ := same_iff.mp second
    exact same_iff.mpr ⟨zs, rfl, sameItems_trans first second⟩
  | .obj xs, _, _, first, second => by
    obtain ⟨ys, rfl, size, first⟩ := same_iff.mp first
    obtain ⟨zs, rfl, others, second⟩ := same_iff.mp second
    exact same_iff.mpr ⟨zs, rfl, size.trans others, sameEntries_trans first second⟩

theorem sameItems_trans : ∀ {xs ys zs : List Json},
    sameItems xs ys = true → sameItems ys zs = true → sameItems xs zs = true
  | [], ys, zs, first, second => by
    cases ys with
    | nil => exact second
    | cons y ys => simp [sameItems] at first
  | x :: xs, ys, zs, first, second => by
    cases ys with
    | nil => simp [sameItems] at first
    | cons y ys =>
      cases zs with
      | nil => simp [sameItems] at second
      | cons z zs =>
        rw [sameItems, Bool.and_eq_true] at first second ⊢
        exact ⟨same_trans first.1 second.1, sameItems_trans first.2 second.2⟩

theorem sameEntries_trans : ∀ {xs ys zs : Row},
    sameEntries xs ys = true → sameEntries ys zs = true → sameEntries xs zs = true
  | [], _, _, _, _ => by rw [sameEntries]
  | (key, value) :: rest, ys, zs, first, second => by
    obtain ⟨⟨held, found, equal⟩, others⟩ := sameEntries_cons_iff.mp first
    obtain ⟨later, alsoFound, alsoEqual⟩ := lookup_of_sameEntries second found
    exact sameEntries_cons_iff.mpr
      ⟨⟨later, alsoFound, same_trans equal alsoEqual⟩, sameEntries_trans others second⟩

end

end Equality

section Order

variable {op : String}

/-- What lists are compared by: their first entries, or the later ones if the first are equal. -/
theorem lessItems_cons_iff {x y : Json} {xs ys : List Json} :
    lessItems op (x :: xs) (y :: ys) = .ok true ↔
      same x y = true ∧ lessItems op xs ys = .ok true ∨
        same x y = false ∧ less op x y = .ok true := by
  rw [lessItems]
  cases same x y <;> simp

/-- Lists of which one is below the other are not equal. -/
theorem not_sameItems_of_less : ∀ {xs ys : List Json}, lessItems op xs ys = .ok true →
    sameItems xs ys = false
  | [], [], lower => by simp [lessItems] at lower
  | [], _ :: _, _ => by rw [sameItems]; all_goals simp
  | _ :: _, [], lower => by simp [lessItems] at lower
  | x :: xs, y :: ys, lower => by
    rw [sameItems]
    rcases lessItems_cons_iff.mp lower with ⟨_, later⟩ | ⟨apart, _⟩
    · rw [not_sameItems_of_less later, Bool.and_false]
    · rw [apart, Bool.false_and]

/-- Values of which one is below the other are not equal. -/
theorem not_same_of_less {a b : Json} (lower : less op a b = .ok true) : same a b = false := by
  have numbers : a.amount?.isSome = true → same a b = false := by
    intro number
    rw [← Bool.not_eq_true, same_number_iff number]
    rintro ⟨p, place, alsoPlace⟩
    obtain ⟨q, first, r, second, below⟩ := (less_number_iff number).mp lower
    cases Option.mem_unique place first
    cases Option.mem_unique alsoPlace second
    exact lt_irrefl p below
  cases a with
  | null => exact (less_iff.mp lower).elim
  | bool _ | int _ | float _ => exact numbers rfl
  | str text =>
    obtain ⟨later, rfl, below⟩ := less_iff.mp lower
    rw [← Bool.not_eq_true, same_iff]
    rintro ⟨⟩
    exact lt_irrefl _ below
  | arr xs =>
    obtain ⟨ys, rfl, below⟩ := less_iff.mp lower
    rw [same, not_sameItems_of_less below]
  | obj _ => exact (less_iff.mp lower).elim

/-- No number is below itself. -/
theorem less_number_irrefl {a : Json} (number : a.amount?.isSome = true) :
    less op a a ≠ .ok true := by
  intro lower
  obtain ⟨p, place, q, again, below⟩ := (less_number_iff number).mp lower
  cases Option.mem_unique place again
  exact lt_irrefl p below

mutual

/-- Nothing is below itself. -/
theorem less_irrefl : ∀ a : Json, less op a a ≠ .ok true
  | .null => less_iff.mp
  | .str _ => fun lower => by
    obtain ⟨_, same, below⟩ := less_iff.mp lower
    cases same
    exact lt_irrefl _ below
  | .bool _ => less_number_irrefl rfl
  | .int _ => less_number_irrefl rfl
  | .float _ => less_number_irrefl rfl
  | .arr xs => fun lower => by
    obtain ⟨_, same, below⟩ := less_iff.mp lower
    cases same
    exact lessItems_irrefl xs below
  | .obj _ => less_iff.mp

theorem lessItems_irrefl : ∀ xs : List Json, lessItems op xs xs ≠ .ok true
  | [], lower => by simp [lessItems] at lower
  | x :: xs, lower => by
    rcases lessItems_cons_iff.mp lower with ⟨_, later⟩ | ⟨_, first⟩
    · exact lessItems_irrefl xs later
    · exact less_irrefl x first

end

/-- A number that equals another one is below whatever that one is below. -/
theorem less_number_of_same {a b c : Json} (number : a.amount?.isSome = true)
    (equal : same a b = true) (lower : less op b c = .ok true) : less op a c = .ok true := by
  obtain ⟨p, place, shared⟩ := (same_number_iff number).mp equal
  obtain ⟨q, again, r, higher, below⟩ := (less_number_iff (number_of_place shared)).mp lower
  cases Option.mem_unique shared again
  exact (less_number_iff number).mpr ⟨p, place, r, higher, below⟩

mutual

/-- What equals a value is below whatever the value is below. -/
theorem less_of_same_of_less : ∀ {a b c : Json},
    same a b = true → less op b c = .ok true → less op a c = .ok true
  | .null, _, _, equal, lower => by
    cases same_iff.mp equal
    exact lower
  | .str _, _, _, equal, lower => by
    cases same_iff.mp equal
    exact lower
  | .bool _, _, _, equal, lower => less_number_of_same rfl equal lower
  | .int _, _, _, equal, lower => less_number_of_same rfl equal lower
  | .float _, _, _, equal, lower => less_number_of_same rfl equal lower
  | .arr xs, _, _, equal, lower => by
    obtain ⟨ys, rfl, equal⟩ := same_iff.mp equal
    obtain ⟨zs, rfl, lower⟩ := less_iff.mp lower
    exact less_iff.mpr ⟨zs, rfl, lessItems_of_same equal lower⟩
  | .obj _, _, _, equal, lower => by
    obtain ⟨_, rfl, _⟩ := same_iff.mp equal
    exact (less_iff.mp lower).elim

theorem lessItems_of_same : ∀ {xs ys zs : List Json},
    sameItems xs ys = true → lessItems op ys zs = .ok true → lessItems op xs zs = .ok true
  | [], [], _, _, lower => lower
  | [], _ :: _, _, equal, _ => by simp [sameItems] at equal
  | _ :: _, [], _, equal, _ => by simp [sameItems] at equal
  | _ :: _, _ :: _, [], _, lower => by simp [lessItems] at lower
  | x :: xs, y :: ys, z :: zs, equal, lower => by
    obtain ⟨first, others⟩ := Bool.and_eq_true_iff.mp equal
    rcases lessItems_cons_iff.mp lower with ⟨alike, later⟩ | ⟨_, below⟩
    · exact lessItems_cons_iff.mpr (.inl ⟨same_trans first alike, lessItems_of_same others later⟩)
    · have lower := less_of_same_of_less first below
      exact lessItems_cons_iff.mpr (.inr ⟨not_same_of_less lower, lower⟩)

end

/-- What is below a number is below its equals. -/
theorem less_number_of_less_of_same {a b c : Json} (number : a.amount?.isSome = true)
    (lower : less op a b = .ok true) (equal : same b c = true) : less op a c = .ok true := by
  obtain ⟨p, place, q, higher, below⟩ := (less_number_iff number).mp lower
  obtain ⟨r, again, shared⟩ := (same_number_iff (number_of_place higher)).mp equal
  cases Option.mem_unique higher again
  exact (less_number_iff number).mpr ⟨p, place, q, shared, below⟩

mutual

/-- What is below a value is below whatever equals the value. -/
theorem less_of_less_of_same : ∀ {a b c : Json},
    less op a b = .ok true → same b c = true → less op a c = .ok true
  | .null, _, _, lower, _ => (less_iff.mp lower).elim
  | .str _, _, _, lower, equal => by
    obtain ⟨_, rfl, below⟩ := less_iff.mp lower
    cases same_iff.mp equal
    exact lower
  | .bool _, _, _, lower, equal => less_number_of_less_of_same rfl lower equal
  | .int _, _, _, lower, equal => less_number_of_less_of_same rfl lower equal
  | .float _, _, _, lower, equal => less_number_of_less_of_same rfl lower equal
  | .arr xs, _, _, lower, equal => by
    obtain ⟨ys, rfl, lower⟩ := less_iff.mp lower
    obtain ⟨zs, rfl, equal⟩ := same_iff.mp equal
    exact less_iff.mpr ⟨zs, rfl, lessItems_of_less_of_same lower equal⟩
  | .obj _, _, _, lower, _ => (less_iff.mp lower).elim

theorem lessItems_of_less_of_same : ∀ {xs ys zs : List Json},
    lessItems op xs ys = .ok true → sameItems ys zs = true → lessItems op xs zs = .ok true
  | [], [], _, lower, _ => by simp [lessItems] at lower
  | [], _ :: _, [], _, equal => by simp [sameItems] at equal
  | [], _ :: _, _ :: _, _, _ => by rw [lessItems]
  | _ :: _, [], _, lower, _ => by simp [lessItems] at lower
  | _ :: _, _ :: _, [], _, equal => by simp [sameItems] at equal
  | x :: xs, y :: ys, z :: zs, lower, equal => by
    obtain ⟨first, others⟩ := Bool.and_eq_true_iff.mp equal
    rcases lessItems_cons_iff.mp lower with ⟨alike, later⟩ | ⟨_, below⟩
    · exact lessItems_cons_iff.mpr
        (.inl ⟨same_trans alike first, lessItems_of_less_of_same later others⟩)
    · have lower := less_of_less_of_same below first
      exact lessItems_cons_iff.mpr (.inr ⟨not_same_of_less lower, lower⟩)

end

/-- A number is below what is above a number above it. -/
theorem less_number_trans {a b c : Json} (number : a.amount?.isSome = true)
    (first : less op a b = .ok true) (second : less op b c = .ok true) :
    less op a c = .ok true := by
  obtain ⟨p, place, q, higher, below⟩ := (less_number_iff number).mp first
  obtain ⟨r, again, s, highest, above⟩ := (less_number_iff (number_of_place higher)).mp second
  cases Option.mem_unique higher again
  exact (less_number_iff number).mpr ⟨p, place, s, highest, below.trans above⟩

mutual

/-- A value is below what is above a value above it. -/
theorem less_trans : ∀ {a b c : Json},
    less op a b = .ok true → less op b c = .ok true → less op a c = .ok true
  | .null, _, _, first, _ => (less_iff.mp first).elim
  | .str _, _, _, first, second => by
    obtain ⟨_, rfl, below⟩ := less_iff.mp first
    obtain ⟨last, rfl, above⟩ := less_iff.mp second
    exact less_iff.mpr ⟨last, rfl, below.trans above⟩
  | .bool _, _, _, first, second => less_number_trans rfl first second
  | .int _, _, _, first, second => less_number_trans rfl first second
  | .float _, _, _, first, second => less_number_trans rfl first second
  | .arr xs, _, _, first, second => by
    obtain ⟨ys, rfl, first⟩ := less_iff.mp first
    obtain ⟨zs, rfl, second⟩ := less_iff.mp second
    exact less_iff.mpr ⟨zs, rfl, lessItems_trans first second⟩
  | .obj _, _, _, first, _ => (less_iff.mp first).elim

theorem lessItems_trans : ∀ {xs ys zs : List Json},
    lessItems op xs ys = .ok true → lessItems op ys zs = .ok true →
      lessItems op xs zs = .ok true
  | [], [], _, first, _ => by simp [lessItems] at first
  | [], _ :: _, [], _, second => by simp [lessItems] at second
  | [], _ :: _, _ :: _, _, _ => by rw [lessItems]
  | _ :: _, [], _, first, _ => by simp [lessItems] at first
  | _ :: _, _ :: _, [], _, second => by simp [lessItems] at second
  | x :: xs, y :: ys, z :: zs, first, second => by
    -- The lists differ from the middle one in an entry each; the earlier one decides.
    rcases lessItems_cons_iff.mp first with ⟨alike, later⟩ | ⟨_, below⟩ <;>
      rcases lessItems_cons_iff.mp second with ⟨same, further⟩ | ⟨_, above⟩
    · exact lessItems_cons_iff.mpr (.inl ⟨same_trans alike same, lessItems_trans later further⟩)
    · have lower := less_of_same_of_less alike above
      exact lessItems_cons_iff.mpr (.inr ⟨not_same_of_less lower, lower⟩)
    · have lower := less_of_less_of_same below same
      exact lessItems_cons_iff.mpr (.inr ⟨not_same_of_less lower, lower⟩)
    · have lower := less_trans below above
      exact lessItems_cons_iff.mpr (.inr ⟨not_same_of_less lower, lower⟩)

end

end Order

end Json

namespace Attribute

/-- Whether two attributes are in one place of an order: equal values, and moments of one
instant. Records have no places. -/
def ties : Attribute → Attribute → Bool
  | .value a, .value b => Json.same a b
  | .moment a, .moment b => a.comparable b && a.instant == b.instant
  | _, _ => false

variable {a b c : Attribute}

/-- Only values are above values. -/
theorem less_value_iff {first : Json} :
    less (.value first) b = .ok true ↔
      ∃ later, b = .value later ∧ Json.less "<" first later = .ok true := by
  cases b <;> simp [less]

/-- Only moments on clocks of one kind are above moments. -/
theorem less_moment_iff {first : Moment} :
    less (.moment first) b = .ok true ↔
      ∃ later, b = .moment later ∧ first.comparable later = true ∧
        first.instant < later.instant := by
  cases b with
  | moment later => cases same : first.comparable later <;> simp [less, same, Moment.isBefore]
  | value _ | record _ => simp [less]

/-- Records are below nothing. -/
theorem less_record {kind : String} : less (.record kind) b ≠ .ok true := by
  cases b <;> simp [less]

/-- Values tie with equal values. -/
theorem ties_value_iff {first : Json} :
    ties (.value first) b = true ↔ ∃ other, b = .value other ∧ Json.same first other = true := by
  cases b <;> simp [ties]

/-- Moments tie with moments of the same instant. -/
theorem ties_moment_iff {first : Moment} :
    ties (.moment first) b = true ↔
      ∃ other, b = .moment other ∧ first.comparable other = true ∧
        first.instant = other.instant := by
  cases b <;> simp [ties]

/-- Clocks are of one kind with clocks of one kind. -/
theorem comparable_trans {first second third : Moment} (left : first.comparable second = true)
    (right : second.comparable third = true) : first.comparable third = true :=
  beq_iff_eq.mpr ((beq_iff_eq.mp left).trans (beq_iff_eq.mp right))

/-- No attribute is below itself. -/
theorem less_irrefl : ∀ a : Attribute, less a a ≠ .ok true
  | .value json => Json.less_irrefl json
  | .moment _ => fun lower => by
    obtain ⟨_, same, _, below⟩ := less_moment_iff.mp lower
    cases same
    exact lt_irrefl _ below
  | .record _ => less_record

/-- An attribute is below what is above an attribute above it. -/
theorem less_trans (first : less a b = .ok true) (second : less b c = .ok true) :
    less a c = .ok true := by
  cases a with
  | value _ =>
    obtain ⟨_, rfl, below⟩ := less_value_iff.mp first
    obtain ⟨last, rfl, above⟩ := less_value_iff.mp second
    exact less_value_iff.mpr ⟨last, rfl, Json.less_trans below above⟩
  | moment _ =>
    obtain ⟨_, rfl, alike, below⟩ := less_moment_iff.mp first
    obtain ⟨last, rfl, same, above⟩ := less_moment_iff.mp second
    exact less_moment_iff.mpr ⟨last, rfl, comparable_trans alike same, below.trans above⟩
  | record _ => exact absurd first less_record

/-- What is below an attribute is below whatever ties with the attribute. -/
theorem less_of_less_of_ties (first : less a b = .ok true) (second : ties b c = true) :
    less a c = .ok true := by
  cases a with
  | value _ =>
    obtain ⟨_, rfl, below⟩ := less_value_iff.mp first
    obtain ⟨last, rfl, equal⟩ := ties_value_iff.mp second
    exact less_value_iff.mpr ⟨last, rfl, Json.less_of_less_of_same below equal⟩
  | moment _ =>
    obtain ⟨_, rfl, alike, below⟩ := less_moment_iff.mp first
    obtain ⟨last, rfl, same, equal⟩ := ties_moment_iff.mp second
    exact less_moment_iff.mpr ⟨last, rfl, comparable_trans alike same, below.trans_eq equal⟩
  | record _ => exact absurd first less_record

/-- Attributes of which one is below the other do not tie. -/
theorem not_ties_of_less (lower : less a b = .ok true) : ties a b = false := by
  by_contra tied
  rw [Bool.not_eq_false] at tied
  cases a with
  | value _ =>
    obtain ⟨_, rfl, below⟩ := less_value_iff.mp lower
    obtain ⟨_, same, equal⟩ := ties_value_iff.mp tied
    cases same
    exact Bool.false_ne_true ((Json.not_same_of_less below).symm.trans equal)
  | moment _ =>
    obtain ⟨_, rfl, -, below⟩ := less_moment_iff.mp lower
    obtain ⟨_, same, -, equal⟩ := ties_moment_iff.mp tied
    cases same
    exact below.ne equal
  | record _ => exact less_record lower

end Attribute

end Storefront
