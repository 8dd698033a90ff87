import Mathlib.Data.Rat.Cast.Defs
import Mathlib.Tactic.FieldSimp
import Storefront.Key
import Storefront.Proofs.Comparisons
/-!
# Keys and their slots

A table takes two keys for one exactly if they are equal values: the same text, or numbers in one
place of the line. Only the undefined number is one key with itself without being equal to itself.
-/

namespace Storefront

open NumberLine

theorem NumberLine.unit_ne_zero : (unit : ℚ) ≠ 0 := by
  exact_mod_cast unit_pos.ne'

/-- A finite value is its number of steps over the steps that make one. -/
theorem Decimal.Binary.toRat_eq {value : Decimal.Binary} (exponent_ge : -1074 ≤ value.exponent) :
    value.toRat = value.steps / unit := by
  have pos : (value.quotient.2 : ℚ) ≠ 0 := by simp [quotient, Nat.shiftLeft_eq]
  rw [toRat, Rat.mkRat_eq_div, div_eq_div_iff pos unit_ne_zero]
  exact_mod_cast Json.Amount.quotient_steps exponent_ge

/-- The places of numbers: the ends of the line, and whole numbers of steps in between. -/
theorem Json.place_cases {value : Json} {p : NumberLine} (place : p ∈ value.place?) :
    p = bottom ∨ p = top ∨ ∃ steps, p = stepped steps := by
  obtain ⟨amount, -, place⟩ := Option.bind_eq_some_iff.mp place
  cases amount with
  | whole n => exact .inr (.inr ⟨_, (Option.some.inj place).symm⟩)
  | real x =>
    rw [Amount.place?] at place
    cases reads : Decimal.Reading.ofFloat x with
    | undefined => cases reads ▸ place
    | infinite negative =>
      rw [reads] at place
      cases negative with
      | true => exact .inl (Option.some.inj place).symm
      | false => exact .inr (.inl (Option.some.inj place).symm)
    | finite value => exact .inr (.inr ⟨_, (Option.some.inj (reads ▸ place)).symm⟩)

namespace Slot

/-- The slot of a place: infinities at the ends of the line, and numbers of steps in between. -/
def ofPlace (place : NumberLine) : Slot :=
  if place = bottom then .infinite true
  else if place = top then .infinite false
  else .number ((ofLex place).2 / unit)

/-- The slot of a number of steps. -/
theorem ofPlace_stepped (steps : ℤ) : ofPlace (stepped steps) = .number (steps / unit) := by
  rw [ofPlace, if_neg bottom_lt_stepped.ne', if_neg stepped_lt_top.ne]
  rfl

/-- The lowest place has the slot of the negative infinity. -/
theorem ofPlace_bottom : ofPlace bottom = .infinite true := if_pos rfl

/-- The highest place has the slot of the positive infinity. -/
theorem ofPlace_top : ofPlace top = .infinite false := by
  rw [ofPlace, if_neg bottom_lt_top.ne', if_pos rfl]

/-- Numbers in different places have different slots. -/
theorem ofPlace_inj {a b : Json} {p q : NumberLine} (first : p ∈ a.place?) (second : q ∈ b.place?) :
    ofPlace p = ofPlace q ↔ p = q := by
  refine ⟨fun same => ?_, congrArg ofPlace⟩
  obtain rfl | rfl | ⟨m, rfl⟩ := Json.place_cases first <;>
    obtain rfl | rfl | ⟨n, rfl⟩ := Json.place_cases second <;>
    simp only [ofPlace_bottom, ofPlace_top, ofPlace_stepped, reduceCtorEq, infinite.injEq,
      Bool.true_eq_false, Bool.false_eq_true, number.injEq, div_left_inj' unit_ne_zero,
      Int.cast_inj] at same ⊢
  rw [same]

/-- No place has the slot of the undefined number. -/
theorem ofPlace_ne_undefined (p : NumberLine) : ofPlace p ≠ .undefined := by
  unfold ofPlace
  split_ifs <;> exact nofun

/-- A float has the slot of its place. -/
theorem ofReading_eq (x : Float) :
    ofReading (.ofFloat x) = (Decimal.Reading.ofFloat x).place?.elim .undefined ofPlace := by
  cases reads : Decimal.Reading.ofFloat x with
  | undefined => rfl
  | infinite negative => cases negative <;> rfl
  | finite value =>
    rw [ofReading, Decimal.Binary.toRat_eq (Floats.exponent_ge_of_finite reads), ← ofPlace_stepped]
    rfl

end Slot

namespace Key

variable {a b : Key}

/-- Only a text has the slot of a text. -/
theorem slot_eq_text_iff {id : String} : a.slot = .text id ↔ a = .text id := by
  cases a with
  | text | truth | whole => simp [slot]
  | real value =>
    rw [slot]
    cases Decimal.Reading.ofFloat value <;> simp [Slot.ofReading]

/-- The text of a slot is that of a key which is a text. -/
theorem text?_slot (key : Key) : key.slot.text? = key.toJson.text? := by
  cases key with
  | text | truth | whole => rfl
  | real value =>
    rw [slot]
    cases Decimal.Reading.ofFloat value <;> rfl

/-- A number has the slot of its place. -/
theorem slot_eq_of_number (number : a.toJson.amount?.isSome = true) :
    a.slot = a.toJson.place?.elim .undefined Slot.ofPlace := by
  have wholes : ∀ n : ℤ, Slot.number n = Slot.ofPlace (stepped (n * unit)) := by
    intro n
    rw [Slot.ofPlace_stepped, Int.cast_mul, mul_div_cancel_right₀ _ unit_ne_zero]
  cases a with
  | text => cases number
  | truth value => cases value <;> exact_mod_cast wholes _
  | whole value => exact wholes value
  | real value => exact Slot.ofReading_eq value

/-- Only a number without a place has the slot of the undefined number. -/
theorem slot_eq_undefined_iff (number : a.toJson.amount?.isSome = true) :
    a.slot = .undefined ↔ a.toJson.place? = none := by
  rw [slot_eq_of_number number]
  cases a.toJson.place? <;> simp [Slot.ofPlace_ne_undefined]

/-- Two numbers are one key exactly if they have one place, or both have none. -/
theorem number_slot_eq_iff (left : a.toJson.amount?.isSome = true)
    (right : b.toJson.amount?.isSome = true) :
    a.slot = b.slot ↔ a.toJson.place? = b.toJson.place? := by
  rw [slot_eq_of_number left, slot_eq_of_number right]
  cases first : a.toJson.place? with
  | none => cases b.toJson.place? <;> simp [(Slot.ofPlace_ne_undefined _).symm]
  | some p =>
    cases second : b.toJson.place? with
    | none => simp [Slot.ofPlace_ne_undefined]
    | some q => simp [Slot.ofPlace_inj first second]

/-- A key is a text or a number. -/
theorem text_or_number (key : Key) :
    (∃ id, key = .text id) ∨ key.toJson.amount?.isSome = true := by
  cases key with
  | text id => exact .inl ⟨id, rfl⟩
  | truth | whole | real => exact .inr rfl

/-- Two keys are one to a table exactly if they are equal, or both are the undefined number. -/
theorem slot_eq_iff :
    a.slot = b.slot ↔
      Json.same a.toJson b.toJson = true ∨ a.slot = .undefined ∧ b.slot = .undefined := by
  obtain ⟨id, rfl⟩ | left := a.text_or_number
  · have texts : b.toJson = .str id ↔ b = .text id := by cases b <;> simp [toJson]
    have slot : (text id).slot = Slot.text id := rfl
    rw [slot, eq_comm, slot_eq_text_iff, Json.same_iff, ← texts]
    simp [toJson]
  obtain ⟨name, rfl⟩ | right := b.text_or_number
  · have number : a ≠ .text name := by
      rintro rfl
      cases left
    have slot : (text name).slot = Slot.text name := rfl
    have placeless : (text name).toJson.place? = none := rfl
    rw [slot, slot_eq_text_iff, Json.same_number_iff left, placeless]
    simp [number]
  · rw [number_slot_eq_iff left right, Json.same_number_iff left, slot_eq_undefined_iff left,
      slot_eq_undefined_iff right]
    cases a.toJson.place? <;> cases b.toJson.place? <;> simp [eq_comm]

end Key

end Storefront
