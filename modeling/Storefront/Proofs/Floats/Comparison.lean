import Mathlib
import Storefront.Scalar
/-!
# Comparing floats

Floats are compared by their unpacked forms. Swapping the two sides swaps the outcome, and the
outcome is only missing when one side is undefined; so a float that is not above another one, with
neither undefined, is at most the other one. A float is neither above nor below zero exactly when
it is one of the two zeros.
-/

namespace Storefront.Floats

open Float.Model (UnpackedFloat)

/-- Swapping two unpacked floats swaps the outcome of their comparison. -/
theorem compare_swap (x y : UnpackedFloat) :
    y.compare x = (x.compare y).map Ordering.swap := by
  rcases x with (_ | _) | _ | (_ | _) | ⟨_ | _, m, e, _⟩ <;>
    rcases y with (_ | _) | _ | (_ | _) | ⟨_ | _, n, f, _⟩ <;>
    simp [UnpackedFloat.compare, Ordering.swap_then, Int.compare_swap, Nat.compare_swap] <;> rfl

/-- Two unpacked floats can be compared unless one of them is undefined. -/
theorem compare_isSome {x y : UnpackedFloat} (definedLeft : x.isNaN = false)
    (definedRight : y.isNaN = false) : ∃ order, x.compare y = some order := by
  rcases x with (_ | _) | _ | (_ | _) | ⟨_ | _, m, e, _⟩ <;>
    rcases y with (_ | _) | _ | (_ | _) | ⟨_ | _, n, f, _⟩ <;>
    simp_all [UnpackedFloat.compare, UnpackedFloat.isNaN]

/-- Only defined unpacked floats are compared with an outcome. -/
theorem defined_of_compare {x y : UnpackedFloat} {order : Ordering}
    (compared : x.compare y = some order) : x.isNaN = false ∧ y.isNaN = false := by
  rcases x with _ | _ | _ | _ <;> rcases y with _ | _ | _ | _ <;>
    simp_all [UnpackedFloat.compare, UnpackedFloat.isNaN]

/-- The order test on floats reads the comparison of the unpacked forms. -/
theorem le_eq (x y : Float) :
    Scalar.le x y = (x.toModel.unpack.compare y.toModel.unpack).any (·.isLE) := by
  change decide (decide (UnpackedFloat.le x.toModel.unpack y.toModel.unpack = true) = true) = _
  rw [Bool.decide_coe, Bool.decide_coe, UnpackedFloat.le]

/-- The strict order test on floats reads the comparison of the unpacked forms. -/
theorem lt_eq (x y : Float) :
    Scalar.lt x y = (x.toModel.unpack.compare y.toModel.unpack == some .lt) := by
  change decide (decide (UnpackedFloat.lt x.toModel.unpack y.toModel.unpack = true) = true) = _
  rw [Bool.decide_coe, Bool.decide_coe, UnpackedFloat.lt]

/-- Two floats are equal exactly if comparing their unpacked forms says so. -/
theorem beq_eq (x y : Float) :
    (x == y) = (x.toModel.unpack.compare y.toModel.unpack == some .eq) := by rfl

/-- A float that is not above another one is at most the other one, if both are defined. -/
theorem le_of_not_lt {x y : Float} (definedLeft : x.isNaN = false) (definedRight : y.isNaN = false)
    (notAbove : Scalar.lt y x = false) : Scalar.le x y = true := by
  obtain ⟨order, compared⟩ := compare_isSome (x := x.toModel.unpack) (y := y.toModel.unpack)
    definedLeft definedRight
  have swapped := compare_swap x.toModel.unpack y.toModel.unpack
  rw [lt_eq, swapped, compared] at notAbove
  rw [le_eq, compared]
  cases order with
  | lt => rfl
  | eq => rfl
  | gt => cases notAbove

/-- Only the two zeros are neither above nor below zero. -/
theorem isZero_iff (x : Float) :
    Scalar.isZero x = true ↔ ∃ sign, x.toModel.unpack = .zero sign := by
  have zero : (Scalar.zero : Float).toModel.unpack = .zero .positive := by rfl
  rw [Scalar.isZero, le_eq, le_eq, zero]
  rcases x.toModel.unpack with (_ | _) | _ | sign | ⟨_ | _, m, e, _⟩ <;>
    simp [UnpackedFloat.compare]

end Storefront.Floats
