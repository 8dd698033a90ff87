import Mathlib
import Storefront.Scalar
/-!
# Exact scalars

The real numbers are scalars without rounding, and so are the rational ones, for computations that
take no roots. What is computed on them is what the computation on machine floats approximates, and
ordinary algebra applies to it.
-/

namespace Storefront

noncomputable instance : Analytic ℝ where
  ofInt n := n
  lt x y := decide (x < y)
  le x y := decide (x ≤ y)
  sqrt := Real.sqrt
  exp := Real.exp

instance : Scalar ℚ where
  ofInt n := n
  lt x y := decide (x < y)
  le x y := decide (x ≤ y)

namespace Scalar

@[simp] theorem ofInt_exact (n : ℤ) : (ofInt n : ℝ) = n := rfl

@[simp] theorem zero_exact : (zero : ℝ) = 0 := Int.cast_zero

@[simp] theorem one_exact : (one : ℝ) = 1 := Int.cast_one

@[simp] theorem lt_exact (x y : ℝ) : lt x y = decide (x < y) := rfl

@[simp] theorem le_exact (x y : ℝ) : le x y = decide (x ≤ y) := rfl

/-- An exact scalar is zero if it is neither above nor below zero. -/
@[simp] theorem isZero_exact (x : ℝ) : isZero x = decide (x = 0) := by
  simp only [isZero, le_exact, zero_exact, ← Bool.decide_and, le_antisymm_iff]

/-- The magnitude of an exact scalar is its absolute value. -/
@[simp] theorem magnitude_exact (x : ℝ) : magnitude x = |x| := by
  unfold magnitude
  simp only [lt_exact, zero_exact, decide_eq_true_eq]
  split
  · next negative => exact (abs_of_neg negative).symm
  · next other => exact (abs_of_nonneg (not_lt.mp other)).symm

/-- Sums of exact scalars do not depend on the order of addition. -/
@[simp] theorem sum_exact (xs : List ℝ) : sum xs = xs.sum := by
  rw [List.sum_eq_foldl, sum, zero_exact]

end Scalar

end Storefront
