/-!
# Scalars

Scores, weights and vectors are computed the same way on machine floats and on exact numbers.
`Scalar` names the operations such a computation may use, and `Analytic` adds the square root and
the exponential for the computations on vectors and ages. Only the machine instance lives here:
it is the one a running storefront uses.
-/

namespace Storefront

/-- The arithmetic and the two order tests that scores are built from. -/
class Scalar (R : Type) extends Add R, Sub R, Mul R, Div R, Neg R, OfScientific R where
  /-- The scalar nearest to an integer. -/
  ofInt : Int → R
  /-- Whether the first scalar is below the second. -/
  lt : R → R → Bool
  /-- Whether the first scalar is at most the second. -/
  le : R → R → Bool

/-- A scalar with the two functions that vector lengths and decay need. -/
class Analytic (R : Type) extends Scalar R where
  sqrt : R → R
  exp : R → R

namespace Scalar

variable {R : Type} [Scalar R]

/-- The neutral element of addition. -/
def zero : R := ofInt 0

/-- The neutral element of multiplication. -/
def one : R := ofInt 1

/-- A scalar that is neither above nor below zero; an incomparable scalar is not zero. -/
def isZero (x : R) : Bool := le x zero && le zero x

/-- The larger of a scalar and its negation. -/
def magnitude (x : R) : R := if lt x zero then -x else x

/-- The sum of a list, from the left. -/
def sum (xs : List R) : R := xs.foldl (· + ·) zero

end Scalar

instance : Analytic Float where
  ofInt n := Float.ofInt n
  lt x y := decide (x < y)
  le x y := decide (x ≤ y)
  sqrt := Float.sqrt
  exp := Float.exp

end Storefront
