import Storefront.Scalar
import Storefront.Sequence
/-!
# Vectors

Style vectors are plain lists of scalars. Lengths may differ by accident of storage, so a vector
is padded or cut before it meets another one. Everything here holds for machine floats and exact
scalars alike.
-/

namespace Storefront.Vector

variable {R : Type} [Analytic R]

/-- The inner product, over the common length. -/
def dot (v w : List R) : R := Scalar.sum (List.zipWith (· * ·) v w)

/-- The length of a vector. -/
def norm (v : List R) : R := Analytic.sqrt (dot v v)

/-- The vector of length one in the same direction; a vector of length zero stays. -/
def normalize (v : List R) : List R :=
  let length := norm v
  if Scalar.isZero length then v else v.map (· / length)

/-- A vector with a set number of entries: cut, or padded with zeros. -/
def fit (dim : Int) (v : List R) : List R :=
  if dim ≤ v.length then (if dim = v.length then v else Sequence.cut dim v)
  else v ++ List.replicate (dim.toNat - v.length) Scalar.zero

/-- The sum of two vectors of one length. -/
def add (v w : List R) : List R := List.zipWith (· + ·) v w

/-- A multiple of a vector. -/
def scale (factor : R) (v : List R) : List R := v.map (factor * ·)

/-- The weighted mean of two vectors, padded to the longer one. -/
def mix (alpha : R) (profile session : List R) : List R :=
  let dim := max profile.length session.length
  add (scale alpha (fit dim session)) (scale (Scalar.one - alpha) (fit dim profile))

/-- Blend a profile with a session: the weighted mean, made one long. If one side is missing, the
other comes back as it is. -/
def blend (alpha : R) (profile session : Option (List R)) : Option (List R) :=
  match profile, session with
  | none, session => session
  | some profile, none => some profile
  | some profile, some session => some (normalize (mix alpha profile session))

end Storefront.Vector
