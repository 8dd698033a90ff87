import Mathlib
import Storefront.Proofs.Exact.Scalars
import Storefront.Proofs.Vectors
/-!
# Pools in exact arithmetic

On exact scalars the sum of a pool has, entry by entry, the sum of what the shares add there, and
its total is the sum of the sizes of their weights. So the direction of a pool does not depend on
the order in which shares are added, and it is absent only if there are no shares.
-/

namespace Storefront

namespace Vector

/-- The length of an exact vector is the root of the sum of the squares. -/
theorem norm_exact (v : List ℝ) : norm v = √((v.map fun x => x * x).sum) := by
  unfold norm dot
  rw [Scalar.sum_exact, List.zipWith_self]
  rfl

/-- The squares of the entries of a vector have no negative sum. -/
theorem squares_nonneg (v : List ℝ) : 0 ≤ (v.map fun x => x * x).sum := by
  apply List.sum_nonneg
  rintro _ member
  obtain ⟨x, -, rfl⟩ := List.mem_map.mp member
  exact mul_self_nonneg x

/-- Only vectors of zeros have no length. -/
theorem norm_eq_zero_iff {v : List ℝ} : norm v = 0 ↔ ∀ x ∈ v, x = 0 := by
  rw [norm_exact, Real.sqrt_eq_zero (squares_nonneg v)]
  constructor
  · intro none x member
    have square : x * x ∈ v.map fun x => x * x := List.mem_map.mpr ⟨x, member, rfl⟩
    have bound : x * x ≤ (v.map fun x => x * x).sum := by
      refine List.single_le_sum (fun _ member => ?_) _ square
      obtain ⟨y, -, rfl⟩ := List.mem_map.mp member
      exact mul_self_nonneg y
    exact mul_self_eq_zero.mp (le_antisymm (none ▸ bound) (mul_self_nonneg x))
  · intro zeros
    apply List.sum_eq_zero
    rintro _ member
    obtain ⟨x, held, rfl⟩ := List.mem_map.mp member
    rw [zeros x held, mul_zero]

/-- A vector that has an entry other than zero has a length. -/
theorem norm_ne_zero_iff {v : List ℝ} : norm v ≠ 0 ↔ ∃ x ∈ v, x ≠ 0 := by
  rw [ne_eq, norm_eq_zero_iff]
  push Not
  rfl

/-- A vector of zeros has no direction and stays. -/
theorem normalize_of_zero {v : List ℝ} (zeros : ∀ x ∈ v, x = 0) : normalize v = v := by
  unfold normalize
  dsimp only
  rw [Scalar.isZero_exact, norm_eq_zero_iff.mpr zeros]
  simp

/-- Every other vector is divided by its length. -/
theorem normalize_eq_map {v : List ℝ} (directed : ∃ x ∈ v, x ≠ 0) :
    normalize v = v.map (· / norm v) := by
  unfold normalize
  dsimp only
  rw [Scalar.isZero_exact, decide_eq_false (norm_ne_zero_iff.mpr directed)]
  rfl

/-- Every other vector is made one long. -/
theorem norm_normalize {v : List ℝ} (directed : ∃ x ∈ v, x ≠ 0) : norm (normalize v) = 1 := by
  have long := norm_ne_zero_iff.mpr directed
  have square : norm v * norm v = (v.map fun x => x * x).sum := by
    rw [norm_exact, Real.mul_self_sqrt (squares_nonneg v)]
  have shares : (((v.map (· / norm v))).map fun x => x * x).sum =
      (v.map fun x => x * x).sum / (norm v * norm v) := by
    rw [List.map_map, div_eq_mul_inv, ← List.sum_map_mul_right]
    congr 1
    refine List.map_congr_left fun x _ => ?_
    change x / norm v * (x / norm v) = x * x * (norm v * norm v)⁻¹
    rw [div_mul_div_comm, div_eq_mul_inv]
  rw [normalize_eq_map directed, norm_exact, shares, ← square,
    div_self (mul_ne_zero long long), Real.sqrt_one]

/-- A multiple of a vector is as many times as long. -/
theorem norm_scale {factor : ℝ} (nonneg : 0 ≤ factor) (v : List ℝ) :
    norm (scale factor v) = factor * norm v := by
  have squares : ((scale factor v).map fun x => x * x).sum =
      factor * factor * (v.map fun x => x * x).sum := by
    rw [scale, List.map_map, ← List.sum_map_mul_left]
    congr 1
    refine List.map_congr_left fun x _ => ?_
    exact mul_mul_mul_comm factor x factor x
  rw [norm_exact, norm_exact, squares, Real.sqrt_mul (mul_self_nonneg factor),
    Real.sqrt_mul_self nonneg]

/-- A positive multiple of a vector points the same way. -/
theorem normalize_scale {factor : ℝ} (positive : 0 < factor) (v : List ℝ) :
    normalize (scale factor v) = normalize v := by
  by_cases zeros : ∀ x ∈ v, x = 0
  · have same : scale factor v = v := by
      refine (List.map_congr_left fun x member => ?_).trans v.map_id
      rw [zeros x member, mul_zero, id]
    rw [same]
  · push Not at zeros
    obtain ⟨x, member, nonzero⟩ := zeros
    have scaled : ∃ y ∈ scale factor v, y ≠ 0 :=
      ⟨factor * x, List.mem_map_of_mem member, mul_ne_zero positive.ne' nonzero⟩
    rw [normalize_eq_map ⟨x, member, nonzero⟩, normalize_eq_map scaled, norm_scale positive.le,
      scale, List.map_map]
    refine List.map_congr_left fun y _ => ?_
    exact mul_div_mul_left y _ positive.ne'

end Vector

namespace Event

variable {now : Moment} {event : Event}

/-- The age of an event is never negative. -/
theorem ageDays_exact (now : Moment) (event : Event) :
    (ageDays now event : ℝ) =
      max 0 (((now.instant - event.timestamp.instant : ℤ) : ℝ) / 1000000 / 86400) := by
  unfold ageDays
  simp only [Scalar.lt_exact, Scalar.zero_exact, Scalar.ofInt_exact, Moment.perSecond,
    decide_eq_true_eq]
  push_cast
  split
  · next future => exact (max_eq_left future.le).symm
  · next past => exact (max_eq_right (not_lt.mp past)).symm

/-- The weight of an event is the weight of its type, decayed by its age. -/
theorem weight_exact (now : Moment) (event : Event) :
    (event.weight now : ℝ) =
      event.type.baseWeight * Real.exp (-ageDays now event * decayRate) := by
  unfold weight
  simp only [Scalar.isZero_exact, decide_eq_true_eq, Scalar.zero_exact]
  split
  · next weightless => rw [weightless, zero_mul]
  · rfl

end Event

namespace Pooling

/-- The sum of some shares in every entry of a vector: the weights times the styles, which are cut
or padded with zeros. -/
def totalOf (dim : Nat) (shares : List (ℝ × List ℝ)) : List ℝ :=
  (List.range dim).map fun i => (shares.map fun share => share.1 * share.2.getD i 0).sum

/-- The order of shares makes no difference to their sum. -/
theorem totalOf_perm (dim : Nat) {shares others : List (ℝ × List ℝ)} (perm : shares.Perm others) :
    totalOf dim shares = totalOf dim others :=
  List.map_congr_left fun _ _ => (perm.map _).sum_eq

variable {pool : Pool ℝ} {dim : Nat}

/-- A share adds to every entry of a sum. -/
theorem Pool.add_sum {f : Nat → ℝ} (sums : pool.sum = (List.range dim).map f) (style : List ℝ)
    (weight : ℝ) :
    (pool.add style weight).sum =
      (List.range dim).map fun i => f i + weight * style.getD i 0 := by
  have length : pool.sum.length = dim := by rw [sums, List.length_map, List.length_range]
  unfold Pool.add Vector.add
  rw [length, Vector.fit_eq_map, List.map_map, sums, List.zipWith_map, List.zipWith_self,
    Scalar.zero_exact]
  refine List.map_congr_left fun i _ => ?_
  change f i + style.getD i 0 * weight = f i + weight * style.getD i 0
  rw [mul_comm]

/-- Shares add their sums to every entry. -/
theorem Pool.addAll_sum (shares : List (ℝ × List ℝ)) {f : Nat → ℝ}
    (sums : pool.sum = (List.range dim).map f) :
    (pool.addAll shares).sum =
      (List.range dim).map fun i =>
        f i + (shares.map fun share => share.1 * share.2.getD i 0).sum := by
  induction shares generalizing pool f with
  | nil => simp [Pool.addAll, sums]
  | cons share rest ih =>
    rw [Pool.addAll, List.foldl_cons, ← Pool.addAll, ih (Pool.add_sum sums share.2 share.1)]
    simp only [List.map_cons, List.sum_cons, add_assoc]

/-- Shares add the sizes of their weights to the total. -/
theorem Pool.addAll_total (pool : Pool ℝ) (shares : List (ℝ × List ℝ)) :
    (pool.addAll shares).total = pool.total + (shares.map fun share => |share.1|).sum := by
  induction shares generalizing pool with
  | nil => simp [Pool.addAll]
  | cons share rest ih =>
    rw [Pool.addAll, List.foldl_cons, ← Pool.addAll, ih, List.map_cons, List.sum_cons, ← add_assoc,
      Pool.add, Scalar.magnitude_exact]

/-- The direction of shares whose weights are not zero is that of their sum, if there are any. -/
theorem Pool.direction?_addAll (dim : Nat) {shares : List (ℝ × List ℝ)}
    (weighty : ∀ share ∈ shares, share.1 ≠ 0) :
    ((Pool.empty dim).addAll shares).direction? =
      if shares.isEmpty then none else some (Vector.normalize (totalOf dim shares)) := by
  have sum : ((Pool.empty dim).addAll shares).sum = totalOf dim shares := by
    have zeros : (Pool.empty dim : Pool ℝ).sum = (List.range dim).map fun _ => 0 := by
      simp [Pool.empty]
    rw [Pool.addAll_sum shares zeros]
    simp only [zero_add, totalOf]
  unfold Pool.direction?
  rw [Pool.addAll_total, sum, Scalar.isZero_exact]
  cases shares with
  | nil => simp [Pool.empty]
  | cons share rest =>
    have first : 0 < |share.1| := abs_pos.mpr (weighty share List.mem_cons_self)
    have others : 0 ≤ (rest.map fun share => |share.1|).sum := by
      apply List.sum_nonneg
      rintro _ member
      obtain ⟨other, -, rfl⟩ := List.mem_map.mp member
      exact abs_nonneg other.1
    have positive : (Pool.empty dim : Pool ℝ).total +
        ((share :: rest).map fun share => |share.1|).sum ≠ 0 := by
      rw [Pool.empty, Scalar.zero_exact, zero_add, List.map_cons, List.sum_cons]
      exact (add_pos_of_pos_of_nonneg first others).ne'
    rw [decide_eq_false positive]
    rfl

end Pooling

end Storefront
