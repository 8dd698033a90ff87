import Mathlib
import Storefront.Proofs.Exact.Pools
/-!
# Blends in exact arithmetic

A blend of two vectors is the weighted mean of their entries, made one long, where a vector counts
as zero behind its end. So only vectors that cancel have no blend but the zero vector, the two sides
may be exchanged together with their weights, and a side without a direction leaves the direction of
the other one.
-/

namespace Storefront.Vector

variable {alpha : ℝ} {profile session v : List ℝ}

/-- The weighted mean of two vectors in every entry of the longer one. -/
def combination (alpha : ℝ) (profile session : List ℝ) : List ℝ :=
  (List.range (max profile.length session.length)).map fun i =>
    alpha * session.getD i 0 + (1 - alpha) * profile.getD i 0

/-- Vectors are mixed by combining them. -/
theorem mix_exact (alpha : ℝ) (profile session : List ℝ) :
    mix alpha profile session = combination alpha profile session := by
  simp only [mix, add, scale, fit_eq_map, List.map_map, List.zipWith_map, List.zipWith_self,
    Scalar.zero_exact, Scalar.one_exact]
  rfl

/-- The sides of a combination may be exchanged together with their weights. -/
theorem combination_comm (alpha : ℝ) (profile session : List ℝ) :
    combination (1 - alpha) session profile = combination alpha profile session := by
  unfold combination
  rw [max_comm]
  refine List.map_congr_left fun i _ => ?_
  ring

/-- A session of zeros leaves a share of the profile. -/
theorem combination_of_zero (alpha : ℝ) (profile : List ℝ) (zeros : ∀ x ∈ session, x = 0) :
    combination alpha profile session =
      scale (1 - alpha) (fit ((max profile.length session.length : Nat) : ℤ) profile) := by
  have zero : ∀ i, session.getD i 0 = 0 := by
    intro i
    rw [List.getD_eq_getElem?_getD]
    cases held : session[i]? with
    | none => rfl
    | some x => exact zeros x (List.mem_of_getElem? held)
  rw [fit_eq_map, scale, List.map_map, Scalar.zero_exact]
  refine List.map_congr_left fun i _ => ?_
  rw [zero, mul_zero, zero_add, Function.comp_apply]

/-- A vector with room behind it is padded with zeros. -/
theorem fit_of_room {dim : Nat} (room : v.length ≤ dim) :
    fit (dim : ℤ) v = v ++ List.replicate (dim - v.length) 0 := by
  unfold fit
  split
  · next long =>
    have full : dim = v.length := by omega
    rw [if_pos (congrArg Nat.cast full), full, Nat.sub_self, List.replicate_zero, List.append_nil]
  · rw [Int.toNat_natCast, Scalar.zero_exact]

/-- Zeros behind a vector do not make it longer. -/
theorem norm_append_zeros (v : List ℝ) (count : Nat) :
    norm (v ++ List.replicate count 0) = norm v := by
  have none : ((List.replicate count (0 : ℝ)).map fun x => x * x).sum = 0 := by simp
  rw [norm_exact, norm_exact, List.map_append, List.sum_append, none, add_zero]

/-- A padded vector points the same way. -/
theorem normalize_fit {dim : Nat} (room : v.length ≤ dim) :
    normalize (fit (dim : ℤ) v) = fit (dim : ℤ) (normalize v) := by
  have kept : (normalize v).length ≤ dim := (length_normalize v).trans_le room
  rw [fit_of_room room, fit_of_room kept, length_normalize]
  by_cases zeros : ∀ x ∈ v, x = 0
  · have still : ∀ x ∈ v ++ List.replicate (dim - v.length) 0, x = 0 := by
      intro x member
      exact (List.mem_append.mp member).elim (zeros x) List.eq_of_mem_replicate
    rw [normalize_of_zero zeros, normalize_of_zero still]
  · push Not at zeros
    obtain ⟨x, member, nonzero⟩ := zeros
    rw [normalize_eq_map ⟨x, member, nonzero⟩,
      normalize_eq_map ⟨x, List.mem_append_left _ member, nonzero⟩, norm_append_zeros,
      List.map_append, List.map_replicate, zero_div]

/-- The sides of a blend may be exchanged together with their weights. -/
theorem blend_comm (alpha : ℝ) (profile session : Option (List ℝ)) :
    blend (1 - alpha) session profile = blend alpha profile session := by
  cases profile with
  | none => cases session <;> rfl
  | some profile =>
    cases session with
    | none => rfl
    | some session => simp only [blend, mix_exact, combination_comm]

/-- A blend of two vectors has as many entries as the longer one. It is the zero vector if the
weighted mean of the two is, and else that mean made one long. Exchanging the sides together with
their weights makes no difference, a session of zeros leaves the direction of the profile, and if a
side is missing the other one comes back as it is. -/
theorem blend_directs (alpha : ℝ) (profile session : List ℝ) :
    let total := combination alpha profile session
    (∃ blended, blend alpha (some profile) (some session) = some blended ∧
      blended.length = max profile.length session.length ∧
      ((∀ x ∈ total, x = 0) → ∀ x ∈ blended, x = 0) ∧
      ((∃ x ∈ total, x ≠ 0) →
        0 < norm total ∧ blended = scale (norm total)⁻¹ total ∧ norm blended = 1) ∧
      (alpha < 1 → (∀ x ∈ session, x = 0) →
        blended = fit ((max profile.length session.length : Nat) : ℤ) (normalize profile))) ∧
    (∀ profile session : Option (List ℝ),
      blend (1 - alpha) session profile = blend alpha profile session) ∧
    ∀ side : Option (List ℝ), blend alpha side none = side ∧ blend alpha none side = side := by
  intro total
  refine ⟨⟨normalize total, ?blends, ?length, ?cancels, ?directs, ?follows⟩, blend_comm alpha,
    fun side => ⟨by cases side <;> rfl, rfl⟩⟩
  case blends => rw [blend, mix_exact]
  case length =>
    rw [length_normalize]
    exact (List.length_map _).trans List.length_range
  case cancels =>
    intro zeros
    rwa [normalize_of_zero zeros]
  case directs =>
    intro directed
    have long : 0 < norm total :=
      (Real.sqrt_nonneg _).lt_of_ne' (norm_ne_zero_iff.mpr directed)
    refine ⟨long, ?_, norm_normalize directed⟩
    rw [normalize_eq_map directed]
    exact List.map_congr_left fun x _ => div_eq_inv_mul x _
  case follows =>
    intro share zeros
    have shared : total = scale (1 - alpha) _ := combination_of_zero alpha profile zeros
    rw [shared, normalize_scale (sub_pos.mpr share), normalize_fit (le_max_left _ _)]

section Sample

/-- A vector of three and four is five long. -/
theorem norm_three_four : norm ([3, 4] : List ℝ) = 5 := by
  rw [norm_exact, Real.sqrt_eq_iff_mul_self_eq_of_pos (by norm_num)]
  norm_num

/-- The direction of three and four. -/
theorem normalize_three_four : normalize ([3, 4] : List ℝ) = [3 / 5, 4 / 5] := by
  rw [normalize_eq_map ⟨3, List.mem_cons_self, three_ne_zero⟩, norm_three_four]
  rfl

/-- Halves of a short and of a longer vector make a vector of length five, which is made one long;
opposite vectors cancel; and zeros of a session are put behind the direction of the profile. -/
theorem blend_directs_sample :
    blend (1 / 2) (some [6]) (some [0, 8]) = some ([3 / 5, 4 / 5] : List ℝ) ∧
    blend (1 / 2) (some [0, 8]) (some [6]) = some ([3 / 5, 4 / 5] : List ℝ) ∧
    blend (1 / 2) (some [6]) (some [-6]) = some ([0] : List ℝ) ∧
    blend (7 / 10) (some [3, 4]) (some [0, 0, 0]) = some ([3 / 5, 4 / 5, 0] : List ℝ) := by
  have halves : combination (1 / 2) [6] [0, 8] = [3, 4] := by
    norm_num [combination, List.range_succ]
  have opposite : combination (1 / 2) [6] [-6] = [0] := by
    norm_num [combination]
  obtain ⟨⟨first, blends, -, -, directs, -⟩, comm, -⟩ := blend_directs (1 / 2) [6] [0, 8]
  obtain ⟨⟨second, cancelling, length, cancels, -⟩, -⟩ := blend_directs (1 / 2) [6] [-6]
  obtain ⟨⟨third, following, -, -, -, follows⟩, -⟩ := blend_directs (7 / 10) [3, 4] [0, 0, 0]
  rw [halves, norm_three_four] at directs
  rw [opposite] at cancels
  have scaled : first = [3 / 5, 4 / 5] := by
    rw [(directs ⟨3, by simp, by norm_num⟩).2.1]
    norm_num [scale]
  have zero : second = [0] := by
    obtain ⟨x, rfl⟩ := List.length_eq_one_iff.mp length
    rw [cancels (by simp) x (List.mem_singleton_self x)]
  have padded : third = [3 / 5, 4 / 5, 0] := by
    rw [follows (by norm_num) (by simp), normalize_three_four, fit_of_room (by simp)]
    simp
  rw [scaled] at blends
  refine ⟨blends, ?_, zero ▸ cancelling, padded ▸ following⟩
  rw [← blends, ← comm]
  norm_num

end Sample

end Storefront.Vector
