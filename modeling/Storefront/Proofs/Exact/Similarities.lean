import Mathlib
import Storefront.Proofs.Exact.Blends
import Storefront.Proofs.Searches
/-!
# Similarities in exact arithmetic

The similarity of two vectors is the inner product of their directions, and an inner product of two
directions is at most one in size. A multiple of a vector has the direction of the vector. So in
exact arithmetic a search reports similarities between minus one and one only, and how long the
query is makes no difference: every positive multiple of it finds the same items with the same
similarities, and so does its direction.
-/

namespace Storefront

namespace Vector

variable {v w query : List ℝ} {factor : ℝ}

section Products

/-- Inner products are computed entry by entry. -/
theorem dot_cons (x y : ℝ) (v w : List ℝ) : dot (x :: v) (y :: w) = x * y + dot v w := by
  simp only [dot, Scalar.sum_exact, List.zipWith_cons_cons, List.sum_cons]

/-- An inner product without entries is zero. -/
theorem dot_nil_left (w : List ℝ) : dot [] w = 0 := by
  simp only [dot, Scalar.sum_exact, List.zipWith_nil_left, List.sum_nil]

/-- An inner product without entries is zero. -/
theorem dot_nil_right (v : List ℝ) : dot v [] = 0 := by
  simp only [dot, Scalar.sum_exact, List.zipWith_nil_right, List.sum_nil]

/-- The inner product of a vector with itself is the sum of its squares. -/
theorem dot_self (v : List ℝ) : dot v v = (v.map fun x => x * x).sum := by
  rw [dot, Scalar.sum_exact, List.zipWith_self]

/-- A vector of length one has the inner product one with itself. -/
theorem dot_self_of_norm (unit : norm v = 1) : dot v v = 1 := by
  rw [norm_exact, ← dot_self] at unit
  exact Real.sqrt_eq_one.mp unit

/-- An inner product is at most the mean of the two squared lengths in size. -/
theorem two_mul_abs_dot_le (v w : List ℝ) : 2 * |dot v w| ≤ dot v v + dot w w := by
  induction v generalizing w with
  | nil =>
    rw [dot_nil_left, dot_nil_left, abs_zero, mul_zero, zero_add, dot_self]
    exact squares_nonneg w
  | cons x v ih =>
    cases w with
    | nil =>
      rw [dot_nil_right, dot_nil_right, abs_zero, mul_zero, add_zero, dot_self]
      exact squares_nonneg (x :: v)
    | cons y w =>
      have entry : 2 * |x * y| ≤ x * x + y * y := by
        have mean := two_mul_le_add_sq |x| |y|
        rwa [mul_assoc, ← abs_mul, sq_abs, sq_abs, sq, sq] at mean
      rw [dot_cons, dot_cons, dot_cons]
      linarith only [entry, ih w, abs_add_le (x * y) (dot v w)]

/-- Dividing both vectors divides their inner product. -/
theorem dot_map_div (v w : List ℝ) (a b : ℝ) :
    dot (v.map (· / a)) (w.map (· / b)) = dot v w / (a * b) := by
  induction v generalizing w with
  | nil => rw [List.map_nil, dot_nil_left, dot_nil_left, zero_div]
  | cons x v ih =>
    cases w with
    | nil => rw [List.map_nil, dot_nil_right, dot_nil_right, zero_div]
    | cons y w =>
      rw [List.map_cons, List.map_cons, dot_cons, dot_cons, ih, add_div, div_mul_div_comm]

/-- A multiple of the first vector multiplies the inner product. -/
theorem dot_scale (factor : ℝ) (v w : List ℝ) : dot (scale factor v) w = factor * dot v w := by
  induction v generalizing w with
  | nil => rw [scale, List.map_nil, dot_nil_left, mul_zero]
  | cons x v ih =>
    cases w with
    | nil => rw [dot_nil_right, dot_nil_right, mul_zero]
    | cons y w =>
      rw [scale, List.map_cons, ← scale, dot_cons, dot_cons, ih, mul_add, mul_assoc]

end Products

section Similarities

/-- The similarity of two vectors is the inner product of their directions. -/
theorem cosine_eq_dot (first : norm v ≠ 0) (second : norm w ≠ 0) :
    cosine v w = dot (normalize v) (normalize w) := by
  rw [normalize_eq_map (norm_ne_zero_iff.mp first), normalize_eq_map (norm_ne_zero_iff.mp second),
    dot_map_div, cosine]

/-- A similarity is at most one in size. -/
theorem abs_cosine_le_one (first : norm v ≠ 0) (second : norm w ≠ 0) : |cosine v w| ≤ 1 := by
  have unit : ∀ {u : List ℝ}, norm u ≠ 0 → dot (normalize u) (normalize u) = 1 :=
    fun directed => dot_self_of_norm (norm_normalize (norm_ne_zero_iff.mp directed))
  have mean := two_mul_abs_dot_le (normalize v) (normalize w)
  rw [unit first, unit second] at mean
  rw [cosine_eq_dot first second]
  linarith only [mean]

/-- A positive multiple of a vector is as similar to others as the vector. -/
theorem cosine_scale (positive : 0 < factor) (v w : List ℝ) :
    cosine (scale factor v) w = cosine v w := by
  rw [cosine, cosine, dot_scale, norm_scale positive.le, mul_assoc,
    mul_div_mul_left _ _ positive.ne']

/-- What has a similarity to a query that is not zero has one of at most one in size. -/
theorem abs_le_one_of_similarity? {α : Type} {vectorOf : α → Option (List ℝ)} {candidate : α}
    {found : ℝ × α} (directed : norm query ≠ 0)
    (similar : similarity? query vectorOf candidate = some found) : |found.1| ≤ 1 := by
  unfold similarity? at similar
  split at similar
  · next vector compared =>
    cases similar
    have comparable := (Option.filter_eq_some_iff.mp compared).2
    simp only [isComparable, Scalar.isZero_exact, Bool.and_eq_true, Bool.not_eq_true',
      decide_eq_false_iff_not] at comparable
    exact abs_cosine_le_one directed comparable.2
  · cases similar

variable {α : Type} (vectorOf : α → Option (List ℝ)) (limit : Int) (candidates : List α)

/-- What is near a query has a similarity of at most one in size. -/
theorem abs_le_one_of_mem_nearest {found : ℝ × α}
    (near : found ∈ nearest query vectorOf limit candidates) : |found.1| ≤ 1 := by
  unfold nearest at near
  split at near
  · cases near
  · next directed =>
    rw [Scalar.isZero_exact, decide_eq_true_eq] at directed
    have sorted := (Sequence.cut_sublist limit _).subset near
    obtain ⟨candidate, -, similar⟩ :=
      List.mem_filterMap.mp ((Sequence.descending_perm _ _).subset sorted)
    exact abs_le_one_of_similarity? directed similar

/-- The same candidates are near a query and near a positive multiple of it, and they are as similar
to both. -/
theorem nearest_scale (positive : 0 < factor) (query : List ℝ) :
    nearest (scale factor query) vectorOf limit candidates =
      nearest query vectorOf limit candidates := by
  have compares : isComparable (scale factor query) = isComparable query := by
    funext vector
    rw [isComparable, isComparable, scale, List.length_map]
  have similar : similarity? (scale factor query) vectorOf = similarity? query vectorOf := by
    funext candidate
    simp only [similarity?, compares, cosine_scale positive]
  have directed : Scalar.isZero (norm (scale factor query)) = Scalar.isZero (norm query) := by
    rw [norm_scale positive.le, Scalar.isZero_exact, Scalar.isZero_exact, decide_eq_decide,
      mul_eq_zero_iff_left positive.ne']
  rw [nearest, nearest, similar, directed]

/-- The same candidates are near a query and near its direction. -/
theorem nearest_normalize (query : List ℝ) :
    nearest (normalize query) vectorOf limit candidates =
      nearest query vectorOf limit candidates := by
  by_cases zeros : ∀ x ∈ query, x = 0
  · rw [normalize_of_zero zeros]
  · push Not at zeros
    have long : 0 < norm query := (Real.sqrt_nonneg _).lt_of_ne' (norm_ne_zero_iff.mpr zeros)
    have share : normalize query = scale (norm query)⁻¹ query := by
      rw [normalize_eq_map zeros]
      exact List.map_congr_left fun x _ => div_eq_inv_mul x _
    rw [share, nearest_scale vectorOf limit candidates (inv_pos.mpr long)]

end Similarities

end Vector

namespace Catalog

/-- The items nearest to a query with their similarities, for scalars of any kind: `vectorIn` gives
the vectors that an index is over. -/
def similar {R : Type} [Analytic R] (vectorIn : String → Item → Option (List R)) (catalog : Catalog)
    (index : String) (filters : Option Row) (limit : Int) (query : List R) :
    Except Fault (List (R × Item)) :=
  if IsIndex index then
    .ok (Vector.nearest query (vectorIn index) limit (catalog.wanted filters))
  else .error (.unknownIndex index)

/-- A search on machine floats finds the nearest items and scores them with their similarities. -/
theorem search_eq_similar (catalog : Catalog) (query : SearchQuery) :
    catalog.search query =
      (catalog.similar vectorIn query.index query.filters query.limit query.vector).map
        (·.map fun (similarity, item) => item.scored similarity) := by
  by_cases known : IsIndex query.index
  · rw [search, indexed_eq known, similar, if_pos known]
    rfl
  · have unknown : indexed query.index = .error (.unknownIndex query.index) := by
      rw [IsIndex, not_or] at known
      rw [indexed, if_neg known.1, if_neg known.2]
    rw [search, unknown, similar, if_neg known]
    rfl

/-- Searches are run on machine floats. In exact arithmetic a search of an index that the catalog
has reports similarities between minus one and one, and a positive multiple of the query finds the
same items with the same similarities, as does the direction of the query. -/
theorem similar_of_direction (catalog : Catalog) (vectorIn : String → Item → Option (List ℝ))
    (index : String) (filters : Option Row) (limit : Int) (query : List ℝ) :
    let finds := catalog.similar vectorIn index filters limit
    (∀ query : SearchQuery, catalog.search query =
      (catalog.similar Catalog.vectorIn query.index query.filters query.limit query.vector).map
        (·.map fun (similarity, item) => item.scored similarity)) ∧
    (IsIndex index →
      ∃ found, finds query = .ok found ∧ ∀ entry ∈ found, -1 ≤ entry.1 ∧ entry.1 ≤ 1) ∧
    (∀ factor, 0 < factor → finds (Vector.scale factor query) = finds query) ∧
    finds (Vector.normalize query) = finds query := by
  intro finds
  refine ⟨catalog.search_eq_similar, ?bounded, ?scaled, ?normalized⟩
  case bounded =>
    exact fun known => ⟨_, if_pos known, fun entry member =>
      abs_le.mp (Vector.abs_le_one_of_mem_nearest _ _ _ member)⟩
  case scaled =>
    intro factor positive
    simp only [finds, similar, Vector.nearest_scale _ _ _ positive]
  case normalized =>
    simp only [finds, similar, Vector.nearest_normalize]

section Sample

/-- If every item has the vector three and four, a ring is found for a query along the first axis,
for one in the same direction that is five times as long, and for the direction itself. -/
theorem similar_of_direction_sample :
    let ring := Memory.sampleStyled "ring" none
    let vectors : String → Item → Option (List ℝ) := fun _ _ => some [3, 4]
    let finds := (ofItems [ring]).similar vectors styleIndex none 1
    finds [2, 0] = .ok [(3 / 5, ring)] ∧ finds [10, 0] = .ok [(3 / 5, ring)] ∧
      finds [1, 0] = .ok [(3 / 5, ring)] ∧ IsIndex styleIndex ∧ (0 : ℝ) < 5 ∧
      ∃ found, finds [2, 0] = .ok found ∧ ∀ entry ∈ found, -1 ≤ entry.1 ∧ entry.1 ≤ 1 := by
  intro ring vectors finds
  have known : IsIndex styleIndex := .inl rfl
  have positive : (0 : ℝ) < 5 := by norm_num
  have long : Vector.norm ([2, 0] : List ℝ) = 2 := by
    rw [Vector.norm_exact, Real.sqrt_eq_iff_mul_self_eq_of_pos (by norm_num)]
    norm_num
  have similarity : Vector.cosine ([2, 0] : List ℝ) [3, 4] = 3 / 5 := by
    rw [Vector.cosine, long, Vector.norm_three_four, Vector.dot_cons, Vector.dot_cons,
      Vector.dot_nil_left]
    norm_num
  have near : finds [2, 0] = .ok [(3 / 5, ring)] := by
    have comparable : Vector.isComparable ([2, 0] : List ℝ) [3, 4] = true := by
      simp [Vector.isComparable, Vector.norm_three_four]
    have similar : Vector.similarity? [2, 0] (vectors styleIndex) ring = some (3 / 5, ring) := by
      have held : vectors styleIndex ring = some [3, 4] := rfl
      rw [Vector.similarity?, held, Option.filter_some, if_pos comparable, ← similarity]
    have wanted : (ofItems [ring]).wanted none = [ring] := rfl
    simp only [finds, Catalog.similar, if_pos known, Vector.nearest, Scalar.isZero_exact, long,
      wanted, List.filterMap_cons, similar]
    norm_num [Sequence.descending, Sequence.insertDescending, Sequence.cut]
  have direction : Vector.normalize ([2, 0] : List ℝ) = [1, 0] := by
    rw [Vector.normalize_eq_map ⟨2, List.mem_cons_self, two_ne_zero⟩, long]
    norm_num
  have scaled : Vector.scale 5 ([2, 0] : List ℝ) = [10, 0] := by norm_num [Vector.scale]
  obtain ⟨-, bounded, scales, directs⟩ :=
    similar_of_direction (ofItems [ring]) vectors styleIndex none 1 [2, 0]
  refine ⟨near, ?_, ?_, known, positive, bounded known⟩
  · rw [← near, ← scaled]
    exact scales 5 positive
  · rw [← near, ← direction]
    exact directs

end Sample

end Catalog

end Storefront
