import Storefront.Proofs.Floats.Comparison
import Storefront.Proofs.Sorting
/-!
# Sorting by floats

Defined floats have a rank in a linear order: the negative infinity, the negative floats, the two
zeros in one place, the positive floats, the positive infinity; floats of one sign are ranked by
their exponents first. The order test on defined floats compares their ranks, so sorting by
defined floats is sorting by rank.
-/

namespace Storefront.Floats

open Float.Model (UnpackedFloat)

/-- The rank of an unpacked float; an undefined one is put with the zeros. -/
def rankOf : UnpackedFloat → ℤ ×ₗ ℤ ×ₗ ℤ
  | .infinity .negative => toLex (-2, toLex (0, 0))
  | .finite .negative mantissa exponent _ => toLex (-1, toLex (-exponent, -mantissa))
  | .zero _ => toLex (0, toLex (0, 0))
  | .notANumber => toLex (0, toLex (0, 0))
  | .finite .positive mantissa exponent _ => toLex (1, toLex (exponent, mantissa))
  | .infinity .positive => toLex (2, toLex (0, 0))

/-- The rank of a float. -/
def rank (x : Float) : ℤ ×ₗ ℤ ×ₗ ℤ := rankOf x.toModel.unpack

/-- A defined unpacked float is below another one exactly if its rank is. -/
theorem compare_eq_lt_iff {x y : UnpackedFloat} (definedLeft : x.isNaN = false)
    (definedRight : y.isNaN = false) : x.compare y = some .lt ↔ rankOf x < rankOf y := by
  -- One case for each pair of forms and signs; within one sign exponents are compared first.
  rcases x with (_ | _) | _ | (_ | _) | ⟨_ | _, m, e, _⟩ <;>
    rcases y with (_ | _) | _ | (_ | _) | ⟨_ | _, n, f, _⟩ <;>
    simp_all [UnpackedFloat.compare, UnpackedFloat.isNaN, rankOf, Prod.Lex.toLex_lt_toLex,
      Ordering.then_eq_lt, Ordering.then_eq_gt, compare_lt_iff_lt, compare_gt_iff_gt]
  rfl

/-- A defined float is below another one exactly if its rank is. -/
theorem lt_eq_decide_rank {x y : Float} (definedLeft : x.isNaN = false)
    (definedRight : y.isNaN = false) : decide (x < y) = decide (rank x < rank y) := by
  change Scalar.lt x y = _
  rw [lt_eq, beq_eq_decide, decide_eq_decide]
  exact compare_eq_lt_iff definedLeft definedRight

/-- A defined float is at most another one exactly if its rank is. -/
theorem le_iff_rank_le {x y : Float} (definedLeft : x.isNaN = false)
    (definedRight : y.isNaN = false) : x ≤ y ↔ rank x ≤ rank y := by
  have below : Scalar.lt y x = decide (rank y < rank x) :=
    lt_eq_decide_rank definedRight definedLeft
  constructor
  · intro atMost
    have holds : Scalar.le x y = true := decide_eq_true atMost
    have swapped := compare_swap x.toModel.unpack y.toModel.unpack
    refine not_lt.mp fun above => ?_
    rw [decide_eq_true above, lt_eq, swapped] at below
    rw [le_eq] at holds
    cases compared : x.toModel.unpack.compare y.toModel.unpack with
    | none => simp [compared] at holds
    | some outcome => cases outcome <;> simp_all
  · intro lower
    exact of_decide_eq_true
      (le_of_not_lt definedLeft definedRight (below.trans (decide_eq_false (not_lt.mpr lower))))

/-- A defined float is equal to another one exactly if this one is defined and has its rank. -/
theorem beq_iff_rank_eq {x y : Float} (defined : x.isNaN = false) :
    (x == y) = true ↔ y.isNaN = false ∧ rank x = rank y := by
  rw [beq_eq]
  by_cases alsoDefined : y.isNaN = false
  case neg =>
    refine iff_of_false (fun equal => ?_) fun both => alsoDefined both.1
    exact alsoDefined (defined_of_compare (beq_iff_eq.mp equal)).2
  have below := compare_eq_lt_iff defined alsoDefined
  have above := compare_eq_lt_iff alsoDefined defined
  obtain ⟨order, compared⟩ := compare_isSome (x := x.toModel.unpack) (y := y.toModel.unpack)
    defined alsoDefined
  rw [compared] at below
  rw [compare_swap x.toModel.unpack y.toModel.unpack, compared] at above
  rw [compared, and_iff_right alsoDefined]
  change _ ↔ rankOf _ = rankOf _
  cases order with
  | lt => simpa using (below.mp rfl).ne
  | eq =>
    have notBelow := below.not.mp (by simp)
    have notAbove := above.not.mp (by simp)
    simpa using le_antisymm (not_lt.mp notAbove) (not_lt.mp notBelow)
  | gt => simpa using (above.mp rfl).ne'

/-- What is above a float is above every float that is at most this one. -/
theorem lt_of_le_of_lt {x y z : Float} (atMost : x ≤ y) (below : y < z) : x < z := by
  have lower : Scalar.le x y = true := decide_eq_true atMost
  have higher : Scalar.lt y z = true := decide_eq_true below
  rw [le_eq, Option.any_eq_true] at lower
  rw [lt_eq, beq_iff_eq] at higher
  obtain ⟨order, compared, -⟩ := lower
  obtain ⟨xDefined, yDefined⟩ := defined_of_compare compared
  have zDefined := (defined_of_compare higher).2
  have ranked : rank x < rank z :=
    ((le_iff_rank_le xDefined yDefined).mp atMost).trans_lt
      ((compare_eq_lt_iff yDefined zDefined).mp higher)
  exact of_decide_eq_true ((lt_eq_decide_rank xDefined zDefined).trans (decide_eq_true ranked))

/-- Sorting by defined floats is sorting by their ranks. -/
theorem descending_eq_by_rank {α : Type} {score : α → Float} {xs : List α}
    (defined : ∀ x ∈ xs, (score x).isNaN = false) :
    Sequence.descending (fun a b => decide (score a < score b)) xs =
      Sequence.descending (Sequence.ranksBelow (rank ∘ score)) xs :=
  Sequence.descending_congr fun x first y second =>
    lt_eq_decide_rank (defined x first) (defined y second)

/-- Sorting by defined floats arranges the list: no element comes after one with a smaller float, and
those with equal floats stay in order. -/
theorem descending_arranges {α : Type} {score : α → Float} {xs : List α}
    (defined : ∀ x ∈ xs, (score x).isNaN = false) :
    Sequence.Arranges (fun x later => later ≤ x) (· == ·) score xs
      (Sequence.descending (fun a b => decide (score a < score b)) xs) := by
  have perm := Sequence.descending_perm (fun a b => decide (score a < score b)) xs
  refine ⟨perm, ?order, fun level => ?ties⟩
  case order =>
    have sorted : (Sequence.descending (fun a b => decide (score a < score b)) xs).Pairwise
        fun x later => rank (score later) ≤ rank (score x) :=
      descending_eq_by_rank defined ▸ Sequence.descending_pairwise xs
    refine sorted.imp_of_mem fun {x later} member found lower => ?_
    exact (le_iff_rank_le (defined later (perm.subset found))
      (defined x (perm.subset member))).mpr lower
  case ties =>
    have equal : ∀ x ∈ xs, (score x == level) =
        decide (level.isNaN = false ∧ rank (score x) = rank level) := fun x member => by
      rw [Bool.eq_iff_iff, beq_iff_rank_eq (defined x member), decide_eq_true_iff]
    rw [List.filter_congr equal,
      List.filter_congr fun x member => equal x (perm.subset member)]
    by_cases number : level.isNaN = false
    · simp only [number, true_and, descending_eq_by_rank defined]
      exact Sequence.filter_descending_of_rank _ xs
    · simp only [number, Bool.true_eq_false, false_and, decide_false, List.filter_false]

end Storefront.Floats
