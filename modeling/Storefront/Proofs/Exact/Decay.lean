import Mathlib
import Storefront.Proofs.Exact.Directions
/-!
# Directions as time passes

In exact arithmetic all weights of past events shrink by one factor from one clock to a later one.
So the pool of the events shrinks by that factor as a whole and keeps its direction: as long as
nothing new happens, what is known of a user does not drift. Only the clock must not be before the
events, since an event of the future does not age.
-/

namespace Storefront

variable {now later : Moment}

namespace Event

variable {event : Event}

/-- The factor by which weights shrink from one clock to a later one. -/
noncomputable def shrinkage (now later : Moment) : ℝ :=
  Real.exp (-(((later.instant - now.instant : ℤ) : ℝ) / 1000000 / 86400) * decayRate)

theorem shrinkage_pos (now later : Moment) : 0 < shrinkage now later := Real.exp_pos _

theorem decayRate_pos : (0 : ℝ) < decayRate := by
  change (0 : ℝ) < 0.05
  norm_num

/-- An event does not get younger. -/
theorem ageDays_mono (passes : now.instant ≤ later.instant) :
    (ageDays now event : ℝ) ≤ ageDays later event := by
  rw [ageDays_exact, ageDays_exact]
  have days : ((now.instant - event.timestamp.instant : ℤ) : ℝ) ≤
      ((later.instant - event.timestamp.instant : ℤ) : ℝ) := by
    exact_mod_cast Int.sub_le_sub_right passes _
  gcongr

/-- An event that is not after the clock ages by the time that passes. -/
theorem ageDays_later (past : event.timestamp.instant ≤ now.instant)
    (passes : now.instant ≤ later.instant) :
    (ageDays later event : ℝ) =
      ageDays now event + ((later.instant - now.instant : ℤ) : ℝ) / 1000000 / 86400 := by
  have aged : (0 : ℝ) ≤ ((now.instant - event.timestamp.instant : ℤ) : ℝ) := by
    exact_mod_cast Int.sub_nonneg_of_le past
  have passed : (0 : ℝ) ≤ ((later.instant - event.timestamp.instant : ℤ) : ℝ) := by
    exact_mod_cast Int.sub_nonneg_of_le (past.trans passes)
  rw [ageDays_exact, ageDays_exact, max_eq_right (by positivity), max_eq_right (by positivity)]
  push_cast
  ring

/-- The weight of an event that is not after the clock shrinks by the time that passes. -/
theorem weight_later (past : event.timestamp.instant ≤ now.instant)
    (passes : now.instant ≤ later.instant) :
    (event.weight later : ℝ) = shrinkage now later * event.weight now := by
  rw [weight_exact, weight_exact, ageDays_later past passes, shrinkage, neg_add, add_mul,
    Real.exp_add]
  ring

/-- A weight has the sign of its type's weight. -/
theorem sign_weight (now : Moment) (event : Event) :
    SignType.sign (event.weight now : ℝ) = SignType.sign (event.type.baseWeight : ℝ) := by
  rw [weight_exact, sign_mul, sign_pos (Real.exp_pos _), mul_one]

/-- A weight is no larger than its type's weight. -/
theorem abs_weight_le (now : Moment) (event : Event) :
    |(event.weight now : ℝ)| ≤ |event.type.baseWeight| := by
  have aged : (0 : ℝ) ≤ ageDays now event := by
    rw [ageDays_exact]
    exact le_max_left _ _
  have decays : Real.exp (-ageDays now event * decayRate) ≤ 1 :=
    Real.exp_le_one_iff.mpr (mul_nonpos_of_nonpos_of_nonneg (neg_nonpos.mpr aged) decayRate_pos.le)
  rw [weight_exact, abs_mul, Real.abs_exp]
  exact mul_le_of_le_one_right (abs_nonneg _) decays

/-- A weight does not grow while the event ages. -/
theorem abs_weight_antitone (passes : now.instant ≤ later.instant) (event : Event) :
    |(event.weight later : ℝ)| ≤ |event.weight now| := by
  have decays : Real.exp (-ageDays later event * decayRate) ≤
      Real.exp (-ageDays now event * decayRate) :=
    Real.exp_le_exp.mpr
      (mul_le_mul_of_nonneg_right (neg_le_neg (ageDays_mono passes)) decayRate_pos.le)
  rw [weight_exact, weight_exact, abs_mul, abs_mul, Real.abs_exp, Real.abs_exp]
  exact mul_le_mul_of_nonneg_left decays (abs_nonneg _)

/-- An event that has a weight at one clock has one at every clock of the same kind. -/
theorem weightAt_later (clocks : now.comparable later = true)
    (past : event.timestamp.instant ≤ now.instant) (passes : now.instant ≤ later.instant) :
    (event.weightAt later : Except Fault ℝ) =
      (event.weightAt now).map (shrinkage now later * ·) := by
  have kinds : later.comparable event.timestamp = now.comparable event.timestamp := by
    rw [Moment.comparable, Moment.comparable, eq_of_beq clocks]
  unfold weightAt
  rw [kinds]
  split
  · rw [weight_later past passes]
    rfl
  · rfl

end Event

namespace Pooling

open Event (shrinkage shrinkage_pos weightAt_later)

variable {styles : Styles ℝ} {pool : Pool ℝ} {factor : ℝ} {event : Event} {events : List Event}

/-- A pool in which every weight counts by a factor. -/
noncomputable def Pool.scaled (factor : ℝ) (pool : Pool ℝ) : Pool ℝ :=
  ⟨Vector.scale factor pool.sum, factor * pool.total⟩

/-- Nothing pooled is nothing by any factor. -/
theorem Pool.scaled_empty (factor : ℝ) (dim : Nat) : (empty dim).scaled factor = empty dim := by
  simp [scaled, empty, Vector.scale]

/-- A style that is added by a factor to a scaled pool scales the sum. -/
theorem Pool.scaled_add (nonneg : 0 ≤ factor) (pool : Pool ℝ) (style : List ℝ) (weight : ℝ) :
    (pool.scaled factor).add style (factor * weight) = (pool.add style weight).scaled factor := by
  have size : Scalar.magnitude (factor * weight) = factor * Scalar.magnitude weight := by
    rw [Scalar.magnitude_exact, Scalar.magnitude_exact, abs_mul, abs_of_nonneg nonneg]
  have sums : ∀ sum shares : List ℝ, Vector.add (Vector.scale factor sum)
      (shares.map (· * (factor * weight))) =
        Vector.scale factor (Vector.add sum (shares.map (· * weight))) := by
    intro sum shares
    rw [Vector.add, Vector.add, Vector.scale, Vector.scale, List.zipWith_map, List.map_zipWith,
      List.zipWith_map_right]
    congr 1
    funext x y
    ring
  have length : (Vector.scale factor pool.sum).length = pool.sum.length := List.length_map _
  simp only [scaled, add, size, sums, length, mul_add]

/-- A pool that is scaled by a positive factor has the same direction. -/
theorem Pool.direction?_scaled (positive : 0 < factor) (pool : Pool ℝ) :
    (pool.scaled factor).direction? = pool.direction? := by
  have total : factor * pool.total = 0 ↔ pool.total = 0 := mul_eq_zero_iff_left positive.ne'
  unfold direction? scaled
  simp only [Scalar.isZero_exact, total, Vector.normalize_scale positive]

/-- Adding a past event at a later clock to a pool that has shrunk since gives the pool of the
earlier clock, shrunk. -/
theorem addEvent_later (clocks : now.comparable later = true)
    (past : event.timestamp.instant ≤ now.instant) (passes : now.instant ≤ later.instant)
    (pool : Pool ℝ) :
    addEvent styles later (pool.scaled (shrinkage now later)) event =
      (addEvent styles now pool event).map (Pool.scaled (shrinkage now later)) := by
  have positive := shrinkage_pos now later
  unfold addEvent
  cases styleOf? styles event with
  | none => rfl
  | some style =>
    dsimp only
    rw [weightAt_later clocks past passes]
    cases (event.weightAt now : Except Fault ℝ) with
    | error fault => rfl
    | ok weight =>
      have weightless : shrinkage now later * weight = 0 ↔ weight = 0 :=
        mul_eq_zero_iff_left positive.ne'
      simp only [Except.map, Scalar.isZero_exact, weightless, Pool.scaled_add positive.le]
      split <;> rfl

/-- Adding past events, one after the other, gives the pool of the earlier clock, shrunk. -/
theorem addEvents_later (clocks : now.comparable later = true)
    (past : ∀ event ∈ events, event.timestamp.instant ≤ now.instant)
    (passes : now.instant ≤ later.instant) (pool : Pool ℝ) :
    addEvents styles later (pool.scaled (shrinkage now later)) events =
      (addEvents styles now pool events).map (Pool.scaled (shrinkage now later)) := by
  induction events generalizing pool with
  | nil => rfl
  | cons event rest ih =>
    obtain ⟨first, others⟩ := List.forall_mem_cons.mp past
    rw [addEvents, addEvents, addEvent_later clocks first passes]
    cases addEvent styles now pool event with
    | error fault => rfl
    | ok pool => exact ih others pool

/-- Past events have the same direction at a later clock. -/
theorem direction_later (clocks : now.comparable later = true)
    (past : ∀ event ∈ events, event.timestamp.instant ≤ now.instant)
    (passes : now.instant ≤ later.instant) (styles : Styles ℝ) (dim : Nat) :
    direction styles dim later events = direction styles dim now events := by
  have pooled : addEvents styles later ((Pool.empty dim).scaled (shrinkage now later)) events = _ :=
    addEvents_later clocks past passes (.empty dim)
  rw [Pool.scaled_empty] at pooled
  unfold direction
  rw [pooled]
  cases addEvents styles now (.empty dim) events with
  | error fault => rfl
  | ok pool => exact congrArg Except.ok (Pool.direction?_scaled (shrinkage_pos now later) pool)

end Pooling

namespace Profile

variable {σ : Type} {events : List Event}

/-- Profiles are computed from directions on machine floats. In exact arithmetic the computation of
a direction ends the same way at every later clock, with a fault or without, if no event is after
the earlier one. Every weight is no larger than the weight of its type and has its sign, and it
does not grow while the event ages. -/
theorem direction_stands (world : Collaborators σ) (styleOf : Item → Option (List ℝ)) (dim : Nat)
    (clocks : now.comparable later = true) (passes : now.instant ≤ later.instant)
    (past : ∀ event ∈ events, event.timestamp.instant ≤ now.instant) (state : σ) :
    (∀ config : Config, ofEvents world config now events =
      directionOf world (·.styleVector?) config.dim now events) ∧
    (directionOf world styleOf dim later events).outcome state =
      (directionOf world styleOf dim now events).outcome state ∧
    ∀ (event : Event) (clock : Moment),
      |(event.weight clock : ℝ)| ≤ |event.type.baseWeight| ∧
      SignType.sign (event.weight clock : ℝ) = SignType.sign (event.type.baseWeight : ℝ) ∧
      ∀ after : Moment, clock.instant ≤ after.instant →
        |(event.weight after : ℝ)| ≤ |event.weight clock| := by
  refine ⟨fun config => ofEvents_eq world config now events, ?direction, fun event clock => ?weight⟩
  case direction =>
    unfold directionOf
    simp only [Pooling.direction_later clocks past passes]
  case weight =>
    exact ⟨event.abs_weight_le clock, event.sign_weight clock, fun after passes =>
      event.abs_weight_antitone passes⟩

section Sample

open Memory (collaborators)

/-- A year after the present of the samples. -/
def sampleYearLater : Moment := ⟨sampleNow.wall + 365 * Moment.perDay, some 0⟩

/-- The purchase of the gown has a positive weight. -/
theorem samplePurchase_weighs : (0 : ℝ) < (samplePurchase "gown").weight sampleNow := by
  rw [Event.weight_exact]
  refine mul_pos ?_ (Real.exp_pos _)
  change (0 : ℝ) < 5.0
  norm_num

/-- The bought gown contributes. -/
theorem samplePurchase_contributes :
    (samplePurchase "gown").Contributes sampleGowned.catalog.itemAt? sampleStyle sampleNow :=
  ⟨⟨"gown", _, [3, 4], rfl, rfl, rfl, List.cons_ne_nil _ _⟩, samplePurchase_weighs.ne'⟩

/-- The purchase of the gown is plain. -/
theorem samplePurchase_plain : ∀ event ∈ [samplePurchase "gown"], event.IsPlain :=
  List.forall_mem_singleton.mpr ⟨fun _ given => ⟨"gown", (Json.eq_of_given? given).symm⟩, rfl⟩

/-- A year after it was bought the gown points the same way, and it weighs less, but something. -/
theorem direction_stands_sample :
    let directionAt (clock : Moment) := ((directionOf collaborators sampleStyle 2 clock
      [samplePurchase "gown"]).outcome sampleGowned).1
    sampleNow.comparable sampleYearLater = true ∧ sampleNow.instant ≤ sampleYearLater.instant ∧
      (∀ event ∈ [samplePurchase "gown"], event.timestamp.instant ≤ sampleNow.instant) ∧
      (∃ vector, directionAt sampleNow = .ok (some vector) ∧
        directionAt sampleYearLater = .ok (some vector)) ∧
      |((samplePurchase "gown").weight sampleYearLater : ℝ)| ≤
        |(samplePurchase "gown").weight sampleNow| := by
  intro directionAt
  have clocks : sampleNow.comparable sampleYearLater = true := rfl
  have passes : sampleNow.instant ≤ sampleYearLater.instant := by decide
  have past : ∀ event ∈ [samplePurchase "gown"], event.timestamp.instant ≤ sampleNow.instant :=
    List.forall_mem_singleton.mpr le_rfl
  have shared := Pooling.shares_ne_nil_iff.mpr
    ⟨_, List.mem_singleton_self _, samplePurchase_contributes⟩
  obtain ⟨-, stands, weights⟩ :=
    direction_stands collaborators sampleStyle 2 clocks passes past sampleGowned
  have directed : directionAt sampleNow = _ :=
    outcome_of_plain sample_finds.1 samplePurchase_plain 2 (.refl sampleGowned)
  rw [direction_of_shares _ _ rfl samplePurchase_plain, if_neg (mt List.isEmpty_iff.mp shared)]
    at directed
  exact ⟨clocks, passes, past, ⟨_, directed, (congrArg Prod.fst stands).trans directed⟩,
    (weights _ sampleNow).2.2 _ passes⟩

end Sample

end Profile

end Storefront
