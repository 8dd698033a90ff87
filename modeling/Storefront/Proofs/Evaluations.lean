import Mathlib
import Storefront.Proofs.Exact.Scalars
import Storefront.Proofs.References
/-!
# Evaluations at growing cut-offs

An evaluation looks for the items of clicks and of conversions among the first recommendations. Its
rates are shares of all clicks and of all conversions, so what they are divided by does not depend
on the cut-off, and what is found only grows with it. Apart from that only numbers count: how many
events of which type are about the first recommendations, whatever their order.
-/

namespace Storefront

/-- The item of an event is among some ids. -/
def Event.isAbout (ids : List String) (event : Event) : Bool := event.itemId?.any ids.contains

namespace Evaluation

section Counting

variable {ids others : List String} {events : List Event}

/-- The item of an event is what it refers to, if that is given and a text. -/
theorem itemId?_eq (event : Event) :
    event.itemId? = event.itemReference.given?.bind Json.text? := by
  unfold Event.itemId?
  cases event.itemReference with
  | str id => by_cases blank : id = "" <;> simp [Json.given?, Json.isTruthy, Json.text?, blank]
  | null | bool | int | float | arr | obj =>
    -- Given or not, it is no text.
    rw [Json.given?, apply_ite (Option.bind · Json.text?)]
    exact (ite_self none).symm

/-- Whether an event with a key is a hit is whether its item is among the ids. -/
theorem isHit_of_key (ids : List String) {event : Event} (key : event.HasKey) :
    isHit ids event = .ok (event.isAbout ids) := by
  unfold Event.HasKey at key
  unfold isHit Event.isAbout
  rw [itemId?_eq]
  cases given : event.itemReference.given? with
  | none => rfl
  | some value =>
    cases value with
    | arr items => exact (key _ given).elim
    | obj entries => exact (key _ given).elim
    | null | bool | int | float | str => rfl

/-- The hits among events with keys are counted. -/
theorem hits_of_keys (ids : List String) (keys : ∀ event ∈ events, event.HasKey) :
    hits ids events = .ok (events.countP (·.isAbout ids)) := by
  induction events with
  | nil => rfl
  | cons event rest ih =>
    obtain ⟨first, others⟩ := List.forall_mem_cons.mp keys
    rw [hits, isHit_of_key ids first, ih others, List.countP_cons]
    cases event.isAbout ids <;> rfl

/-- Only which ids there are matters. -/
theorem isAbout_congr (same : ids.Perm others) : Event.isAbout ids = Event.isAbout others := by
  have contains : ids.contains = others.contains := by
    funext id
    rw [Bool.eq_iff_iff, List.contains_iff_mem, List.contains_iff_mem, same.mem_iff]
  funext event
  rw [Event.isAbout, contains, Event.isAbout]

/-- An event about some ids is about more of them. -/
theorem isAbout_mono (more : ids ⊆ others) {event : Event} (about : event.isAbout ids = true) :
    event.isAbout others = true := by
  unfold Event.isAbout at about ⊢
  rw [Option.any_eq_true] at about ⊢
  obtain ⟨id, named, member⟩ := about
  exact ⟨id, named, List.contains_iff_mem.mpr (more (List.contains_iff_mem.mp member))⟩

end Counting

section Measuring

variable {R : Type} [Scalar R] {events idle others : List Event} {top : List Recommendation}

/-- The share of the events of some types that is about some ids. -/
def rateOf (ids : List String) (events : List Event) (counts : EventType → Bool) : R :=
  ratio (events.countP fun event => event.isAbout ids && counts event.type)
    (events.countP fun event => counts event.type)

/-- The metrics of the recommendations that are looked at: how many of the clicks and of the
conversions are about them, and how many different vendors and kinds they have. -/
def measured (top : List Recommendation) (events : List Event) : Metrics R where
  clickRate := rateOf (top.map (·.id)) events (· = .clickItem)
  conversionRate := rateOf (top.map (·.id)) events (·.isConversion)
  uniqueVendors := (top.map (·.vendor)).toFinset.card
  uniqueKinds := (top.map (·.kind)).toFinset.card

/-- Among the events of some types that all have keys the share of hits is computed. -/
theorem hitRate_of_keys (ids : List String) (counts : EventType → Bool)
    (keys : ∀ event ∈ events, counts event.type = true → event.HasKey) :
    hitRate ids (events.filter fun event => counts event.type) =
      .ok (rateOf ids events counts : R) := by
  have keys : ∀ event ∈ events.filter fun event => counts event.type, event.HasKey := by
    intro event member
    obtain ⟨held, counted⟩ := List.mem_filter.mp member
    exact keys event held counted
  rw [hitRate, hits_of_keys ids keys, List.countP_filter, ← List.countP_eq_length_filter]
  rfl

/-- An evaluation measures the first recommendations if all clicks and conversions have keys. -/
theorem compute_of_keys (recommendations : List Recommendation) (k : Int)
    (keys : ∀ event ∈ events, event.IsCounted → event.HasKey) :
    (compute recommendations events k : Except Fault (Metrics R)) =
      .ok (measured (recommendations.take k.toNat) events) := by
  have clicks : ∀ event ∈ events, decide (event.type = .clickItem) = true → event.HasKey :=
    fun event held counts => keys event held (.inl (of_decide_eq_true counts))
  have conversions : ∀ event ∈ events, event.type.isConversion = true → event.HasKey :=
    fun event held counts => keys event held (.inr counts)
  unfold compute
  dsimp only
  rw [hitRate_of_keys _ (· = .clickItem) clicks, hitRate_of_keys _ (·.isConversion) conversions,
    Sequence.distinctCount_eq_card, Sequence.distinctCount_eq_card]
  rfl

/-- Events in another order, and others that are of none of the types, leave a share as it is. -/
theorem rateOf_perm (ids : List String) {counts : EventType → Bool}
    (uncounted : ∀ event ∈ idle, counts event.type = false) (perm : others.Perm (events ++ idle)) :
    (rateOf ids others counts : R) = rateOf ids events counts := by
  have none : ∀ p : Event → Bool, (idle.countP fun event => p event && counts event.type) = 0 := by
    intro p
    refine List.countP_eq_zero.mpr fun event member => ?_
    rw [uncounted event member, Bool.and_false]
    exact Bool.false_ne_true
  have total : (idle.countP fun event => counts event.type) = 0 := none fun _ => true
  rw [rateOf, rateOf, perm.countP_eq, perm.countP_eq, List.countP_append, List.countP_append, none,
    total, Nat.add_zero, Nat.add_zero]

/-- Events in another order, and others that are neither clicks nor conversions, leave the metrics
as they are. -/
theorem measured_perm_events (uncounted : ∀ event ∈ idle, ¬ event.IsCounted)
    (perm : others.Perm (events ++ idle)) :
    (measured top others : Metrics R) = measured top events := by
  have clicks : ∀ event ∈ idle, decide (event.type = .clickItem) = false :=
    fun event member => decide_eq_false fun click => uncounted event member (.inl click)
  have conversions : ∀ event ∈ idle, event.type.isConversion = false :=
    fun event member => Bool.eq_false_iff.mpr fun conversion =>
      uncounted event member (.inr conversion)
  unfold measured
  rw [rateOf_perm _ clicks perm, rateOf_perm _ conversions perm]

/-- Recommendations in another order leave the metrics as they are. -/
theorem measured_perm_top {same : List Recommendation} (perm : same.Perm top) :
    (measured same events : Metrics R) = measured top events := by
  have about := isAbout_congr (perm.map (·.id))
  have vendors := List.toFinset_eq_of_perm _ _ (perm.map (·.vendor))
  have kinds := List.toFinset_eq_of_perm _ _ (perm.map (·.kind))
  simp only [measured, rateOf, about, vendors, kinds]

end Measuring

section Growing

variable {events : List Event} {top more : List Recommendation}

/-- No metric of the first is above that of the second. -/
structure Metrics.AtMost (first second : Metrics ℚ) : Prop where
  clickRate : first.clickRate ≤ second.clickRate
  conversionRate : first.conversionRate ≤ second.conversionRate
  uniqueVendors : first.uniqueVendors ≤ second.uniqueVendors
  uniqueKinds : first.uniqueKinds ≤ second.uniqueKinds

/-- Rates are shares, and there are no more different vendors and kinds than a limit. -/
structure Metrics.IsWithin (metrics : Metrics ℚ) (limit : Int) : Prop where
  clickRate : 0 ≤ metrics.clickRate ∧ metrics.clickRate ≤ 1
  conversionRate : 0 ≤ metrics.conversionRate ∧ metrics.conversionRate ≤ 1
  uniqueVendors : (metrics.uniqueVendors : Int) ≤ limit
  uniqueKinds : (metrics.uniqueKinds : Int) ≤ limit

/-- A share as a rational number; what is divided by zero is zero. -/
theorem ratio_rational (part total : Nat) : (ratio part total : ℚ) = part / total := by
  unfold ratio
  split
  · next nothing =>
    rw [nothing, Nat.cast_zero, div_zero]
    exact Int.cast_zero
  · rfl

/-- A share lies between zero and one. -/
theorem rateOf_within (ids : List String) (events : List Event) (counts : EventType → Bool) :
    0 ≤ (rateOf ids events counts : ℚ) ∧ (rateOf ids events counts : ℚ) ≤ 1 := by
  rw [rateOf, ratio_rational]
  refine ⟨by positivity, div_le_one_of_le₀ ?_ (Nat.cast_nonneg _)⟩
  have part : (events.countP fun event => event.isAbout ids && counts event.type) ≤
      events.countP fun event => counts event.type :=
    List.countP_mono_left fun _ _ both => (Bool.and_eq_true_iff.mp both).2
  exact_mod_cast part

/-- Of the same events no smaller a share is about more ids. -/
theorem rateOf_mono {ids others : List String} (subset : ids ⊆ others) (events : List Event)
    (counts : EventType → Bool) :
    (rateOf ids events counts : ℚ) ≤ rateOf others events counts := by
  rw [rateOf, rateOf, ratio_rational, ratio_rational]
  apply div_le_div_of_nonneg_right _ (Nat.cast_nonneg _)
  have found : (events.countP fun event => event.isAbout ids && counts event.type) ≤
      events.countP fun event => event.isAbout others && counts event.type := by
    refine List.countP_mono_left fun event _ both => ?_
    obtain ⟨about, counted⟩ := Bool.and_eq_true_iff.mp both
    exact Bool.and_eq_true_iff.mpr ⟨isAbout_mono subset about, counted⟩
  exact_mod_cast found

/-- What different recommendations have of something is no more than there are recommendations. -/
theorem card_toFinset_map_le (top : List Recommendation) (read : Recommendation → String)
    {limit : Int} (few : (top.length : Int) ≤ limit) :
    ((top.map read).toFinset.card : Int) ≤ limit := by
  have different := (top.map read).toFinset_card_le
  rw [List.length_map] at different
  omega

/-- More recommendations have no fewer different values of something. -/
theorem card_toFinset_map_mono (subset : top ⊆ more) (read : Recommendation → String) :
    (top.map read).toFinset.card ≤ (more.map read).toFinset.card := by
  refine Finset.card_le_card fun value member => ?_
  exact List.mem_toFinset.mpr (List.map_subset read subset (List.mem_toFinset.mp member))

/-- The metrics of few recommendations are within a limit. -/
theorem measured_isWithin (events : List Event) {limit : Int} (few : (top.length : Int) ≤ limit) :
    (measured top events : Metrics ℚ).IsWithin limit where
  clickRate := rateOf_within _ _ _
  conversionRate := rateOf_within _ _ _
  uniqueVendors := card_toFinset_map_le top _ few
  uniqueKinds := card_toFinset_map_le top _ few

/-- More recommendations are measured with no metric below that of fewer. -/
theorem measured_atMost (subset : top ⊆ more) (events : List Event) :
    (measured top events : Metrics ℚ).AtMost (measured more events) where
  clickRate := rateOf_mono (List.map_subset _ subset) _ _
  conversionRate := rateOf_mono (List.map_subset _ subset) _ _
  uniqueVendors := card_toFinset_map_mono subset _
  uniqueKinds := card_toFinset_map_mono subset _

/-- Recommendations are evaluated at every cut-off if no click and no conversion refers to its item
by a list or an object. In rational numbers the rates are shares, there are no more different
vendors and kinds than the cut-off admits, and no metric falls as the cut-off rises. On scalars of
every kind, at a cut-off that admits all recommendations the metrics are those of the whole list;
and at every cut-off they stay as they are if the events come in another order and with others that
are neither clicks nor conversions, or if the recommendations that are admitted come in another
order. -/
theorem recall_grows (recommendations : List Recommendation) {events : List Event}
    (keys : ∀ event ∈ events, event.IsCounted → event.HasKey) :
    let metrics (k : Int) : Metrics ℚ := measured (recommendations.take k.toNat) events
    (∀ k, compute recommendations events k = .ok (metrics k) ∧ (metrics k).IsWithin (max k 0)) ∧
    (∀ k k', k ≤ k' → (metrics k).AtMost (metrics k')) ∧
    ∀ (R : Type) [Scalar R] (k : Int),
      let answer : Except Fault (Metrics R) := compute recommendations events k
      ((recommendations.length : Int) ≤ k → computeAll recommendations events = answer) ∧
      (∀ idle others : List Event, (∀ event ∈ idle, ¬ event.IsCounted) →
        others.Perm (events ++ idle) → compute recommendations others k = answer) ∧
      ∀ others : List Recommendation,
        (others.take k.toNat).Perm (recommendations.take k.toNat) →
          compute others events k = answer := by
  intro metrics
  refine ⟨fun k => ⟨compute_of_keys recommendations k keys, measured_isWithin events ?few⟩,
    fun k k' le => measured_atMost ?subset events, fun R _ k => ⟨fun all => ?whole, ?events, ?top⟩⟩
  case few =>
    rw [List.length_take]
    omega
  case subset => exact (List.take_prefix_take_left (Int.toNat_le_toNat le)).subset
  case whole =>
    have admitted : recommendations.length ≤ k.toNat := by omega
    rw [computeAll, compute_of_keys _ _ keys, compute_of_keys _ _ keys,
      List.take_of_length_le admitted, Int.toNat_natCast, List.take_length]
  case events =>
    intro idle others uncounted perm
    have kept : ∀ event ∈ others, event.IsCounted → event.HasKey := by
      intro event member counted
      rcases List.mem_append.mp (perm.subset member) with held | added
      · exact keys event held counted
      · exact absurd counted (uncounted event added)
    rw [compute_of_keys _ _ kept, compute_of_keys _ _ keys, measured_perm_events uncounted perm]
  case top =>
    intro others perm
    rw [compute_of_keys _ _ keys, compute_of_keys _ _ keys, measured_perm_top perm]

end Growing

section Sample

/-- Three recommendations, of which the second repeats the first. -/
def sampleRecommendations : List Recommendation :=
  [⟨"gown", "loom", "garment"⟩, ⟨"gown", "loom", "garment"⟩, ⟨"belt", "tannery", "accessory"⟩]

/-- An event about an item, or about none. -/
def sampleEvent (type : EventType) (item : Json) : Event :=
  ⟨"ada", type, [("itemId", item)], none, none, Memory.sampleConfig.now⟩

/-- Two clicks, one of them on nothing that is recommended, and two conversions, one of them about
no item. -/
def sampleEvents : List Event :=
  [sampleEvent .clickItem (.str "gown"), sampleEvent .clickItem (.str "veil"),
    sampleEvent .addToCart (.str "belt"), sampleEvent .purchase .null]

/-- The first recommendation finds one of the clicks, and all of them find one of the conversions as
well; nothing changes if the events come in another order, with a view among them. -/
theorem recall_grows_sample :
    ∃ first later : Metrics ℚ,
      compute sampleRecommendations sampleEvents 1 = .ok first ∧
      compute sampleRecommendations sampleEvents 3 = .ok later ∧
      first.AtMost later ∧ later.IsWithin 3 ∧
      (first.clickRate = 1 / 2 ∧ first.conversionRate = 0 ∧ first.uniqueVendors = 1) ∧
      (later.clickRate = 1 / 2 ∧ later.conversionRate = 1 / 2 ∧ later.uniqueVendors = 2) ∧
      computeAll sampleRecommendations sampleEvents = .ok later ∧
      (compute sampleRecommendations
          (sampleEvent .viewItem (.str "belt") :: sampleEvents.reverse) 2 :
        Except Fault (Metrics Float)) = compute sampleRecommendations sampleEvents 2 ∧
      compute sampleRecommendations.reverse sampleEvents 3 = .ok later := by
  have keys : ∀ event ∈ sampleEvents, event.IsCounted → event.HasKey := by
    intro event held _ value given
    simp only [sampleEvents, List.mem_cons, List.not_mem_nil, or_false] at held
    obtain rfl | rfl | rfl | rfl := held
    · cases given
      trivial
    · cases given
      trivial
    · cases given
      trivial
    · cases given
  obtain ⟨each, grows, same⟩ := recall_grows sampleRecommendations keys
  have view : ∀ event ∈ [sampleEvent .viewItem (.str "belt")], ¬ event.IsCounted := by
    intro event held
    obtain rfl := List.mem_singleton.mp held
    rintro (click | conversion)
    · cases click
    · cases conversion
  have reordered : (sampleEvent .viewItem (.str "belt") :: sampleEvents.reverse).Perm
      (sampleEvents ++ [sampleEvent .viewItem (.str "belt")]) :=
    (sampleEvents.reverse_perm.cons _).trans (List.perm_append_singleton _ _).symm
  have mirrored := (same ℚ 3).2.2 sampleRecommendations.reverse sampleRecommendations.reverse_perm
  refine ⟨_, _, (each 1).1, (each 3).1, grows 1 3 (by omega), (each 3).2, ⟨?_, ?_, rfl⟩,
    ⟨?_, ?_, rfl⟩, ((same ℚ 3).1 (by decide)).trans (each 3).1,
    (same Float 2).2.1 _ _ view reordered, mirrored.trans (each 3).1⟩
  · exact (ratio_rational 1 2).trans (by norm_num)
  · exact (ratio_rational 0 2).trans (by norm_num)
  · exact (ratio_rational 1 2).trans (by norm_num)
  · exact (ratio_rational 1 2).trans (by norm_num)

end Sample

end Evaluation

end Storefront
