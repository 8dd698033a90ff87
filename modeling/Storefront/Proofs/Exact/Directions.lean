import Mathlib
import Storefront.Proofs.Directions
import Storefront.Proofs.Exact.Pools
import Storefront.Proofs.Guarantees
/-!
# Directions in exact arithmetic

An event contributes to a direction if its item is found, the item has a style, and the weight of
the event is not zero. In exact arithmetic a direction is that of the weighted sum of the styles of
the contributing events, and it is absent exactly if there are none. So nothing else matters: not
the order of the events, not the events that do not contribute, not how a lookup fails, and not the
order in which lookups complete.
-/

namespace Storefront

open Call (Leaves Ends)

variable {find : Slot → Option Item} {styleOf : Item → Option (List ℝ)} {now : Moment}

/-- An event contributes to a direction. -/
structure Event.Contributes (find : Slot → Option Item) (styleOf : Item → Option (List ℝ))
    (now : Moment) (event : Event) : Prop where
  styled : ∃ key item style, event.itemKey? = some key ∧ find key.slot = some item ∧
    styleOf item = some style ∧ style ≠ []
  weighty : (event.weight now : ℝ) ≠ 0

/-- An event that is accepted: it names its item by a text, if at all, and tells its offset. -/
structure Event.IsPlain (event : Event) : Prop where
  named : ∀ value, event.itemReference.given? = some value → ∃ id, value = .str id
  zoned : event.timestamp.offset.isSome = true

/-- A plain event names its item by a text. -/
theorem Event.IsPlain.exists_text {event : Event} (plain : event.IsPlain) {key : Key}
    (keyed : event.itemKey? = some key) : ∃ id, key = .text id := by
  obtain ⟨value, given, read⟩ := Option.bind_eq_some_iff.mp keyed
  obtain ⟨id, rfl⟩ := plain.named value given
  exact ⟨id, (Option.some.inj read).symm⟩

/-- A plain event has a key. -/
theorem Event.IsPlain.hasKey {event : Event} (plain : event.IsPlain) : event.HasKey := by
  intro value given
  obtain ⟨id, rfl⟩ := plain.named value given
  trivial

namespace Pooling

/-- An event has a share exactly if it contributes. -/
theorem share?_ne_none_iff {event : Event} :
    share? (Profile.stylesOf find styleOf) now event ≠ none ↔
      event.Contributes find styleOf now := by
  constructor
  · intro some
    obtain ⟨share, shared⟩ := Option.ne_none_iff_exists'.mp some
    obtain ⟨style, styled, weighs⟩ := Option.bind_eq_some_iff.mp shared
    obtain ⟨held, filled⟩ := Option.filter_eq_some_iff.mp styled
    obtain ⟨key, named, held⟩ := Option.bind_eq_some_iff.mp held
    obtain ⟨item, found, styles⟩ := Option.bind_eq_some_iff.mp held
    refine ⟨⟨key, item, style, named, found, styles, by simpa using filled⟩, fun weightless => ?_⟩
    simp [weightless] at weighs
  · rintro ⟨⟨key, item, style, named, found, styles, filled⟩, weighty⟩
    have styled : styleOf? (Profile.stylesOf find styleOf) event = some style := by
      simp [styleOf?, Profile.stylesOf, named, found, styles, filled]
    simp [share?, styled, weighty]

/-- The weights of shares are not zero. -/
theorem weight_ne_zero_of_mem_shares {styles : Styles ℝ} {events : List Event} :
    ∀ share ∈ shares styles now events, share.1 ≠ 0 := by
  intro share member
  obtain ⟨event, -, shared⟩ := List.mem_filterMap.mp member
  obtain ⟨style, -, weighs⟩ := Option.bind_eq_some_iff.mp shared
  split at weighs
  · cases weighs
  · next weighty =>
    cases weighs
    simpa using weighty

/-- The direction of events that have one is that of the sum of their shares. -/
theorem of_direction {styles : Styles ℝ} {dim : Nat} {events : List Event}
    {answer : Option (List ℝ)} (directs : direction styles dim now events = .ok answer) :
    answer = if (shares styles now events).isEmpty then none
      else some (Vector.normalize (totalOf dim (shares styles now events))) := by
  obtain ⟨pool, adds, rfl⟩ := Call.map_eq_ok_iff.mp directs
  rw [of_addEvents adds, Pool.direction?_addAll dim weight_ne_zero_of_mem_shares]

/-- There are shares exactly if some event contributes. -/
theorem shares_ne_nil_iff {events : List Event} :
    shares (Profile.stylesOf find styleOf) now events ≠ [] ↔
      ∃ event ∈ events, event.Contributes find styleOf now := by
  simp only [shares, ne_eq, List.filterMap_eq_nil_iff, not_forall, exists_prop]
  exact exists_congr fun event => and_congr_right fun _ => share?_ne_none_iff

/-- Events that do not contribute have no shares. -/
theorem shares_eq_nil {events : List Event}
    (idle : ∀ event ∈ events, ¬ event.Contributes find styleOf now) :
    shares (Profile.stylesOf find styleOf) now events = [] := by
  by_contra some
  obtain ⟨event, held, contributes⟩ := shares_ne_nil_iff.mp some
  exact idle event held contributes

/-- The shares of events in another order and with others that do not contribute are the same,
apart from their order. -/
theorem shares_perm {events idle others : List Event}
    (quiet : ∀ event ∈ idle, ¬ event.Contributes find styleOf now)
    (perm : others.Perm (events ++ idle)) :
    (shares (Profile.stylesOf find styleOf) now others).Perm
      (shares (Profile.stylesOf find styleOf) now events) := by
  refine (perm.filterMap _).trans ?_
  rw [List.filterMap_append, ← shares, ← shares, shares_eq_nil quiet, List.append_nil]

end Pooling

namespace Profile

variable {σ : Type} {safe : σ → Prop} {world : Collaborators σ} {events : List Event}

/-- The direction over a catalog is that of the shares of the events, if there are any. -/
theorem direction_of_shares (find : Slot → Option Item) (styleOf : Item → Option (List ℝ))
    (clocked : now.offset.isSome = true) (plain : ∀ event ∈ events, event.IsPlain) (dim : Nat) :
    Pooling.direction (stylesOf find styleOf) dim now events =
      .ok (if (Pooling.shares (stylesOf find styleOf) now events).isEmpty then none
        else some (Vector.normalize
          (Pooling.totalOf dim (Pooling.shares (stylesOf find styleOf) now events)))) := by
  have timely : Pooling.IsTimely now events := by
    intro event held
    rw [Moment.comparable, clocked, (plain event held).zoned]
    rfl
  rw [Pooling.direction_eq timely,
    Pooling.Pool.direction?_addAll dim Pooling.weight_ne_zero_of_mem_shares]

/-- The answer for plain events is the direction over the catalog. -/
theorem outcome_of_plain (finds : Finds safe world find) (plain : ∀ event ∈ events, event.IsPlain)
    (dim : Nat) {state : σ} (kept : safe state) :
    ((directionOf world styleOf dim now events).outcome state).1 =
      Pooling.direction (stylesOf find styleOf) dim now events := by
  refine outcome_directionOf (by simp) (fun key asked => ?_)
    (fun event held => (plain event held).hasKey) kept
  obtain ⟨event, held, keyed⟩ := Pooling.exists_of_mem_itemKeys asked
  obtain ⟨id, rfl⟩ := (plain event held).exists_text keyed
  exact finds id

/-- Profiles are computed from directions on machine floats. In exact arithmetic the direction of
plain events is absent exactly if none contributes. If one does, it is the normalisation of the sum
of the weights times the styles, which are cut or padded: the sum itself if contributions cancel,
and else a vector that is one long. It is the same for the events in any order, with any others that
do not contribute, and over every catalog that finds the same items, whether its lookups fail or
find nothing where there is no item; and on however many threads the items are fetched, every run
comes to an end, and each end gives the same direction. -/
theorem direction_of_contributions (finds : Finds safe world find)
    (clocked : now.offset.isSome = true) (styleOf : Item → Option (List ℝ)) (dim : Nat)
    (plain : ∀ event ∈ events, event.IsPlain) {state : σ} (kept : safe state) :
    let contributes := Event.Contributes find styleOf now
    let answer := ((directionOf world styleOf dim now events).outcome state).1
    let total := Pooling.totalOf dim (Pooling.shares (stylesOf find styleOf) now events)
    (∀ config : Config, ofEvents world config now events =
      directionOf world (·.styleVector?) config.dim now events) ∧
    (answer = .ok none ↔ ∀ event ∈ events, ¬ contributes event) ∧
    ((∃ event ∈ events, contributes event) →
      answer = .ok (some (Vector.normalize total)) ∧
      ((∀ x ∈ total, x = 0) → Vector.normalize total = total) ∧
      ((∃ x ∈ total, x ≠ 0) → Vector.norm (Vector.normalize total) = 1)) ∧
    (∀ (τ : Type) (safely : τ → Prop) (other : Collaborators τ) (start : τ)
      (idle others : List Event), Finds safely other find → safely start →
      (∀ event ∈ idle, ¬ contributes event) → (∀ event ∈ others, event.IsPlain) →
      others.Perm (events ++ idle) →
        ((directionOf other styleOf dim now others).outcome start).1 = answer) ∧
    ∀ atMost,
      let threads := threadsFor atMost (Pooling.itemKeys events)
      (WellFounded fun next fetch => Fetch.Step find threads fetch next) ∧
      ∀ fetch, Fetch.Runs find threads (Fetch.ofKeys (Pooling.itemKeys events)) fetch →
        (∃ last, Fetch.Runs find threads fetch last ∧ last.IsOver) ∧
        (fetch.IsOver →
          Pooling.direction (fun slot => (fetch.found.lookup slot).bind styleOf) dim now events =
            answer) := by
  intro contributes answer total
  have answers : answer = _ := outcome_of_plain finds plain dim kept
  have shares := direction_of_shares find styleOf clocked plain dim
  refine ⟨fun config => ofEvents_eq world config now events, ?absent, ?present, ?same, ?fetched⟩
  case absent =>
    have none : Pooling.shares (stylesOf find styleOf) now events = [] ↔
        ∀ event ∈ events, ¬ contributes event := by
      rw [← not_iff_not, ← ne_eq, Pooling.shares_ne_nil_iff]
      push Not
      rfl
    rw [answers, shares, ← none, ← List.isEmpty_iff]
    split <;> simp [*]
  case present =>
    intro some
    have filled := Pooling.shares_ne_nil_iff.mpr some
    refine ⟨?_, Vector.normalize_of_zero, Vector.norm_normalize⟩
    rw [answers, shares, if_neg (by simpa using filled)]
  case same =>
    intro τ safely other start idle others otherFinds started quiet otherPlain perm
    have rearranged := Pooling.shares_perm quiet perm
    rw [outcome_of_plain otherFinds otherPlain dim started, answers, shares,
      direction_of_shares find styleOf clocked otherPlain, Pooling.totalOf_perm dim rearranged,
      rearranged.isEmpty_eq]
  case fetched =>
    refine fun atMost => ⟨Fetch.wellFounded_step find _, fun fetch runs => ?_⟩
    refine ⟨Fetch.exists_landing find (one_le_threadsFor atMost _) fetch, fun landed => ?_⟩
    rw [answers]
    exact direction_of_gathers (Fetch.gathers_of_runs runs landed)

section Sample

open Memory (collaborators)

/-- Stores with a gown. -/
def sampleGowned : Memory :=
  .ofParts [Memory.sampleItem "gown" "loom" true (.garment none none)] [] []

/-- Lookups that fail where there is no item. -/
def sampleRaising : Collaborators Memory :=
  { collaborators with
    findItem := fun key => do
      match ← collaborators.findItem key with
      | some item => pure (some item)
      | none => Call.ofExcept (.error (.unavailable "catalog down")) }

/-- A style of three and four. -/
noncomputable def sampleStyle : Item → Option (List ℝ) := fun _ => some [3, 4]

/-- A moment of the year 2026. -/
def sampleNow : Moment := ⟨63902944800000000, some 0⟩

/-- A purchase just now. -/
def samplePurchase (id : String) : Event :=
  ⟨"ada", .purchase, [("itemId", .str id)], none, none, sampleNow⟩

/-- The stores and the lookups that fail find the same. -/
theorem sample_finds :
    Finds sampleGowned.Agrees collaborators sampleGowned.catalog.itemAt? ∧
      Finds sampleGowned.Agrees sampleRaising sampleGowned.catalog.itemAt? := by
  constructor
  · intro id
    exact .orElse (sampleGowned.findItem_ends id) fun _ impossible => False.elim impossible
  · intro id
    have raises : Ends sampleGowned.Agrees (sampleRaising.findItem id)
        (· = sampleGowned.catalog.find? id) fun _ => sampleGowned.catalog.find? id = none := by
      refine (sampleGowned.findItem_ends id).bind fun answer found => ?_
      cases answer with
      | some item => exact .pure found
      | none => exact .ofExcept (fun _ given => by cases given) fun _ _ => found.symm
    exact .orElse raises fun _ missing => missing.symm

/-- The bought gown weighs five; what is bought besides is not in the catalog, and it makes no
difference, nor does it if the lookup of it fails. -/
theorem direction_of_contributions_sample :
    ((directionOf collaborators sampleStyle 2 sampleNow [samplePurchase "gown"]).outcome
      sampleGowned).1 = .ok (some [3 / 5, 4 / 5]) ∧
    ((directionOf sampleRaising sampleStyle 2 sampleNow
      [samplePurchase "veil", samplePurchase "gown"]).outcome sampleGowned).1 =
        .ok (some [3 / 5, 4 / 5]) ∧
    ((directionOf collaborators sampleStyle 2 sampleNow [samplePurchase "veil"]).outcome
      sampleGowned).1 = .ok none ∧
    ∃ fetch, Fetch.Runs sampleGowned.catalog.itemAt? 1 (Fetch.ofKeys ["gown"]) fetch ∧
      fetch.IsOver ∧
      Pooling.direction (fun slot => (fetch.found.lookup slot).bind sampleStyle) 2 sampleNow
        [samplePurchase "gown"] = .ok (some [3 / 5, 4 / 5]) := by
  have plain : ∀ id, (samplePurchase id).IsPlain := by
    refine fun id => ⟨fun value given => ⟨id, ?_⟩, rfl⟩
    rcases eq_or_ne id "" with rfl | named
    · cases given
    · have reference : (samplePurchase id).itemReference = .str id := by
        simp [Event.itemReference, Event.property, samplePurchase, Row.get?, Json.given?,
          Json.isTruthy, named]
      exact (Json.eq_of_given? given).symm.trans reference
  have weight : ∀ id, ((samplePurchase id).weight sampleNow : ℝ) = 5 := by
    intro id
    have fresh : (Event.ageDays sampleNow (samplePurchase id) : ℝ) = 0 := by
      simp [Event.ageDays_exact, samplePurchase]
    rw [Event.weight_exact, fresh]
    change (5.0 : ℝ) * Real.exp (-0 * _) = 5
    norm_num
  have total : Pooling.totalOf 2 (Pooling.shares (stylesOf sampleGowned.catalog.itemAt? sampleStyle)
      sampleNow [samplePurchase "gown"]) = [15, 20] := by
    have share : Pooling.share? (stylesOf sampleGowned.catalog.itemAt? sampleStyle) sampleNow
        (samplePurchase "gown") = some (5, [3, 4]) := by
      have style : Pooling.styleOf? (stylesOf sampleGowned.catalog.itemAt? sampleStyle)
          (samplePurchase "gown") = some [3, 4] := rfl
      simp [Pooling.share?, style, weight]
    rw [Pooling.shares, List.filterMap_cons, share]
    norm_num [Pooling.totalOf, List.range_succ]
  have direction : Vector.normalize ([15, 20] : List ℝ) = [3 / 5, 4 / 5] := by
    have long : Vector.norm ([15, 20] : List ℝ) = 25 := by
      rw [Vector.norm_exact, Real.sqrt_eq_iff_mul_self_eq_of_pos (by norm_num)]
      norm_num
    rw [Vector.normalize_eq_map ⟨15, by simp, by norm_num⟩, long]
    norm_num
  have contributes : (samplePurchase "gown").Contributes sampleGowned.catalog.itemAt? sampleStyle
      sampleNow := by
    refine ⟨⟨"gown", _, [3, 4], rfl, rfl, rfl, by simp⟩, ?_⟩
    rw [weight]
    norm_num
  have idle : ¬ (samplePurchase "veil").Contributes sampleGowned.catalog.itemAt? sampleStyle
      sampleNow := by
    rintro ⟨⟨_, item, _, ⟨⟩, found, -⟩, -⟩
    cases found
  have kept := Memory.Agrees.refl sampleGowned
  have single : ∀ id, ∀ event ∈ [samplePurchase id], event.IsPlain := by simp [plain]
  have clocked : sampleNow.offset.isSome = true := rfl
  obtain ⟨-, -, present, same, fetches⟩ :=
    direction_of_contributions sample_finds.1 clocked sampleStyle 2 (single "gown") kept
  have answers := (present ⟨_, List.mem_singleton_self _, contributes⟩).1
  rw [total, direction] at answers
  refine ⟨answers, ?_, ?_, ?_⟩
  · rw [← answers]
    exact same Memory sampleGowned.Agrees sampleRaising sampleGowned [samplePurchase "veil"] _
      sample_finds.2 kept (by simp [idle]) (by simp [plain]) (.swap _ _ _)
  · exact (direction_of_contributions sample_finds.1 clocked sampleStyle 2 (single "veil")
      kept).2.1.mpr (by simp [idle])
  · obtain ⟨fetch, runs, landed⟩ := ((fetches 8).2 _ .refl).1
    exact ⟨fetch, runs, landed, (((fetches 8).2 fetch runs).2 landed).trans answers⟩

end Sample

end Profile

end Storefront
