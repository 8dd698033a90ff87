import Storefront.Feed.Evaluation
import Storefront.Proofs.Directions
import Storefront.Proofs.Histories
import Storefront.Proofs.KeptProfiles
import Storefront.Proofs.Keys
import Storefront.Remote.Tables
/-!
# What events refer to

The properties of an event are free-form, so what it says about its item may be a value of any kind.
A number or a truth value is looked up like a text. Items are stored under texts, so in a catalog in
memory it finds nothing, and the event is left out like one without an id; a remote database may
take it for a text and find an item. A list or an object is a fault: one such event among others
stops the pooling of all of them, and the evaluation if the event is a click or a conversion.
-/

namespace Storefront

namespace Event

/-- The item id of an event is a text. -/
def isTextual (event : Event) : Bool :=
  match event.itemReference with
  | .str _ => true
  | _ => false

/-- An event without its item id. -/
def withoutItem (event : Event) : Event :=
  { event with
    properties := event.properties.filter fun entry => entry.1 ≠ "itemId" ∧ entry.1 ≠ "item_id" }

/-- An event without its item id, unless that is a text. -/
def textOnly (event : Event) : Event := if event.isTextual then event else event.withoutItem

/-- A click or a conversion. -/
def IsCounted (event : Event) : Prop := event.type = .clickItem ∨ event.type.isConversion = true

variable {event : Event}

/-- An event without its item id says nothing about its item. -/
theorem itemReference_withoutItem (event : Event) : event.withoutItem.itemReference = .null := by
  have absent : ∀ name, name = "itemId" ∨ name = "item_id" →
      event.withoutItem.properties.get? name = none := by
    intro name named
    refine List.lookup_eq_none_iff.mpr fun entry member => ?_
    have kept := (List.mem_filter.mp member).2
    obtain ⟨first, second⟩ : entry.1 ≠ "itemId" ∧ entry.1 ≠ "item_id" := by simpa using kept
    rcases named with rfl | rfl
    · exact bne_iff_ne.mpr first.symm
    · exact bne_iff_ne.mpr second.symm
  unfold itemReference property
  rw [absent _ (.inl rfl), absent _ (.inr rfl)]
  rfl

/-- An event keeps its type without its item id. -/
theorem type_textOnly (event : Event) : event.textOnly.type = event.type := by
  unfold textOnly
  split <;> rfl

/-- The key that an event names its item by is a text exactly if the item id is. -/
theorem text?_slot_isSome {key : Key} (named : event.itemKey? = some key) :
    key.slot.text?.isSome = event.isTextual := by
  obtain ⟨value, given, read⟩ := Option.bind_eq_some_iff.mp named
  have reference : event.itemReference = value := Json.eq_of_given? given
  rw [Key.text?_slot, isTextual, reference]
  cases value <;> cases read <;> rfl

end Event

/-- A key finds no item: the lookup finds nothing or fails, and it changes nothing. -/
def Collaborators.FindsNothing {σ : Type} (world : Collaborators σ) (key : Key) : Prop :=
  (world.findItem key).orElse none = pure none

/-- Items in memory are found by texts only. -/
theorem Memory.findsNothing {key : Key} (foreign : key.slot.text? = none) :
    collaborators.FindsNothing key := by
  have missing : ∀ memory : Memory, memory.catalog.itemAt? key.slot = none := fun memory => by
    rw [Catalog.itemAt?, foreign, Option.bind_none]
  unfold Collaborators.FindsNothing collaborators
  simp only [missing]
  rfl

/-- In a remote database every key may find an item, whether it is a text or not. -/
theorem Remote.not_findsNothing (now : Moment) (procedure : String) (key : Key) :
    ¬ (Remote.collaborators now procedure).FindsNothing key := by
  intro lost
  let row := (Memory.sampleItem "7" "loom" true (.garment none none)).toStoredRow
  have finds : ∀ rows, (((Remote.findItem key).orElse none).run (.start [.rows rows])).1 =
      (itemsOf rows).head? := fun _ => rfl
  have found : (itemsOf [.obj row]).head?.isSome = true := by decide +kernel
  have missed : (((Remote.findItem key).orElse none).run (.start [.rows [.obj row]])).1 = none :=
    congrArg Prod.fst (congrFun lost _)
  rw [← finds, missed] at found
  cases found

namespace Pooling

variable {events : List Event}

/-- Of the events whose item ids are texts the keys that are texts are looked up. -/
theorem itemKeys_filter (events : List Event) :
    itemKeys (events.filter (·.isTextual)) =
      (itemKeys events).filter (·.slot.text?.isSome) := by
  have named : (events.filter (·.isTextual)).filterMap (·.itemKey?) =
      (events.filterMap (·.itemKey?)).filter (·.slot.text?.isSome) := by
    rw [List.filterMap_filter, List.filter_filterMap]
    refine List.filterMap_congr fun event _ => ?_
    cases keyed : event.itemKey? with
    | none => simp
    | some key => rw [Option.filter_some, Event.text?_slot_isSome keyed]
  rw [itemKeys, itemKeys, named, Sequence.filter_firstsBy Key.slot (·.text?.isSome)]

/-- Where only slots of texts have styles, an event whose item id is no text has none. -/
theorem styleOf?_eq_none {R : Type} {styles : Styles R} {event : Event}
    (texts : ∀ slot : Slot, slot.text?.isSome = false → styles slot = none)
    (foreign : event.isTextual = false) : styleOf? styles event = none := by
  unfold styleOf?
  cases named : event.itemKey? with
  | none => rfl
  | some key =>
    rw [Option.bind_some, texts key.slot ((Event.text?_slot_isSome named).trans foreign),
      Option.filter_none]

end Pooling

namespace Profile

open Call (Leaves)

variable {σ : Type} {world : Collaborators σ} {config : Config} {now : Moment} {events : List Event}

/-- Of events with keys the items are looked up, and then the direction is computed. -/
theorem ofEvents_of_keys (keys : ∀ event ∈ events, event.HasKey) :
    ofEvents world config now events = (do
      let items ← Call.ofState (loadItems world (Pooling.itemKeys events))
      Call.ofExcept (Pooling.direction (fun slot => (items.lookup slot).bind (·.styleVector?))
        config.dim now events)) := by
  unfold ofEvents
  split
  · next none =>
    rw [List.isEmpty_iff.mp none]
    have idle : ∀ styles : Pooling.Styles Float,
        Pooling.direction styles config.dim now [] = .ok Option.none := fun _ =>
      congrArg Except.ok (if_pos (show Scalar.isZero (Scalar.zero : Float) = true by decide))
    simp only [idle]
    rfl
  · rw [Pooling.checkReferences_of_keys keys]
    rfl

/-- Keys that find nothing need not be looked up. -/
theorem loadItems_filter {keys : List Key} {asks : Key → Bool}
    (lost : ∀ key ∈ keys, asks key = false → world.FindsNothing key) :
    loadItems world (keys.filter asks) = loadItems world keys := by
  induction keys with
  | nil => rfl
  | cons key rest ih =>
    obtain ⟨first, lost⟩ := List.forall_mem_cons.mp lost
    cases asked : asks key with
    | false =>
      have missed : (world.findItem key).orElse none = pure none := first asked
      rw [List.filter_cons_of_neg (by simp [asked]), ih lost, loadItems, missed]
      simp
    | true => rw [List.filter_cons_of_pos asked, loadItems, loadItems, ih lost]

/-- Items are loaded into the slots of the keys that were looked up. -/
theorem loadItems_slots (world : Collaborators σ) (keys : List Key) :
    Leaves (fun _ => True) (loadItems world keys)
      fun items => ∀ entry ∈ items, entry.1 ∈ keys.map Key.slot := by
  induction keys with
  | nil => exact .pure fun _ member => by cases member
  | cons key rest ih =>
    have looks : Leaves (fun _ => True) ((world.findItem key).orElse none) fun _ => True :=
      fun _ _ => ⟨trivial, trivial⟩
    refine looks.bind fun found _ => ih.bind fun others loaded => .pure fun entry member => ?_
    rcases List.mem_append.mp member with here | later
    · obtain ⟨item, -, rfl⟩ := List.mem_map.mp here
      exact List.mem_cons_self
    · exact List.mem_cons_of_mem _ (loaded entry later)

/-- Events whose item ids are no texts may be left out if their keys find nothing, as long as all
events have keys. -/
theorem ofEvents_filter (config : Config) (now : Moment) (keys : ∀ event ∈ events, event.HasKey)
    (lost : ∀ event ∈ events, event.isTextual = false → ∀ key, event.itemKey? = some key →
      world.FindsNothing key) :
    ofEvents world config now events = ofEvents world config now (events.filter (·.isTextual)) := by
  have kept : ∀ event ∈ events.filter (·.isTextual), event.HasKey :=
    fun event member => keys event (List.mem_of_mem_filter member)
  have loads : loadItems world (Pooling.itemKeys (events.filter (·.isTextual))) =
      loadItems world (Pooling.itemKeys events) := by
    rw [Pooling.itemKeys_filter]
    refine loadItems_filter fun key asked foreign => ?_
    obtain ⟨event, held, named⟩ := Pooling.exists_of_mem_itemKeys asked
    exact lost event held ((Event.text?_slot_isSome named).symm.trans foreign) key named
  rw [ofEvents_of_keys keys, ofEvents_of_keys kept, ← loads]
  refine (loadItems_slots world _).bind_congr fun items loaded => ?_
  have texts : ∀ slot : Slot, slot.text?.isSome = false →
      (items.lookup slot).bind (·.styleVector?) = none := by
    intro slot foreign
    have missing : items.lookup slot = none := by
      refine List.lookup_eq_none_iff.mpr fun entry member => bne_iff_ne.mpr ?_
      rintro rfl
      obtain ⟨key, asked, same⟩ := List.mem_map.mp (loaded entry member)
      rw [Pooling.itemKeys_filter] at asked
      have text := (List.mem_filter.mp asked).2
      rw [same, foreign] at text
      cases text
    rw [missing, Option.bind_none]
  rw [Pooling.direction, Pooling.direction,
    Pooling.addEvents_filter fun event _ foreign => Pooling.styleOf?_eq_none texts foreign]

/-- A profile is computed from events exactly if each of them has a key. -/
theorem ofEvents_answers_iff (world : Collaborators σ) (config : Config)
    (timely : Pooling.IsTimely now events) (state : σ) :
    (∃ vector, ((ofEvents world config now events).outcome state).1 = .ok vector) ↔
      ∀ event ∈ events, event.HasKey := by
  constructor
  · rintro ⟨vector, answers⟩
    by_contra lacks
    push Not at lacks
    have fails : ∃ kind, (ofEvents world config now events).outcome state =
        (.error (.unhashable kind), state) := outcome_directionOf_of_no_key world lacks state
    obtain ⟨kind, fails⟩ := fails
    rw [fails] at answers
    cases answers
  · intro keys
    rw [ofEvents_of_keys keys, Call.outcome_bind, Call.outcome_ofState]
    dsimp only
    rw [Call.outcome_ofExcept, Pooling.direction_eq timely]
    exact ⟨_, rfl⟩

end Profile

namespace Evaluation

variable {ids : List String} {events : List Event}

/-- Whether an event is a hit can be told exactly if it has a key. -/
theorem isHit_ok_iff (ids : List String) (event : Event) :
    (∃ hit, isHit ids event = .ok hit) ↔ event.HasKey := by
  unfold isHit Event.HasKey
  cases event.itemReference.given? with
  | none => simp
  | some value => cases value <;> simp [Json.IsKey]

/-- Hits can be counted exactly if every event has a key. -/
theorem hits_ok_iff (ids : List String) (events : List Event) :
    (∃ found, hits ids events = .ok found) ↔ ∀ event ∈ events, event.HasKey := by
  induction events with
  | nil => simp [hits]
  | cons event rest ih =>
    rw [List.forall_mem_cons, ← ih, ← isHit_ok_iff ids]
    constructor
    · rintro ⟨found, counts⟩
      obtain ⟨hit, first, counts⟩ := Call.bind_eq_ok_iff.mp counts
      obtain ⟨others, rest, -⟩ := Call.bind_eq_ok_iff.mp counts
      exact ⟨⟨hit, first⟩, others, rest⟩
    · rintro ⟨⟨hit, first⟩, others, rest⟩
      exact ⟨_, Call.bind_eq_ok_iff.mpr
        ⟨hit, first, Call.bind_eq_ok_iff.mpr ⟨others, rest, rfl⟩⟩⟩

variable {R : Type} [Scalar R]

/-- The share of hits can be computed exactly if every event has a key. -/
theorem hitRate_ok_iff (ids : List String) (events : List Event) :
    (∃ rate : R, hitRate ids events = .ok rate) ↔ ∀ event ∈ events, event.HasKey := by
  rw [← hits_ok_iff ids]
  constructor
  · rintro ⟨rate, answers⟩
    obtain ⟨found, counts, -⟩ := Call.map_eq_ok_iff.mp answers
    exact ⟨found, counts⟩
  · rintro ⟨found, counts⟩
    exact ⟨_, Call.map_eq_ok_iff.mpr ⟨found, counts, rfl⟩⟩

/-- Recommendations can be evaluated exactly if every click and every conversion has a key. -/
theorem compute_ok_iff (recommendations : List Recommendation) (events : List Event) (k : Int) :
    (∃ metrics : Metrics R, compute recommendations events k = .ok metrics) ↔
      ∀ event ∈ events, event.IsCounted → event.HasKey := by
  have counted : (∀ event ∈ events, event.IsCounted → event.HasKey) ↔
      (∀ event ∈ events.filter fun event => event.type = .clickItem, event.HasKey) ∧
      ∀ event ∈ events.filter fun event => event.type.isConversion, event.HasKey := by
    simp only [Event.IsCounted, List.mem_filter, decide_eq_true_eq, and_imp, or_imp, forall_and]
  have clicks := hitRate_ok_iff (R := R) ((recommendations.take k.toNat).map (·.id))
    (events.filter fun event => event.type = .clickItem)
  have conversions := hitRate_ok_iff (R := R) ((recommendations.take k.toNat).map (·.id))
    (events.filter fun event => event.type.isConversion)
  rw [counted, ← clicks, ← conversions]
  constructor
  · rintro ⟨metrics, computes⟩
    obtain ⟨clickRate, clicks, computes⟩ := Call.bind_eq_ok_iff.mp computes
    obtain ⟨conversionRate, conversions, -⟩ := Call.bind_eq_ok_iff.mp computes
    exact ⟨⟨clickRate, clicks⟩, conversionRate, conversions⟩
  · rintro ⟨⟨clickRate, clicks⟩, conversionRate, conversions⟩
    exact ⟨_, Call.bind_eq_ok_iff.mpr
      ⟨clickRate, clicks, Call.bind_eq_ok_iff.mpr ⟨conversionRate, conversions, rfl⟩⟩⟩

/-- An event that has a key is the same hit without its item id, unless that is a text. -/
theorem isHit_textOnly (ids : List String) {event : Event} (key : event.HasKey) :
    isHit ids event.textOnly = isHit ids event := by
  unfold Event.textOnly
  split
  · rfl
  · next foreign =>
    have blank : isHit ids event.withoutItem = .ok false := by
      unfold isHit
      rw [Event.itemReference_withoutItem]
      rfl
    rw [blank]
    unfold isHit
    split
    · rfl
    · next id given =>
      have text : event.itemReference = .str id := Json.eq_of_given? given
      exact absurd (by rw [Event.isTextual, text]) foreign
    · next items given => exact (key _ given).elim
    · next entries given => exact (key _ given).elim
    · rfl

/-- Events that have keys are as many hits without their item ids, unless those are texts. -/
theorem hits_map_textOnly (ids : List String) {events : List Event}
    (keys : ∀ event ∈ events, event.HasKey) :
    hits ids (events.map (·.textOnly)) = hits ids events := by
  induction events with
  | nil => rfl
  | cons event rest ih =>
    obtain ⟨first, keys⟩ := List.forall_mem_cons.mp keys
    rw [List.map_cons, hits, hits, isHit_textOnly ids first, ih keys]

/-- The share of hits among the events of some types is the same without item ids, unless these are
texts, as long as all of these events have keys. -/
theorem hitRate_map_textOnly (ids : List String) {events : List Event} (counts : EventType → Bool)
    (keys : ∀ event ∈ events, counts event.type = true → event.HasKey) :
    (hitRate ids ((events.map (·.textOnly)).filter fun event => counts event.type) :
      Except Fault R) = hitRate ids (events.filter fun event => counts event.type) := by
  have same : (events.map (·.textOnly)).filter (fun event => counts event.type) =
      (events.filter fun event => counts event.type).map (·.textOnly) := by
    rw [List.filter_map]
    congr 1
    exact List.filter_congr fun event _ => congrArg counts event.type_textOnly
  have keys : ∀ event ∈ events.filter fun event => counts event.type, event.HasKey := by
    intro event member
    obtain ⟨held, counted⟩ := List.mem_filter.mp member
    exact keys event held counted
  rw [hitRate, hitRate, same, hits_map_textOnly ids keys, List.length_map]

/-- Recommendations are evaluated as if the events had no item ids, unless these are texts, as long
as all clicks and conversions have keys. -/
theorem compute_map_textOnly (recommendations : List Recommendation) {events : List Event} (k : Int)
    (keys : ∀ event ∈ events, event.IsCounted → event.HasKey) :
    (compute recommendations (events.map (·.textOnly)) k : Except Fault (Metrics R)) =
      compute recommendations events k := by
  have clicks : ∀ event ∈ events, decide (event.type = .clickItem) = true → event.HasKey :=
    fun event held counts => keys event held (.inl (of_decide_eq_true counts))
  have conversions : ∀ event ∈ events, event.type.isConversion = true → event.HasKey :=
    fun event held counts => keys event held (.inr counts)
  unfold compute
  dsimp only
  rw [hitRate_map_textOnly _ (fun type => type = .clickItem) clicks,
    hitRate_map_textOnly _ (·.isConversion) conversions]

end Evaluation

section Accepted

open Profile (ofEvents)
open Evaluation (compute Metrics Recommendation)
open Memory (collaborators sampleConfig sampleKept)

/-- Over accepted events, on a clock that tells its offset, a profile is computed exactly if no
event refers to its item by a list or an object. Then it is the one without the events whose item
ids are no texts, if the catalog finds nothing by these, as one in memory does. Recommendations are
evaluated exactly if no click and no conversion refers to its item by a list or an object, and then
as if the events whose item ids are no texts had no item ids. -/
theorem references_harmless_iff {σ : Type} (world : Collaborators σ) (config : Profile.Config)
    {now : Moment} (clocked : now.offset.isSome = true) {events : List Event}
    (accepted : ∀ event ∈ events, ∃ present row, Event.parse present row = .ok event)
    (recommendations : List Recommendation) (k : Int) :
    (∀ state, (∃ vector, ((ofEvents world config now events).outcome state).1 = .ok vector) ↔
      ∀ event ∈ events, event.HasKey) ∧
    ((∀ event ∈ events, event.HasKey) →
      (∀ event ∈ events, event.isTextual = false → ∀ key, event.itemKey? = some key →
        world.FindsNothing key) →
      ofEvents world config now events =
        ofEvents world config now (events.filter (·.isTextual))) ∧
    ((∀ event ∈ events, event.HasKey) →
      ofEvents collaborators config now events =
        ofEvents collaborators config now (events.filter (·.isTextual))) ∧
    ((∃ metrics : Metrics Float, compute recommendations events k = .ok metrics) ↔
      ∀ event ∈ events, event.IsCounted → event.HasKey) ∧
    ((∀ event ∈ events, event.IsCounted → event.HasKey) →
      (compute recommendations events k : Except Fault (Metrics Float)) =
        compute recommendations (events.map (·.textOnly)) k) := by
  have timely : Pooling.IsTimely now events := by
    intro event held
    obtain ⟨present, row, parses⟩ := accepted event held
    obtain ⟨moment, -, dated⟩ := Event.timestamp_of_parse parses
    rw [Moment.comparable, clocked, dated]
    rfl
  have lost : ∀ event ∈ events, event.isTextual = false → ∀ key, event.itemKey? = some key →
      collaborators.FindsNothing key := by
    intro event _ foreign key named
    apply Memory.findsNothing
    rw [← Option.not_isSome_iff_eq_none, Event.text?_slot_isSome named, foreign]
    exact Bool.false_ne_true
  exact ⟨Profile.ofEvents_answers_iff world config timely,
    Profile.ofEvents_filter config now,
    fun keys => Profile.ofEvents_filter config now keys lost,
    Evaluation.compute_ok_iff recommendations events k,
    fun keys => (Evaluation.compute_map_textOnly recommendations k keys).symm⟩

/-- An event as a client sends it, with an item id of any kind. -/
def samplePurchaseRow (item : Json) : Row :=
  [("user_id", .str "ada"), ("event_type", .str "PURCHASE"),
    ("properties", .obj [("itemId", item)])]

/-- The event that is read from it. -/
def samplePurchaseOf (item : Json) : Event :=
  ⟨"ada", .purchase, [("itemId", item)], none, none, sampleConfig.now⟩

/-- A recommended gown. -/
def sampleRecommendation : Recommendation := ⟨"gown", "loom", "garment"⟩

/-- The event is accepted, whatever its item id is. -/
theorem samplePurchaseOf_accepted (item : Json) :
    Event.parse sampleConfig.now (samplePurchaseRow item) = .ok (samplePurchaseOf item) := rfl

/-- A purchase whose item id is a number is left out beside the purchase of the gown. -/
theorem references_harmless_iff_sample :
    let events := [samplePurchaseOf (.int 7), samplePurchaseOf (.str "gown")]
    (∃ vector, ((ofEvents collaborators sampleConfig sampleConfig.now events).outcome
      sampleKept).1 = .ok vector) ∧
    ofEvents collaborators sampleConfig sampleConfig.now events =
      ofEvents collaborators sampleConfig sampleConfig.now [samplePurchaseOf (.str "gown")] ∧
    (∃ metrics : Metrics Float, compute [sampleRecommendation] events 1 = .ok metrics) ∧
    (compute [sampleRecommendation] events 1 : Except Fault (Metrics Float)) =
      compute [sampleRecommendation]
        [(samplePurchaseOf (.int 7)).withoutItem, samplePurchaseOf (.str "gown")] 1 := by
  intro events
  have sent : ∀ event ∈ events, event = samplePurchaseOf (.int 7) ∨
      event = samplePurchaseOf (.str "gown") := by simp [events]
  have accepted : ∀ event ∈ events, ∃ present row, Event.parse present row = .ok event := by
    intro event held
    rcases sent event held with rfl | rfl <;> exact ⟨_, _, samplePurchaseOf_accepted _⟩
  have keys : ∀ event ∈ events, event.HasKey := by
    intro event held value given
    rcases sent event held with rfl | rfl <;>
      · cases given
        trivial
  have clocked : sampleConfig.now.offset.isSome = true := rfl
  obtain ⟨answers, -, filters, computes, evaluates⟩ := references_harmless_iff collaborators
    sampleConfig clocked accepted [sampleRecommendation] 1
  have counted : ∀ event ∈ events, event.IsCounted → event.HasKey :=
    fun event held _ => keys event held
  exact ⟨(answers sampleKept).mpr keys, filters keys, computes.mpr counted, evaluates counted⟩

/-- A purchase whose item id is a list is accepted, and nothing is computed from it and the purchase
of the gown, although it is computed from that one alone. -/
theorem list_reference_stops :
    let odd := samplePurchaseOf (.arr [.str "gown"])
    let gown := samplePurchaseOf (.str "gown")
    Event.parse sampleConfig.now (samplePurchaseRow (.arr [.str "gown"])) = .ok odd ∧
    ((ofEvents collaborators sampleConfig sampleConfig.now [odd, gown]).outcome sampleKept).1 =
      .error (.unhashable "list") ∧
    (∃ vector, ((ofEvents collaborators sampleConfig sampleConfig.now [gown]).outcome
      sampleKept).1 = .ok vector) ∧
    (compute [sampleRecommendation] [odd, gown] 1 : Except Fault (Metrics Float)) =
      .error (.unhashable "list") ∧
    ∃ metrics : Metrics Float, compute [sampleRecommendation] [odd.withoutItem, gown] 1 =
      .ok metrics := by
  intro odd gown
  exact ⟨rfl, rfl, Call.ok_of_isSome (by decide +kernel), rfl, ⟨_, rfl⟩⟩

end Accepted

end Storefront
