import Storefront.Feed.Stage
/-!
# Items that go together

Two feeds around given items. What is bought together shares a vendor or tags with one item; what
completes a look is of a kind that the look does not have yet. Candidates are found by a heuristic
score, which then takes the place of a similarity in the ranking.
-/

namespace Storefront.Companions

variable {σ R : Type} [Scalar R]

/-- How many items are shown unless a request says otherwise. -/
def defaultLimit : Int := 10

/-- How many candidates are ranked for every item shown. -/
def overfetch : Int := 2

/-- How many of some tags are among others. -/
def sharedTags (tags others : List String) : Nat := (tags.filter others.contains).length

/-- Candidates with their heuristic scores, the best first, at most so many. -/
def best (limit : Int) (scored : List (Float × Item)) : List Item :=
  (Sequence.cut (limit * overfetch)
    (Sequence.descending (fun a b => decide (a.1 < b.1)) scored)).map fun (score, item) =>
      item.scored score

/-- Whether an item has the same vendor as another; a blank vendor is nobody's. -/
def sharesVendor (reference candidate : Item) : Bool :=
  !candidate.vendor.isEmpty && candidate.vendor == reference.vendor

/-- Half for the same vendor, and half for all of the reference's tags. -/
def affinity (sameVendor : Bool) (overlap tagCount : Nat) : R :=
  (if sameVendor then (0.5 : R) else Scalar.zero) +
    (0.5 : R) * Scalar.ofInt overlap / Scalar.ofInt (if tagCount = 0 then 1 else tagCount)

/-- The score of a candidate around a reference, unless they share nothing. -/
def affinityTo (reference candidate : Item) : Option Float :=
  let sameVendor := sharesVendor reference candidate
  let overlap := sharedTags reference.tags candidate.tags
  if !sameVendor && overlap = 0 then none
  else some (affinity sameVendor overlap reference.tags.length)

/-- The scored candidates around a reference. -/
def around (reference : Item) (id : String) (items : List Item) : List (Float × Item) :=
  items.filterMap fun candidate =>
    if candidate.id == id then none
    else (affinityTo reference candidate).map (·, candidate)

/-- Assemble the feed of items that are bought together with one. -/
def boughtTogether (setup : FeedSetup σ) (itemId : Option String) (limit : Option Int) :
    Call σ Feed := do
  let id ← Call.ofExcept (FeedSetup.requireText "itemId" itemId)
  let limit ← Call.ofExcept (FeedSetup.requirePositive "limit" limit)
  match ← Call.ofState ((setup.world.findItem id).orElse none) with
  | none => pure (.nothing "Item not found")
  | some reference =>
    let items ← Call.ofState (setup.scan .everything)
    let scored := around reference id items
    let stage ← setup.filterAndRank (best limit scored) .plain none
    let items ← Call.ofExcept (FeedSetup.explain []
      (some ⟨"Frequently bought together", .boughtTogether⟩) (Sequence.cut limit stage.ranked))
    pure {
      items
      trace := FeedTrace.ofFilter scored.length stage.result
      message := none
      references := some [reference] }

/-- What a look consists of so far. -/
structure Look where
  ids : List String
  references : List Item

namespace Look

/-- The look of the items with some ids. -/
def ofIds (ids : List String) (items : List Item) : Look :=
  ⟨ids, items.filter fun item => ids.contains item.id⟩

/-- The kinds that a look has. -/
def kinds (look : Look) : List Kind := Sequence.firsts (look.references.map (·.kind))

/-- The vendors of a look, blank ones apart. -/
def vendors (look : Look) : List String :=
  (look.references.map (·.vendor)).filter (! ·.isEmpty)

/-- All tags of a look, with repetitions. -/
def tags (look : Look) : List String := look.references.flatMap (·.tags)

/-- Whether an item adds a kind to a look. -/
def isCompletedBy (look : Look) (candidate : Item) : Bool :=
  !look.ids.contains candidate.id && !look.kinds.contains candidate.kind

end Look

/-- A base for the new kind, more for a vendor of the look, and more for its tags. -/
def harmony (knownVendor : Bool) (overlap tagCount : Nat) : R :=
  let base : R := if knownVendor then (0.3 : R) + 0.4 else 0.3
  if overlap = 0 then base else base + (0.3 : R) * Scalar.ofInt overlap / Scalar.ofInt tagCount

/-- The scored candidates for a look. -/
def completing (look : Look) (items : List Item) : List (Float × Item) :=
  (items.filter look.isCompletedBy).map fun candidate =>
    (harmony (look.vendors.contains candidate.vendor) (sharedTags candidate.tags look.tags)
      look.tags.length, candidate)

/-- The constraints of a user: nothing but the blocked vendors. -/
def constraints (setup : FeedSetup σ) (userId : Option String) : Call σ FilterSpec := do
  let preferences ← Call.ofState <| match userId.filter (! ·.isEmpty) with
    | none => pure none
    | some userId => setup.preferences userId
  Call.ofExcept (FilterSpec.build [] preferences)

/-- Assemble the feed of items that complete a look. Blank ids are left out. -/
def completeLook (setup : FeedSetup σ) (itemIds : List String) (userId : Option String)
    (limit : Option Int) : Call σ Feed := do
  let ids := itemIds.filter (! ·.isEmpty)
  Call.ofExcept (FeedSetup.require "itemIds" (!ids.isEmpty))
  let limit ← Call.ofExcept (FeedSetup.requirePositive "limit" limit)
  let items ← Call.ofState (setup.scan .everything)
  let look := Look.ofIds ids items
  if look.references.isEmpty then pure (.nothing "No reference items found")
  else
    let scored := completing look items
    let spec ← constraints setup userId
    let stage ← setup.filterAndRank (best limit scored) spec none
    let shown ← Call.ofExcept (FeedSetup.explain []
      (some ⟨"Completes your look", .completeLook⟩) (Sequence.cut limit stage.ranked))
    pure {
      items := shown
      trace := { FeedTrace.ofFilter scored.length stage.result with lookKinds := some look.kinds }
      message := none
      references := some look.references }

end Storefront.Companions
