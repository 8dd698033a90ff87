import Storefront.Feed.FilterSpec
import Storefront.Item.Basic
import Storefront.Vendor.Standing
/-!
# Hard filters

Six checks decide whether a candidate may be shown at all. They are independent of each other;
their order only decides to which check a dropped candidate is counted. What a check needs and an
item does not have lets the item pass; a stock figure that is no number cannot be compared, which
is a fault.
-/

namespace Storefront

/-- The vendors whose standing is known. A vendor without an entry is not gated. -/
abbrev TrustMap := List (String × Standing)

/-- The checks, in the order in which a candidate meets them. -/
inductive DropReason where
  | vendorGating
  | stock
  | price
  | blockedVendor
  | demographic
  | category
  deriving DecidableEq, Repr

namespace DropReason

/-- Every check, in order. -/
def all : List DropReason := [.vendorGating, .stock, .price, .blockedVendor, .demographic, .category]

/-- The name of a check's counter. -/
def name : DropReason → String
  | .vendorGating => "vendor_gating"
  | .stock => "stock"
  | .price => "price"
  | .blockedVendor => "blocked_vendor"
  | .demographic => "demographic"
  | .category => "category"

end DropReason

namespace Filter

/-- The vendor is known and must not be shown. -/
def failsVendorGating (trust : TrustMap) (item : Item) : Bool :=
  match trust.lookup item.vendor with
  | some standing => standing.isGated
  | none => false

/-- Only items in stock are wanted, and the reported stock is not above zero. -/
def failsStock (spec : FilterSpec) (item : Item) : Except Fault Bool :=
  if !spec.inStockOnly then .ok false
  else
    match item.stock? with
    | none => .ok false
    | some stock => stock.atMost (.whole 0)

/-- The price is above the highest price. -/
def failsPrice (spec : FilterSpec) (item : Item) : Bool :=
  match spec.maxPrice with
  | some bound => decide (bound < item.price)
  | none => false

/-- The user has blocked the vendor. -/
def failsBlockedVendor (spec : FilterSpec) (item : Item) : Bool :=
  spec.blockedVendors.contains item.vendor

/-- The item is made for somebody else. -/
def failsDemographic (spec : FilterSpec) (item : Item) : Bool :=
  match spec.gender.bind Json.given? with
  | none => false
  | some gender =>
    match (item.fit?.bind (·.demographic)).filter (! ·.isEmpty) with
    | none => false
    | some target => target != "unisex" && !(Json.same (.str target) gender)

/-- Neither the item's kind nor one of its tags is the category. -/
def failsCategory (spec : FilterSpec) (item : Item) : Except Fault Bool :=
  match spec.category.bind Json.given? with
  | none => .ok false
  | some (.str text) =>
    let category := Text.lower text
    .ok (!(item.kind.name == category || item.tags.any fun tag => Text.lower tag == category))
  | some value => .error (.noLowercase value.kindName)

/-- Whether a candidate fails one check. -/
def fails (trust : TrustMap) (spec : FilterSpec) (item : Item) : DropReason → Except Fault Bool
  | .vendorGating => .ok (failsVendorGating trust item)
  | .stock => failsStock spec item
  | .price => .ok (failsPrice spec item)
  | .blockedVendor => .ok (failsBlockedVendor spec item)
  | .demographic => .ok (failsDemographic spec item)
  | .category => failsCategory spec item

/-- The first of some checks that a candidate fails. -/
def firstFailing (trust : TrustMap) (spec : FilterSpec) (item : Item) :
    List DropReason → Except Fault (Option DropReason)
  | [] => .ok none
  | reason :: rest =>
    match fails trust spec item reason with
    | .error fault => .error fault
    | .ok true => .ok (some reason)
    | .ok false => firstFailing trust spec item rest

/-- Why a candidate is dropped, if it is. -/
def dropReason? (trust : TrustMap) (spec : FilterSpec) (item : Item) :
    Except Fault (Option DropReason) :=
  firstFailing trust spec item DropReason.all

/-- What the filters kept and how many candidates each check dropped. -/
structure Result where
  totalInput : Nat
  kept : List Item
  dropped : DropReason → Nat

namespace Result

/-- Nothing kept and nothing dropped, of some number of candidates. -/
def start (totalInput : Nat) : Result := ⟨totalInput, [], fun _ => 0⟩

/-- One more candidate kept, in front of the others. -/
def keep (result : Result) (item : Item) : Result := { result with kept := item :: result.kept }

/-- One more candidate dropped by a check. -/
def drop (result : Result) (reason : DropReason) : Result :=
  { result with
    dropped := fun other => if other = reason then result.dropped other + 1 else result.dropped other }

/-- How many candidates were kept. -/
def totalOutput (result : Result) : Nat := result.kept.length

/-- The counters of a run, by name. -/
def metrics (result : Result) : List (String × Nat) :=
  [("total_input", result.totalInput)] ++
    DropReason.all.map (fun reason => ("dropped_" ++ reason.name, result.dropped reason)) ++
    [("total_output", result.totalOutput)]

end Result

/-- Run the checks over candidates. The first fault in the order of the candidates wins. -/
def applyFrom (trust : TrustMap) (spec : FilterSpec) (totalInput : Nat) :
    List Item → Except Fault Result
  | [] => .ok (.start totalInput)
  | item :: rest =>
    match dropReason? trust spec item with
    | .error fault => .error fault
    | .ok none => (applyFrom trust spec totalInput rest).map (·.keep item)
    | .ok (some reason) => (applyFrom trust spec totalInput rest).map (·.drop reason)

/-- Run the checks over all candidates. -/
def run (trust : TrustMap) (spec : FilterSpec) (items : List Item) : Except Fault Result :=
  applyFrom trust spec items.length items

end Filter

end Storefront
