import Storefront.Listing.Draft
/-!
# Importing vendor rows

A row becomes an item if it has an identifier and a name and its draft reads as an item. In a
batch, rows that lack one of the two are left out; every other fault stops the batch.
-/

namespace Storefront.Listing

/-- The vendor an item is attached to: the given one, or the source. -/
def vendorOf (source : String) (vendor : Option String) : String :=
  match vendor with
  | some name => if name.isEmpty then source else name
  | none => source

/-- The item of a vendor row. -/
def normalize (raw : Row) (source : String) (vendor : Option String) : Except Fault Item := do
  let draft ← draft (Shape.ofSource source) raw
  let id := column draft "item_id"
  if !id.isTruthy then .error (.rejectedListing .noIdentifier)
  else if !(column draft "name").isTruthy then .error (.rejectedListing .noName)
  else
    Item.parse (((draft.put "item_id" (.str id.plainText)).put "vendor"
      (.str (vendorOf source vendor))).put "raw_vendor_data" (.obj raw))

/-- The items of a batch of vendor rows, in order. -/
def normalizeAll (source : String) (vendor : Option String) : List Row → Except Fault (List Item)
  | [] => .ok []
  | raw :: rest =>
    match normalize raw source vendor with
    | .ok item => (normalizeAll source vendor rest).map (item :: ·)
    | .error (.rejectedListing _) => normalizeAll source vendor rest
    | .error fault => .error fault

end Storefront.Listing
