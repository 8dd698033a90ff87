import Storefront.Call
import Storefront.Event.Basic
import Storefront.Item.Basic
import Storefront.User.Preferences
import Storefront.Vendor.Standing
/-!
# Collaborators

What a feed needs from the outside: a catalog, a vector search, an event log, an embedding
service, stored profiles, stated preferences and the business service. Every one is a function on
an abstract state, so that the same feeds run over stores in memory and over remote tables.
-/

namespace Storefront

/-- What is asked of a catalog: items whose fields have some values, in the order of one field,
descending if its name has a minus in front, and at most so many. -/
structure CatalogQuery where
  filters : Option Row
  sort : Option String
  limit : Option Int

/-- A query for all items in the order of the catalog. -/
def CatalogQuery.everything : CatalogQuery := ⟨none, none, none⟩

/-- A query for all items, newest first. -/
def CatalogQuery.newest (limit : Option Int) : CatalogQuery := ⟨none, some "-created_at", limit⟩

/-- The index over style vectors. -/
def styleIndex : String := "items_style_vindex"

/-- The index over fabric vectors. -/
def fabricIndex : String := "items_fabric_vindex"

/-- What is asked of a vector search. -/
structure SearchQuery where
  vector : List Float
  index : String
  limit : Int
  candidates : Int
  filters : Option Row

/-- How the lookup of a vendor ends. -/
inductive LookupOutcome where
  | found (standing : Standing)
  | unknown
  | failed
  /-- The lookup does not end before any deadline. -/
  | hanging

/-- The collaborators of the feeds over a state. -/
structure Collaborators (σ : Type) where
  listItems : CatalogQuery → Call σ (List Item)
  findItem : Key → Call σ (Option Item)
  addItem : Item → Call σ Unit
  updateItem : String → Row → Call σ Unit
  search : Option (SearchQuery → Call σ (List Item))
  logEvent : Event → Call σ Unit
  recentEvents : String → Int → Option Moment → Call σ (List Event)
  preferences : Option (String → Call σ (Option Preferences))
  /-- The vector of a text; a service may have none for it. -/
  embed : Option (String → Call σ (Option (List Float)))
  saveProfile : ProfileRecord → Call σ Unit
  loadProfile : String → Call σ (Option ProfileRecord)
  vendor : Option (String → StateM σ LookupOutcome)

end Storefront
