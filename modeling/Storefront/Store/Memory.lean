import Storefront.Store.Catalog
import Storefront.Store.EventLog
/-!
# Stores in memory

All stores of a storefront kept in one value, and the collaborators over it. The catalog is also
the index that is searched.
-/

namespace Storefront

/-- The stores of a storefront. -/
structure Memory where
  catalog : Catalog
  events : EventLog
  profiles : Table ProfileRecord
  preferences : Table Preferences
  standings : Table Standing

namespace Memory

/-- Empty stores. -/
def empty : Memory := ⟨.empty, [], .empty, .empty, .empty⟩

/-- Stores with items, stated preferences and standings, and nothing recorded yet. -/
def ofParts (items : List Item) (preferences : List Preferences) (standings : List Standing) :
    Memory where
  catalog := Catalog.ofItems items
  events := []
  profiles := .empty
  preferences := Table.ofValues (·.userId) preferences
  standings := Table.ofValues (·.vendorId) standings

/-- A question to the stores. -/
def ask {α : Type} (answer : Memory → Except Fault α) : Call Memory α :=
  Call.ofOutcome fun memory => (answer memory, memory)

/-- A change of the stores. -/
def change (step : Memory → Except Fault Memory) : Call Memory Unit :=
  Call.ofOutcome fun memory =>
    match step memory with
    | .ok changed => (.ok (), changed)
    | .error fault => (.error fault, memory)

/-- The standing of a vendor. -/
def lookUp (vendorId : String) : StateM Memory LookupOutcome := do
  match (← get).standings.find? vendorId with
  | some standing => pure (.found standing)
  | none => pure .unknown

/-- The collaborators over the stores, without a service that embeds texts. -/
def collaborators : Collaborators Memory where
  listItems query := ask fun memory => memory.catalog.listItems query
  findItem key := ask fun memory => .ok (memory.catalog.itemAt? key.slot)
  addItem item := change fun memory => .ok { memory with catalog := memory.catalog.add item }
  updateItem id changes := change fun memory =>
    (memory.catalog.update id changes).map fun catalog => { memory with catalog }
  search := some fun query => ask fun memory => memory.catalog.search query
  logEvent event := change fun memory => .ok { memory with events := memory.events.append event }
  recentEvents userId limit since := ask fun memory =>
    .ok (memory.events.recent userId limit since)
  preferences := some fun userId => ask fun memory => .ok (memory.preferences.find? userId)
  embed := none
  saveProfile profile := change fun memory =>
    .ok { memory with profiles := memory.profiles.put profile.userId profile }
  loadProfile userId := ask fun memory => .ok (memory.profiles.find? userId)
  vendor := some lookUp

end Memory

end Storefront
