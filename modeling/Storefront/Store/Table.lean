/-!
# Keyed tables

A table keeps one value under every key, in the order in which the keys first arrived. Storing
under a known key replaces the value and keeps the place.
-/

namespace Storefront

/-- One value under every key, in the order of arrival of the keys. -/
structure Table (α : Type) where
  entries : List (String × α)

namespace Table

variable {α : Type}

/-- A table without entries. -/
def empty : Table α := ⟨[]⟩

/-- Entries with one of them replaced, or added at the end. -/
def putEntry (key : String) (value : α) : List (String × α) → List (String × α)
  | [] => [(key, value)]
  | (name, old) :: rest =>
    if name = key then (key, value) :: rest else (name, old) :: putEntry key value rest

/-- Store a value under a key. -/
def put (table : Table α) (key : String) (value : α) : Table α := ⟨putEntry key value table.entries⟩

/-- The value under a key. -/
def find? (table : Table α) (key : String) : Option α := table.entries.lookup key

/-- The values in order. -/
def values (table : Table α) : List α := table.entries.map (·.2)

/-- The keys in order. -/
def keys (table : Table α) : List String := table.entries.map (·.1)

/-- How many keys there are. -/
def size (table : Table α) : Nat := table.entries.length

/-- A table of values, each under its own key; of two values with one key the later one counts. -/
def ofValues (key : α → String) (values : List α) : Table α :=
  values.foldl (fun table value => table.put (key value) value) empty

end Table

end Storefront
