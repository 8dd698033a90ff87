import Storefront.Collaborators
import Storefront.Item.Attribute
import Storefront.Item.Reader
import Storefront.Item.Writer
import Storefront.Store.Table
import Storefront.Vector.Nearest
/-!
# The catalog

Items under their ids, in the order in which the ids first arrived. Besides adding, changing and
finding single items, the catalog lists items by their attributes and searches them by their
vectors. Nothing that fails changes it.
-/

namespace Storefront

/-- The items on offer. -/
abbrev Catalog := Table Item

namespace Catalog

/-- Add an item under its id, in place of an item that is there already. -/
def add (catalog : Catalog) (item : Item) : Catalog := catalog.put item.id item

/-- The item in a slot. Items are stored under texts, so no other slot holds one. -/
def itemAt? (catalog : Catalog) (slot : Slot) : Option Item := slot.text?.bind catalog.find?

/-- A catalog of items. -/
def ofItems (items : List Item) : Catalog := items.foldl add Table.empty

/-- An item with the fields of a row changed. -/
def changed (item : Item) (changes : Row) : Except Fault Item :=
  Item.parse (item.toRow.merge changes)

/-- Change the item under an id; an unknown id changes nothing. -/
def update (catalog : Catalog) (id : String) (changes : Row) : Except Fault Catalog :=
  match catalog.find? id with
  | none => .ok catalog
  | some item => (changed item changes).map (catalog.put id ·)

/-- Whether an item has all the wanted values. -/
def isWanted (filters : Row) (item : Item) : Bool :=
  filters.all fun (name, value) => Attribute.equals (item.attribute? name) value

/-- The items with the wanted values. -/
def wanted (catalog : Catalog) (filters : Option Row) : List Item :=
  catalog.values.filter (isWanted (filters.getD []))

/-- The attribute that an order is by: the name without the minuses in front of it. -/
def orderedBy (sort : String) : String := String.ofList (sort.toList.dropWhile (· == '-'))

/-- Items that have an attribute, with it. -/
def withAttribute (name : String) (items : List Item) : List (Attribute × Item) :=
  items.filterMap fun item => (item.attribute? name).map (·, item)

/-- Items that do not have an attribute. -/
def withoutAttribute (name : String) (items : List Item) : List Item :=
  items.filter fun item => (item.attribute? name).isNone

/-- Items in the order of an attribute; the items without it come last. -/
def inOrder (sort : String) (items : List Item) : Except Fault (List Item) := do
  let name := orderedBy sort
  let below (a b : Attribute × Item) := Attribute.less a.1 b.1
  let present := withAttribute name items
  let sorted ←
    if sort.startsWith "-" then Sequence.descendingM below present
    else Sequence.ascendingM below present
  pure (sorted.map (·.2) ++ withoutAttribute name items)

/-- The items that a query asks for. -/
def listItems (catalog : Catalog) (query : CatalogQuery) : Except Fault (List Item) := do
  let items := catalog.wanted query.filters
  let ordered ← match query.sort.filter (! ·.isEmpty) with
    | some sort => inOrder sort items
    | none => pure items
  pure (Sequence.cutAt query.limit ordered)

/-- The vectors that an index is over. -/
def indexed (index : String) : Except Fault (Item → Option (List Float)) :=
  if index = styleIndex then .ok fun item => item.embeddings.bind (·.style)
  else if index = fabricIndex then .ok fun item => item.embeddings.bind (·.fabric)
  else .error (.unknownIndex index)

/-- The items nearest to a vector, with their similarities as scores. -/
def search (catalog : Catalog) (query : SearchQuery) : Except Fault (List Item) := do
  let vectorOf ← indexed query.index
  let found := Vector.nearest query.vector vectorOf query.limit (catalog.wanted query.filters)
  pure (found.map fun (similarity, item) => item.scored similarity)

end Catalog

end Storefront
