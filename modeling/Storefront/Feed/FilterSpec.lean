import Storefront.Json.Number
import Storefront.Json.PlainText
import Storefront.Sequence
import Storefront.User.Preferences
/-!
# Hard constraints

The constraints of one request, read from a record or collected from the parameters of a query and
the preferences of the user who asks. Parameters have two spellings, some more, and the first
spelling that is not null counts.
-/

namespace Storefront

/-- The hard constraints of one request. Gender and category are kept as the request gave them. -/
structure FilterSpec where
  inStockOnly : Bool
  maxPrice : Option Float
  deliveryRegion : String
  deadlineDays : Option Int
  blockedVendors : List String
  gender : Option Json
  category : Option Json

namespace FilterSpec

/-- The constraints of a request that asks for nothing in particular. -/
def plain : FilterSpec where
  inStockOnly := true
  maxPrice := none
  deliveryRegion := "ng"
  deadlineDays := none
  blockedVendors := []
  gender := none
  category := none

/-- Read constraints from a record. -/
def read (row : Row) : Checked FilterSpec :=
  FilterSpec.mk <$> row.withDefault "in_stock_only" Reader.bool plain.inStockOnly
    <*> row.optional "max_price" Reader.float
    <*> row.withDefault "delivery_region" Reader.text plain.deliveryRegion
    <*> row.optional "deadline_days" Reader.int
    <*> row.withDefault "blocked_vendors" Reader.textSet []
    <*> (row.optional "gender" Reader.text).map (·.map .str)
    <*> (row.optional "category" Reader.text).map (·.map .str)

/-- Constraints as a record. -/
def toRow (spec : FilterSpec) : Row :=
  [("in_stock_only", .bool spec.inStockOnly),
    ("max_price", Json.ofOption .float spec.maxPrice),
    ("delivery_region", .str spec.deliveryRegion),
    ("deadline_days", Json.ofOption .int spec.deadlineDays),
    ("blocked_vendors", Json.ofTexts (Sequence.ascending (fun a b => decide (a < b))
      spec.blockedVendors)),
    ("gender", spec.gender.getD .null),
    ("category", spec.category.getD .null)]

/-- The first of several spellings that holds something other than null. -/
def firstPresent (query : Row) (spellings : List String) : Option Json :=
  spellings.findSome? query.present?

/-- The spellings of the parameters. -/
def maxPriceKeys : List String := ["max_price", "maxPrice", "budget_max", "budgetMax"]

/-- The spellings of the number of days within which an item must arrive. -/
def deadlineKeys : List String := ["deadline_days", "deadlineDays"]

/-- The spellings of the wish for items in stock. -/
def inStockKeys : List String := ["in_stock_only", "inStockOnly"]

/-- A parameter that is not blank. -/
def filled (query : Row) (spellings : List String) : Option Json :=
  match firstPresent query spellings with
  | some (.str "") => none
  | found => found

/-- What a parameter says about stock: a truth value itself, any other value by its text. -/
def wantsStock : Json → Bool
  | .bool value => value
  | value => Text.lower value.plainText == "true"

/-- A parameter that counts as given. -/
def given (query : Row) (key : String) : Option Json := (query.get? key).bind Json.given?

/-- An optional value read as a number, or as nothing. -/
def readOptional {α : Type} (read : Json → Except Fault α) : Option Json → Except Fault (Option α)
  | none => .ok none
  | some value => (read value).map some

/-- The constraints of a query by a user. -/
def build (query : Row) (preferences : Option Preferences) : Except Fault FilterSpec := do
  let maxPrice ← readOptional Json.toFloat (filled query maxPriceKeys)
  let deadlineDays ← readOptional Json.toInt (filled query deadlineKeys)
  pure { plain with
    maxPrice
    deadlineDays
    gender := given query "gender"
    category := given query "category"
    inStockOnly := ((firstPresent query inStockKeys).map wantsStock).getD plain.inStockOnly
    blockedVendors := ((preferences.map (·.blockedVendors)).getD []).eraseDups }

end FilterSpec

end Storefront
