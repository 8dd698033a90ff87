import Storefront.Decimal.Binary
import Storefront.Json.Basic
/-!
# Keys

What can be looked up in a table: texts, numbers and truth values, but no lists and no objects. A
table tells keys apart by their slots. Numbers of one size have one slot, of whatever kind they are,
and a truth value has that of zero or one. Reading JSON makes one undefined number, so that has a
slot of its own, although it equals nothing in a comparison.
-/

namespace Storefront

/-- A value that something can be looked up by. -/
inductive Key where
  | text (id : String)
  | truth (value : Bool)
  | whole (value : Int)
  | real (value : Float)
  deriving DecidableEq

/-- What a table tells keys apart by. -/
inductive Slot where
  | text (id : String)
  | number (size : Rat)
  | infinite (negative : Bool)
  | undefined
  deriving DecidableEq

namespace Slot

/-- The text of a slot for a text. -/
def text? : Slot → Option String
  | .text id => some id
  | _ => none

/-- The slot of what a float stands for. -/
def ofReading : Decimal.Reading → Slot
  | .finite value => .number value.toRat
  | .infinite negative => .infinite negative
  | .undefined => .undefined

end Slot

namespace Key

instance : Coe String Key := ⟨text⟩

/-- A value as a key. Nothing is looked up by a null, and by lists and objects nothing can be. -/
def ofJson? : Json → Option Key
  | .str id => some (.text id)
  | .bool value => some (.truth value)
  | .int value => some (.whole value)
  | .float value => some (.real value)
  | .null | .arr _ | .obj _ => none

/-- The value that a key is. -/
def toJson : Key → Json
  | .text id => .str id
  | .truth value => .bool value
  | .whole value => .int value
  | .real value => .float value

/-- The slot of a key. -/
def slot : Key → Slot
  | .text id => .text id
  | .truth value => .number (if value then 1 else 0)
  | .whole value => .number value
  | .real value => .ofReading (.ofFloat value)

end Key

end Storefront
