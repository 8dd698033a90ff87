import Storefront.Json.Number
/-!
# Reading vectors

A vector arrives as a list of free-form values: numbers, truth values, text that writes a number,
and null, which is read as the undefined number. A list inside the list is a fault, whatever the
other entries are.
-/

namespace Storefront.Vector

/-- One entry of a vector. -/
def readEntry : Json → Except Fault Float
  | .null => .ok (0.0 / 0.0)
  | value => value.toFloat

/-- The entries of a vector, one after the other. -/
def readEntries : List Json → Except Fault (List Float)
  | [] => .ok []
  | value :: rest => do
    let entry ← readEntry value
    let others ← readEntries rest
    pure (entry :: others)

/-- Whether a value is a list. -/
def isList : Json → Bool
  | .arr _ => true
  | _ => false

/-- A vector from its entries; the first entry that cannot be read is the fault. -/
def read (values : List Json) : Except Fault (List Float) :=
  if values.any isList then .error (.notFlat values.length) else readEntries values

end Storefront.Vector
