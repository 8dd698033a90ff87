/-!
# JSON values

Free-form data: vendor rows, event properties, filter values and everything that arrives or leaves
as text. Integers and floats are different values, the entries of an object keep their order, and
a key occurs once. Reading and writing text are in `Storefront.Json.Reader` and
`Storefront.Json.Printer`.
-/

namespace Storefront

/-- A JSON value. -/
inductive Json where
  | null
  | bool (value : Bool)
  | int (value : Int)
  | float (value : Float)
  | str (text : String)
  | arr (items : List Json)
  | obj (entries : List (String × Json))
  deriving Inhabited

/-- The entries of an object in the order in which their keys first arrived. -/
abbrev Row := List (String × Json)

namespace Row

/-- The value stored under a key. -/
def get? (row : Row) (key : String) : Option Json := row.lookup key

/-- The value stored under a key, with an explicit null read as no value. -/
def present? (row : Row) (key : String) : Option Json :=
  match row.get? key with
  | some .null => none
  | found => found

/-- Whether a key is stored, with whatever value. -/
def has (row : Row) (key : String) : Bool := (row.get? key).isSome

/-- Store a value: a known key keeps its place, a new key goes to the end. -/
def put (row : Row) (key : String) (value : Json) : Row :=
  match row with
  | [] => [(key, value)]
  | (name, old) :: rest =>
    if name = key then (key, value) :: rest else (name, old) :: put rest key value

/-- Store every entry of a second row, in order. -/
def merge (row changes : Row) : Row :=
  changes.foldl (fun merged entry => merged.put entry.1 entry.2) row

/-- The row without a key. -/
def without (row : Row) (key : String) : Row := row.filter (·.1 != key)

/-- A row from entries whose keys may repeat: the last value of a key counts. -/
def ofEntries (entries : List (String × Json)) : Row := merge [] entries

end Row

namespace Json

/-- The entries of an object; every other value has none. -/
def entries : Json → Row
  | .obj entries => entries
  | _ => []

/-- Text read as text. -/
def text? : Json → Option String
  | .str text => some text
  | _ => none

/-- A value that counts as given: not null, false, zero, or empty. -/
def isTruthy : Json → Bool
  | .null => false
  | .bool value => value
  | .int value => value != 0
  | .float value => !(value == 0.0)
  | .str text => text != ""
  | .arr items => !items.isEmpty
  | .obj entries => !entries.isEmpty

/-- The value, if it counts as given. -/
def given? (value : Json) : Option Json := if value.isTruthy then some value else none

/-- The name under which a value's kind appears in messages. -/
def kindName : Json → String
  | .null => "NoneType"
  | .bool _ => "bool"
  | .int _ => "int"
  | .float _ => "float"
  | .str _ => "str"
  | .arr _ => "list"
  | .obj _ => "dict"

/-- An optional value as JSON: absent is null. -/
def ofOption {α : Type} (encode : α → Json) : Option α → Json
  | none => .null
  | some value => encode value

/-- A list of texts as JSON. -/
def ofTexts (texts : List String) : Json := .arr (texts.map .str)

/-- A list of floats as JSON. -/
def ofFloats (values : List Float) : Json := .arr (values.map .float)

mutual

/-- The value with numbers that no JSON text can write, the infinite and the undefined ones,
replaced by null. -/
def writable : Json → Json
  | .float value => if value.isFinite then .float value else .null
  | .arr items => .arr (writableItems items)
  | .obj entries => .obj (writableEntries entries)
  | leaf => leaf

def writableItems : List Json → List Json
  | [] => []
  | item :: rest => writable item :: writableItems rest

def writableEntries : List (String × Json) → List (String × Json)
  | [] => []
  | (key, value) :: rest => (key, writable value) :: writableEntries rest

end

end Json

end Storefront
