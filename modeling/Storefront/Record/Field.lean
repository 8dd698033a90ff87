import Storefront.Json.Basic
import Storefront.Numeral
import Storefront.Record.Checked
import Storefront.Text.Lowercase
import Storefront.Time.Text
/-!
# Reading the fields of records

A reader takes one JSON value. Readers are lenient: numbers and booleans are also read from text,
whole numbers from floats without a fraction, floats from booleans. A record is read field by
field with `required`, `optional` and `withDefault`.
-/

namespace Storefront

/-- A reading of one JSON value. -/
abbrev Reader (α : Type) := Json → Checked α

namespace Reader

variable {α : Type}

/-- Any value at all. -/
def any : Reader Json := .valid

/-- Text; nothing else is read as text. -/
def text : Reader String
  | .str text => .valid text
  | _ => .fail .stringType

/-- Text with at least one character. -/
def nonEmptyText : Reader String
  | .str text => if text.isEmpty then .fail .stringTooShort else .valid text
  | _ => .fail .stringType

/-- A float. -/
def float : Reader Float
  | .float value => .valid value
  | .int value =>
    match Decimal.nearestFloat? value with
    | some value => .valid value
    | none => .fail .floatType
  | .bool value => .valid (if value then 1.0 else 0.0)
  | .str text =>
    match Numeral.fieldFloat? text with
    | some value => .valid value
    | none => .fail .floatParsing
  | _ => .fail .floatType

/-- The largest size of a whole number that a float is read as. -/
def machineBound : Nat := 1 <<< 63

/-- A whole number. -/
def int : Reader Int
  | .int value => .valid value
  | .bool value => .valid (if value then 1 else 0)
  | .float value =>
    match Decimal.Reading.ofFloat value with
    | .finite exact =>
      match exact.toInt? with
      | some whole => if whole.natAbs < machineBound then .valid whole else .fail .intParsingSize
      | none => .fail .intFromFloat
    | _ => .fail .finiteNumber
  | .str text =>
    match Numeral.fieldInt? text with
    | some value => .valid value
    | none => .fail .intParsing
  | _ => .fail .intType

/-- The words that are read as truth values. -/
def truthWord? (text : String) : Option Bool :=
  let word := String.ofList (text.toList.map Char.toLower)
  if ["1", "true", "t", "yes", "y", "on"].contains word then some true
  else if ["0", "false", "f", "no", "n", "off"].contains word then some false
  else none

/-- The numbers that are read as truth values. -/
def truthNumber (value : Int) : Checked Bool :=
  if value = 1 then .valid true else if value = 0 then .valid false else .fail .boolParsing

/-- A truth value. -/
def bool : Reader Bool
  | .bool value => .valid value
  | .int value => truthNumber value
  | .float value =>
    match Decimal.wholeNumber? value with
    | some whole => truthNumber whole
    | none => .fail .boolParsing
  | .str text =>
    match truthWord? text with
    | some value => .valid value
    | none => .fail .boolParsing
  | _ => .fail .boolType

/-- A moment. -/
def moment : Reader Moment
  | .str text =>
    match Moment.ofFieldText? text with
    | some value => .valid value
    | none => .fail .moment
  | .int count =>
    match Moment.ofCount? count 0 with
    | some value => .valid value
    | none => .fail .moment
  | .float count =>
    match Moment.ofFraction? count with
    | some value => .valid value
    | none => .fail .moment
  | _ => .fail .moment

/-- A list of values of one kind. -/
def list (item : Reader α) : Reader (List α)
  | .arr items => Checked.itemsFrom 0 (items.map item)
  | _ => .fail .listType

/-- A set of texts, in the order of first occurrence. -/
def textSet : Reader (List String)
  | .arr items => (Checked.itemsFrom 0 (items.map text)).map fun texts => texts.eraseDups
  | _ => .fail .setType

/-- An object with values of any kind. -/
def row : Reader Row
  | .obj entries => .valid entries
  | _ => .fail .dictType

/-- The readings of an object's values, each under its key. -/
def valuesOf (value : Reader α) : List (String × Json) → Checked (List (String × α))
  | [] => .valid []
  | (key, json) :: rest =>
    Checked.both List.cons (((value json).under (.field key)).map (key, ·)) (valuesOf value rest)

/-- An object with values of one kind. -/
def mapping (value : Reader α) : Reader (List (String × α))
  | .obj entries => valuesOf value entries
  | _ => .fail .dictType

/-- One of a list of named values. -/
def oneOf (named : List (String × α)) : Reader α
  | .str text =>
    match named.lookup text with
    | some value => .valid value
    | none => .fail .enumeration
  | _ => .fail .enumeration

/-- A nested record. -/
def record (read : Row → Checked α) : Reader α
  | .obj entries => read entries
  | _ => .fail .modelType

/-- A value that may be null. -/
def nullable (read : Reader α) : Reader (Option α)
  | .null => .valid none
  | value => (read value).map some

/-- A reading whose value must pass a test. -/
def satisfying (read : Reader α) (kind : IssueKind) (test : α → Bool) : Reader α := fun json =>
  (read json).andThen fun value => if test value then .valid value else .fail kind

end Reader

namespace Row

variable {α : Type}

/-- A field that must be there. -/
def required (row : Row) (name : String) (read : Reader α) : Checked α :=
  match row.get? name with
  | some value => (read value).under (.field name)
  | none => .invalid [⟨[.field name], .missing⟩]

/-- A field with a value for its absence. -/
def withDefault (row : Row) (name : String) (read : Reader α) (default : α) : Checked α :=
  match row.get? name with
  | some value => (read value).under (.field name)
  | none => .valid default

/-- A field that may be absent or null. -/
def optional (row : Row) (name : String) (read : Reader α) : Checked (Option α) :=
  row.withDefault name (Reader.nullable read) none

end Row

end Storefront
