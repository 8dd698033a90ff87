import Storefront.Json.Basic
import Storefront.Decimal.Shortest
import Storefront.Text.Quoted
/-!
# Values as plain text

The text of a value where a name or a tag is needed: text stands for itself, numbers and truth
values are written out, and lists and objects show their parts with quoted texts.
-/

namespace Storefront.Json

/-- A value other than a list or an object, inside one. -/
def shownLeaf : Json → String
  | .null => "None"
  | .bool value => if value then "True" else "False"
  | .int value => toString value
  | .float value => Decimal.plainNumber.render value
  | .str text => Text.quoted text
  | _ => ""

mutual

/-- A value as a part of a list or an object. -/
def shown : Json → String
  | .arr items => "[" ++ ", ".intercalate (shownItems items) ++ "]"
  | .obj entries => "\x7b" ++ ", ".intercalate (shownEntries entries) ++ "\x7d"
  | leaf => shownLeaf leaf

def shownItems : List Json → List String
  | [] => []
  | item :: rest => shown item :: shownItems rest

def shownEntries : List (String × Json) → List String
  | [] => []
  | (key, value) :: rest => (Text.quoted key ++ ": " ++ shown value) :: shownEntries rest

end

/-- A value as plain text. -/
def plainText : Json → String
  | .str text => text
  | value => value.shown

end Storefront.Json
