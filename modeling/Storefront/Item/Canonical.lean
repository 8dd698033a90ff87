import Storefront.Item.Basic
/-!
# The text of an item

The text under which an item's style is embedded: name, description and tags, and what is known
about fit, cloth or material. Parts that are absent or empty are left out.
-/

namespace Storefront

/-- An optional value as a word; an absent one is named as such. -/
def wordOf (value : Option String) : String := value.getD "None"

/-- A labelled part, or nothing if its value is absent or empty. -/
def labelledPart (label : String) (value : Option String) : List String :=
  match value with
  | some text => if text.isEmpty then [] else [label ++ text]
  | none => []

/-- What the details of an item add to its text. -/
def Details.textParts : Details → List String
  | .garment fit composition =>
    (fit.toList.map fun fit =>
      "Fit: " ++ wordOf fit.fitType ++ " for " ++ wordOf fit.demographic) ++
      labelledPart "Composition: " composition
  | .fabric composition => labelledPart "Fabric: " composition
  | .accessory material => labelledPart "Material: " material

/-- The text under which an item's style is embedded. -/
def Item.canonicalText (item : Item) : String :=
  let tags := if item.tags.isEmpty then [] else ["Tags: " ++ ", ".intercalate item.tags]
  let parts := [item.name] ++ item.description.toList ++ tags ++ item.details.textParts
  ". ".intercalate (parts.filter (! ·.isEmpty))

end Storefront
