import Storefront.Item.Writer
import Storefront.Record.Field
/-!
# Users

What a user has stated, and the profile that is kept of a user.
-/

namespace Storefront

/-- The preferences a user has stated. Measurements keep the order in which they were given. -/
structure Preferences where
  userId : String
  wears : Option String
  aesthetics : List String
  bodyFit : List String
  measurements : List (String × Float)
  blockedVendors : List String
  gender : Option String

namespace Preferences

/-- Read stated preferences. -/
def read (row : Row) : Checked Preferences :=
  Preferences.mk <$> row.required "user_id" Reader.text
    <*> row.optional "wears_preference" Reader.text
    <*> row.withDefault "aesthetic_preferences" (Reader.list Reader.text) []
    <*> row.withDefault "body_fit" (Reader.list Reader.text) []
    <*> row.withDefault "measurements" (Reader.mapping Reader.float) []
    <*> row.withDefault "blocked_vendors" (Reader.list Reader.text) []
    <*> row.optional "gender" Reader.text

/-- Stated preferences as a record. -/
def toRow (preferences : Preferences) : Row :=
  [("user_id", .str preferences.userId),
    ("wears_preference", Json.ofOption .str preferences.wears),
    ("aesthetic_preferences", Json.ofTexts preferences.aesthetics),
    ("body_fit", Json.ofTexts preferences.bodyFit),
    ("measurements", .obj (preferences.measurements.map fun (name, size) => (name, .float size))),
    ("blocked_vendors", Json.ofTexts preferences.blockedVendors),
    ("gender", Json.ofOption .str preferences.gender)]

/-- A label in front of a value. -/
def labelled (label value : String) : String := label ++ ": " ++ value

/-- The stated preferences as a text that can be embedded, if there are any. -/
def text? (preferences : Preferences) : Option String :=
  let wears := (preferences.wears.filter (! ·.isEmpty)).toList.map (labelled "Wears")
  let aesthetics :=
    if preferences.aesthetics.isEmpty then []
    else [labelled "Aesthetics" (", ".intercalate preferences.aesthetics)]
  let fit :=
    if preferences.bodyFit.isEmpty then []
    else [labelled "Fit preference" (", ".intercalate preferences.bodyFit)]
  match wears ++ aesthetics ++ fit with
  | [] => none
  | parts => some (". ".intercalate parts)

end Preferences

/-- The profile kept of a user: replaced as a whole by every computation that finds one. -/
structure ProfileRecord where
  userId : String
  style : List Float
  fit : Option (List Float)
  scalars : Row
  version : String
  lastUpdated : Moment

namespace ProfileRecord

/-- The version of the profiles computed here. -/
def currentVersion : String := "v1"

/-- Read a profile; `now` is the moment of a profile that names none. -/
def read (now : Moment) (row : Row) : Checked ProfileRecord :=
  ProfileRecord.mk <$> row.required "user_id" Reader.text
    <*> row.withDefault "u_style" (Reader.list Reader.float) []
    <*> row.optional "u_fit" (Reader.list Reader.float)
    <*> row.withDefault "scalars" Reader.row []
    <*> row.withDefault "version" Reader.text currentVersion
    <*> row.withDefault "last_updated" Reader.moment now

/-- A profile as a record. -/
def toRow (profile : ProfileRecord) : Row :=
  [("user_id", .str profile.userId),
    ("u_style", Json.ofFloats profile.style),
    ("u_fit", Json.ofOption Json.ofFloats profile.fit),
    ("scalars", .obj profile.scalars),
    ("version", .str profile.version),
    ("last_updated", profile.lastUpdated.toJson)]

end ProfileRecord

end Storefront
