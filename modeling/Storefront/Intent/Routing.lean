import Storefront.Json.Basic
import Storefront.Record.Field
/-!
# Routings

What a shopper asks for in free text: an intent, how sure the answer is, and the constraints found
in the text. General browsing is the routing that any failure falls back to.
-/

namespace Storefront

/-- What a text may ask for. -/
inductive Intent where
  | homeFeed
  | similar
  | fitHelp
  | occasion
  | fabricHelp
  | bespoke
  | substitution
  deriving DecidableEq, Repr

namespace Intent

/-- The name of an intent in records. -/
def name : Intent → String
  | .homeFeed => "home_feed"
  | .similar => "similar"
  | .fitHelp => "fit_help"
  | .occasion => "occasion"
  | .fabricHelp => "fabric_help"
  | .bespoke => "bespoke"
  | .substitution => "substitution"

/-- Every intent. -/
def all : List Intent :=
  [.homeFeed, .similar, .fitHelp, .occasion, .fabricHelp, .bespoke, .substitution]

/-- The intent with a name. -/
def ofName? (name : String) : Option Intent := all.find? (·.name == name)

end Intent

/-- The answer to a text. -/
structure Routing where
  intent : Intent
  confidence : Float
  constraints : Row

namespace Routing

/-- General browsing. -/
def browsing (confidence : Float) (constraints : Row) : Routing :=
  ⟨.homeFeed, confidence, constraints⟩

/-- Read a routing from a record. -/
def read (row : Row) : Checked Routing :=
  Routing.mk <$> row.required "intent"
      (Reader.oneOf (Intent.all.map fun intent => (intent.name, intent)))
    <*> row.required "confidence" Reader.float
    <*> row.withDefault "constraints" Reader.row []

/-- A routing as a record. -/
def toRow (routing : Routing) : Row :=
  [("intent", .str routing.intent.name),
    ("confidence", .float routing.confidence),
    ("constraints", .obj routing.constraints)]

end Routing

end Storefront
