import Storefront.Assistant.Request
import Storefront.Call
import Storefront.Intent.Routing
import Storefront.Json.Number
import Storefront.Json.Reader
/-!
# Routing free text

A text is sent to a chat model that must answer with a JSON object. Whatever goes wrong, the text
is routed to general browsing; how sure that is tells the cases apart.
-/

namespace Storefront.Intent

/-- What the chat model is told. -/
def instructions : String :=
  "You are a recommendation router. Classify the user query into one intent:\n" ++
  "- home_feed: General browsing\n" ++
  "- similar: Like \"find more like this\"\n" ++
  "- fit_help: Sizing questions\n" ++
  "- occasion: \"What to wear for a wedding\"\n" ++
  "- fabric_help: About materials\n" ++
  "- bespoke: Custom tailoring requests\n" ++
  "- substitution: \"Alternative to X\"\n\n" ++
  "Return JSON only: \x7b\"intent\": string, \"constraints\": object, \"confidence\": number\x7d.\n" ++
  "Extract constraints like \"gender\", \"color\", \"occasion\", \"budget\".\n" ++
  "Do not extract constraints that are not present in the text."

/-- The least confidence of an answer that is followed. -/
def confidenceThreshold : Float := 0.7

/-- The confidence of an answer that gives none, or none that is a number. -/
def assumedConfidence : Float := 0.5

/-- The confidence of general browsing without an answer of the model. -/
def unasked : Float := 0.1

/-- The confidence of an answer; a whole number beyond the largest float is a fault. -/
def confidenceOf (answer : Row) : Except Fault Float :=
  match answer.get? "confidence" with
  | some (.int number) => (Json.int number).toFloat
  | some (.float number) => .ok number
  | _ => .ok assumedConfidence

/-- The constraints of an answer: those of an object, else none. -/
def constraintsOf (answer : Row) : Row :=
  match answer.get? "constraints" with
  | some (.obj constraints) => constraints
  | _ => []

/-- The intent of an answer; what names no intent is general browsing. -/
def intentOf (answer : Row) : Intent :=
  match answer.get? "intent" with
  | some (.str name) => (ofName? name).getD .homeFeed
  | _ => .homeFeed

/-- The routing of an answer: an unsure one is general browsing with the same constraints. -/
def routingOf (answer : Row) : Except Fault Routing :=
  (confidenceOf answer).map fun confidence =>
    if confidence < confidenceThreshold then .browsing confidence (constraintsOf answer)
    else ⟨intentOf answer, confidence, constraintsOf answer⟩

/-- The routing of what the model said, if that is a JSON object. -/
def interpret (text : String) : Option Routing :=
  match Json.parse? text with
  | some (.obj answer) => (routingOf answer).toOption
  | _ => none

/-- The routing of a reply. -/
def ofReply : Assistant.Reply → Routing
  | .noChoices => .browsing 0.0 []
  | .content none => .browsing unasked []
  | .content (some text) =>
    if text.isEmpty then .browsing unasked [] else (interpret text).getD (.browsing 0.0 [])

/-- Route a text. A blank text needs no model, and a router that is not enabled asks none. -/
def route {σ : Type} (enabled : Bool) (ask : String → Call σ Assistant.Reply)
    (text : Option String) : StateM σ Routing :=
  match text.filter fun text => !(Text.trim text).isEmpty with
  | none => pure (.browsing 1.0 [])
  | some text =>
    if !enabled then pure (.browsing unasked [])
    else do
      match ← (ask text).attempt with
      | some reply => pure (ofReply reply)
      | none => pure (.browsing 0.0 [])

end Storefront.Intent
