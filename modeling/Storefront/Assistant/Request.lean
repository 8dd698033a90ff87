import Storefront.Json.Basic
/-!
# Requests to the assistant

The assistant is a remote service with two abilities: it answers chats and it embeds texts. A client
connects once, when it is first needed, and then sends its requests.
-/

namespace Storefront.Assistant

/-- One request to the assistant. -/
inductive Request where
  | connect (key : String) (timeout : Float)
  | chat (model instructions text : String)
  | embed (model text : String)

/-- One message of a chat. -/
def message (role content : String) : Json :=
  .obj [("role", .str role), ("content", .str content)]

/-- A request as it is sent. -/
def Request.toJson : Request → Json
  | .connect key timeout =>
    .obj [("client", .obj [("api_key", .str key), ("timeout", .float timeout)])]
  | .chat model instructions text =>
    .obj [("chat", .obj [("model", .str model),
      ("messages", .arr [message "system" instructions, message "user" text]),
      ("response_format", .obj [("type", .str "json_object")]),
      ("temperature", .float 0.0)])]
  | .embed model text => .obj [("embed", .obj [("model", .str model), ("input", .str text)])]

/-- What comes back from a chat: the text of the first choice, which may be missing, or no choices
at all. -/
inductive Reply where
  | content (text : Option String)
  | noChoices

end Storefront.Assistant
