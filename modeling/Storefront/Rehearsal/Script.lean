import Storefront.Assistant.Request
import Storefront.Intent.Router
import Storefront.Settings
/-!
# A scripted assistant

An assistant for rehearsals: chats are answered from a list of replies, texts are embedded by a
table, and all requests are recorded. Chats and embeddings have a client each, which connects
when it is first used.
-/

namespace Storefront

/-- The vectors of texts: those of a table, else a default; some texts fail. -/
structure EmbeddingTable where
  vectors : List (String × List Float)
  default : Option (List Float)
  failing : List String

/-- The vector of a text. -/
def EmbeddingTable.embed (table : EmbeddingTable) (text : String) : Except Fault (List Float) :=
  if table.failing.contains text then .error (.unavailable "provider down")
  else
    match (table.vectors.lookup text).orElse fun _ => table.default with
    | some vector => .ok vector
    | none => .error (.unavailable "no embedding")

namespace Assistant

/-- How a chat is answered. -/
inductive Cue where
  | reply (reply : Reply)
  | failure (reason : String)

/-- The answers to come, and the requests so far, the last one first. -/
structure Script where
  cues : List Cue
  table : EmbeddingTable
  chatConnected : Bool
  embeddingConnected : Bool
  requests : List Request

namespace Script

/-- A script at its start. -/
def start (cues : List Cue) (table : EmbeddingTable) : Script := ⟨cues, table, false, false, []⟩

/-- The script after a request. -/
def record (script : Script) (request : Request) : Script :=
  { script with requests := request :: script.requests }

/-- The requests so far, in order. -/
def log (script : Script) : List Request := script.requests.reverse

/-- The script with the chat client connected. -/
def connectChat (settings : Settings) (script : Script) : Script :=
  if script.chatConnected then script
  else { script.record (.connect settings.apiKey settings.intentTimeout) with chatConnected := true }

/-- The script with the embedding client connected. -/
def connectEmbedding (settings : Settings) (script : Script) : Script :=
  if script.embeddingConnected then script
  else
    { script.record (.connect settings.apiKey settings.embeddingTimeout) with
      embeddingConnected := true }

/-- Take the next cue. -/
def nextReply (script : Script) : Except Fault Reply × Script :=
  match script.cues with
  | [] => (.error (.unavailable "no reply"), script)
  | .reply reply :: rest => (.ok reply, { script with cues := rest })
  | .failure reason :: rest => (.error (.unavailable reason), { script with cues := rest })

/-- Ask the chat model. -/
def ask (settings : Settings) (text : String) : Call Script Reply :=
  Call.ofOutcome fun script =>
    ((script.connectChat settings).record
      (.chat settings.intentModel Intent.instructions text)).nextReply

/-- Whether the assistant routes texts. -/
def routes (settings : Settings) : Bool :=
  settings.intentRouterEnabled && !settings.apiKey.isEmpty

/-- Route a text. -/
def route (settings : Settings) (text : Option String) : StateM Script Routing :=
  Intent.route (routes settings) (ask settings) text

/-- The number of entries of the vectors that stand in for missing ones. -/
def dim : Nat := 1536

/-- Whether the assistant embeds texts. -/
def embeds (settings : Settings) : Bool := !settings.apiKey.isEmpty

/-- Embed a text: without a key every text has the zero vector. -/
def embed (settings : Settings) (text : String) : Call Script (List Float) :=
  if !embeds settings then pure (List.replicate dim 0.0)
  else
    Call.ofOutcome fun script =>
      let asked := (script.connectEmbedding settings).record (.embed settings.embeddingModel text)
      match asked.table.embed text with
      | .ok vector => (.ok vector, asked)
      | .error fault => (.error (.embeddingFailed fault.message), asked)

end Script

end Assistant

end Storefront
