import Storefront.Json.Reader
import Storefront.Record.Field
/-!
# Settings

What a storefront is configured with. Settings come from given values and, for what is not given,
from the variables of an environment; what neither has is set to a default. The names of variables
are read in any case. All values are read like the fields of a record; a variable that holds a list
must hold it as JSON.
-/

namespace Storefront

/-- Where the stores are kept. -/
inductive StorageBackend where
  | database
  | memory
  deriving DecidableEq, Repr

namespace StorageBackend

/-- The name of a backend. -/
def name : StorageBackend → String
  | .database => "supabase"
  | .memory => "memory"

/-- Read a backend: case and blanks around it do not matter. -/
def read : Reader StorageBackend
  | .str text =>
    match Text.trim (Text.lower text) with
    | "supabase" => .valid .database
    | "memory" => .valid .memory
    | _ => .fail .refused
  | _ => .fail .stringType

end StorageBackend

/-- The settings of a storefront. -/
structure Settings where
  environment : String
  debug : Bool
  host : String
  port : Int
  workers : Int
  allowedOrigins : List String
  storageBackend : StorageBackend
  databaseUrl : String
  databaseKey : String
  searchProcedure : String
  apiKey : String
  embeddingModel : String
  embeddingTimeout : Float
  intentModel : String
  intentRouterEnabled : Bool
  intentTimeout : Float
  retrievalTimeout : Float
  lookupTimeout : Float
  lookupWorkers : Int
  mixHomeFeed : Bool

namespace Settings

/-- Read allowed origins: a list, or text with commas. -/
def readOrigins : Reader (List String)
  | .str text => .valid ((text.splitOn ",").map Text.trim)
  | value => Reader.list Reader.text value

/-- The origins that are allowed by default. -/
def defaultOrigins : List String :=
  ["http://localhost:3000", "http://localhost:5173", "http://127.0.0.1:3000",
    "http://127.0.0.1:5173"]

/-- Read settings from a row. -/
def read (row : Row) : Checked Settings :=
  Settings.mk <$> row.withDefault "environment" Reader.text "development"
    <*> row.withDefault "debug" Reader.bool false
    <*> row.withDefault "host" Reader.text "0.0.0.0"
    <*> row.withDefault "port" Reader.int 8080
    <*> row.withDefault "workers" Reader.int 4
    <*> row.withDefault "cors_origins" readOrigins defaultOrigins
    <*> row.withDefault "storage_backend" StorageBackend.read .database
    <*> row.withDefault "supabase_url" Reader.text ""
    <*> row.withDefault "supabase_service_key" Reader.text ""
    <*> row.withDefault "vector_search_rpc" Reader.text "match_catalog_items"
    <*> row.withDefault "openai_api_key" Reader.text ""
    <*> row.withDefault "embedding_model" Reader.text "text-embedding-3-small"
    <*> row.withDefault "embedding_timeout_seconds" Reader.float 10.0
    <*> row.withDefault "intent_model" Reader.text "gpt-4o"
    <*> row.withDefault "intent_router_enabled" Reader.bool true
    <*> row.withDefault "intent_timeout_seconds" Reader.float 15.0
    <*> row.withDefault "retrieval_timeout_seconds" Reader.float 2.0
    <*> row.withDefault "vendor_lookup_timeout_seconds" Reader.float 1.5
    <*> row.withDefault "vendor_lookup_max_workers" Reader.int 8
    <*> row.withDefault "mix_home_feed" Reader.bool true

/-- Settings as a record. -/
def toRow (settings : Settings) : Row :=
  [("environment", .str settings.environment),
    ("debug", .bool settings.debug),
    ("host", .str settings.host),
    ("port", .int settings.port),
    ("workers", .int settings.workers),
    ("cors_origins", Json.ofTexts settings.allowedOrigins),
    ("storage_backend", .str settings.storageBackend.name),
    ("supabase_url", .str settings.databaseUrl),
    ("supabase_service_key", .str settings.databaseKey),
    ("vector_search_rpc", .str settings.searchProcedure),
    ("openai_api_key", .str settings.apiKey),
    ("embedding_model", .str settings.embeddingModel),
    ("embedding_timeout_seconds", .float settings.embeddingTimeout),
    ("intent_model", .str settings.intentModel),
    ("intent_router_enabled", .bool settings.intentRouterEnabled),
    ("intent_timeout_seconds", .float settings.intentTimeout),
    ("retrieval_timeout_seconds", .float settings.retrievalTimeout),
    ("vendor_lookup_timeout_seconds", .float settings.lookupTimeout),
    ("vendor_lookup_max_workers", .int settings.lookupWorkers),
    ("mix_home_feed", .bool settings.mixHomeFeed)]

/-- The names of all settings. -/
def names : List String :=
  ["environment", "debug", "host", "port", "workers", "cors_origins", "storage_backend",
    "supabase_url", "supabase_service_key", "vector_search_rpc", "openai_api_key",
    "embedding_model", "embedding_timeout_seconds", "intent_model", "intent_router_enabled",
    "intent_timeout_seconds", "retrieval_timeout_seconds", "vendor_lookup_timeout_seconds",
    "vendor_lookup_max_workers", "mix_home_feed"]

/-- The settings whose variables hold JSON. -/
def isStructured (name : String) : Bool := name == "cors_origins"

/-- The value of a setting in an environment; of variables that differ in case only, the last one
counts, and a JSON null counts as no value. -/
def fromVariable (environment : List (String × String)) (name : String) :
    Except Fault (Option Json) :=
  match (environment.reverse.find? fun entry => Text.lower entry.1 == name).map (·.2) with
  | none => .ok none
  | some text =>
    if isStructured name then
      match Json.parse? text with
      | none => .error (.unreadableSetting name)
      | some .null => .ok none
      | some value => .ok (some value)
    else .ok (some (.str text))

/-- The values of some settings in an environment. -/
def fromEnvironment (environment : List (String × String)) : List String → Except Fault Row
  | [] => .ok []
  | name :: rest => do
    let value ← fromVariable environment name
    let others ← fromEnvironment environment rest
    pure ((value.toList.map (name, ·)) ++ others)

/-- The settings of given values and an environment. -/
def load (environment : List (String × String)) (given : Row) : Except Fault Settings := do
  let found ← fromEnvironment environment names
  (read (found.merge given)).toExcept

/-- The values that settings for rehearsals start from. -/
def rehearsalDefaults : Row :=
  [("environment", .str "testing"), ("debug", .bool true), ("storage_backend", .str "memory"),
    ("openai_api_key", .str "")]

/-- The settings of a rehearsal. -/
def loadForRehearsal (environment : List (String × String)) (given : Row) : Except Fault Settings :=
  load environment (rehearsalDefaults.merge given)

/-- Whether the storefront is being developed. -/
def isDevelopment (settings : Settings) : Bool :=
  ["development", "dev", "local"].contains (Text.lower settings.environment)

/-- Whether the storefront serves customers. -/
def isProduction (settings : Settings) : Bool :=
  ["production", "prod"].contains (Text.lower settings.environment)

/-- Whether there is any time for looking up vendors. -/
def hasLookupTime (settings : Settings) : Bool := !decide (settings.lookupTimeout ≤ 0.0)

/-- Whether both the address and the key of the database are set. -/
def hasDatabase (settings : Settings) : Bool :=
  !settings.databaseUrl.isEmpty && !settings.databaseKey.isEmpty

end Settings

end Storefront
