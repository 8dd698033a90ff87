import Storefront.Settings
import Storefront.Fault
/-!
# Access to the remote database

Whether the database can be reached with the configured settings, and which stores a storefront
uses.
-/

namespace Storefront.Remote

/-- Reach the database. `refusal` is what the database says against a client with the configured
address and key, if anything. -/
def connect (settings : Settings) (refusal : Option String) : Except Fault Unit :=
  if !settings.hasDatabase then
    .error (.databaseUnreachable "SUPABASE_URL and SUPABASE_SERVICE_KEY must be set")
  else
    match refusal with
    | some reason => .error (.databaseUnreachable ("Failed to create Supabase client: " ++ reason))
    | none => .ok ()

/-- Whether the database can be reached. -/
def isReachable (settings : Settings) (refusal : Option String) : Bool :=
  (connect settings refusal).toBool

/-- The stores that a storefront uses: a database that is used must be reachable. -/
def chooseStores (settings : Settings) (refusal : Option String) : Except Fault StorageBackend :=
  match settings.storageBackend with
  | .memory => .ok .memory
  | .database => (connect settings refusal).map fun _ => .database

end Storefront.Remote
