import Storefront.Command.Run
import Storefront.Remote.Access
import Storefront.Store.Memory
/-!
# The command line

`integrity_report` and `backfill_embeddings` over the stores that the environment names. Stores in
memory are empty when the program starts, and there is no client for the remote database or for
the embedding service here.
-/

namespace Storefront

/-- The variables that settings are read from, as far as they are set. -/
def readVariables : List String → IO (List (String × String))
  | [] => pure []
  | name :: rest => do
    let plain ← IO.getEnv name
    let capital ← IO.getEnv name.toUpper
    let others ← readVariables rest
    pure ((plain.toList.map (name, ·)) ++ (capital.toList.map (name, ·)) ++ others)

/-- The commands. -/
inductive CommandName where
  | integrityReport
  | backfillEmbeddings

/-- The command with a name. -/
def CommandName.ofName? : String → Option CommandName
  | "integrity_report" => some .integrityReport
  | "backfill_embeddings" => some .backfillEmbeddings
  | _ => none

/-- How a command ends on arguments that it does not follow. -/
def CommandName.refusal? (name : CommandName) (arguments : List String) : Option Command.Exit :=
  match name with
  | .integrityReport => Command.IntegrityReport.refusal? arguments
  | .backfillEmbeddings => Command.BackfillEmbeddings.refusal? arguments

/-- Run a command over empty stores. -/
def runCommand (settings : Settings) (name : CommandName) (arguments : List String) :
    Except Fault Command.Exit :=
  let embed : Option (String → Call Memory (List Float)) :=
    if settings.apiKey.isEmpty then none
    else some fun _ => Call.ofExcept (.error (.embeddingFailed "no client"))
  let command : Call Memory Command.Exit :=
    match name with
    | .integrityReport => Command.IntegrityReport.run Memory.collaborators arguments
    | .backfillEmbeddings =>
      Command.BackfillEmbeddings.run Memory.collaborators embed settings.embeddingModel
        (Moment.ofEpochMicros 0) arguments
  (command.outcome Memory.empty).1

/-- The end of the program: what was printed, or why nothing was. Arguments are looked at before the
settings are. -/
def runWith (environment : List (String × String)) (arguments : List String) :
    Except Fault Command.Exit :=
  match arguments with
  | [] => .ok ⟨2, ""⟩
  | name :: rest =>
    match CommandName.ofName? name with
    | none => .ok ⟨2, ""⟩
    | some command =>
      match command.refusal? rest with
      | some exit => .ok exit
      | none => do
        let settings ← Settings.load environment []
        let _ ← Remote.chooseStores settings (some "no client")
        runCommand settings command rest

end Storefront

/-- Run the command that the arguments name. -/
def main (arguments : List String) : IO UInt32 := do
  let environment ← Storefront.readVariables Storefront.Settings.names
  match Storefront.runWith environment arguments with
  | .ok exit =>
    IO.print exit.output
    pure exit.code.toUInt32
  | .error fault =>
    IO.eprintln fault.message
    pure 1
