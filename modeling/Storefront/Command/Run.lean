import Storefront.Call
import Storefront.Command.Arguments
import Storefront.Integrity
import Storefront.Item.Backfill
import Storefront.Json.Printer
/-!
# Commands

Two jobs for the command line: the integrity report and the backfill of style vectors. A command
ends with an exit code and what it printed; a fault of a store stops it.
-/

namespace Storefront.Command

variable {σ : Type}

/-- How a command ends. -/
structure Exit where
  code : Nat
  output : String
  deriving DecidableEq, Repr

/-- A record, printed. -/
def printed (row : Row) : String := (Json.obj row).indented ++ "\n"

/-- Lines, printed. -/
def printedLines (lines : List String) : String := String.join (lines.map (· ++ "\n"))

/-- The end of a command that is not run. -/
def stopped (help : String) : Stop → Exit
  | .help => ⟨0, help⟩
  | .misuse => ⟨2, ""⟩

namespace IntegrityReport

/-- The options of the command. -/
def specs : List Spec := [⟨"sample", .number⟩]

/-- The help for the command. -/
def help : String := printedLines
  ["usage: integrity_report [-h] [--sample SAMPLE]",
    "",
    "Catalog and vendor integrity report.",
    "",
    "options:",
    "  -h, --help       show this help message and exit",
    "  --sample SAMPLE  Number of distinct vendors to check. Default: 100"]

/-- How the command ends on arguments that it does not follow. -/
def refusal? (arguments : List String) : Option Exit :=
  match readCommandLine specs arguments with
  | .error stop => some (stopped help stop)
  | .ok _ => none

/-- Print a report; something that must be mended shows in the exit code. -/
def run (world : Collaborators σ) (arguments : List String) : Call σ Exit := do
  match readCommandLine specs arguments with
  | .error stop => pure (stopped help stop)
  | .ok given =>
    let report ← Integrity.report world ((number? given "sample").getD Integrity.defaultSample)
    pure ⟨if report.isClean then 0 else 2, printed report.toRow⟩

end IntegrityReport

namespace BackfillEmbeddings

/-- The options of the command. -/
def specs : List Spec :=
  [⟨"kind", .oneOf (Kind.all.map Kind.name)⟩, ⟨"limit", .number⟩, ⟨"dry-run", .nothing⟩]

/-- The help for the command. -/
def help : String := printedLines
  ["usage: backfill_embeddings [-h] [--kind \x7bgarment,fabric,accessory\x7d]",
    "                           [--limit LIMIT] [--dry-run]",
    "",
    "Embed catalog items that are missing a style embedding.",
    "",
    "options:",
    "  -h, --help            show this help message and exit",
    "  --kind \x7bgarment,fabric,accessory\x7d",
    "                        Only process this item type. Default: all",
    "  --limit LIMIT         Max items to embed. Default: all",
    "  --dry-run             Print canonical text for pending items instead of",
    "                        embedding them"]

/-- How the command ends on arguments that it does not follow. -/
def refusal? (arguments : List String) : Option Exit :=
  match readCommandLine specs arguments with
  | .error stop => some (stopped help stop)
  | .ok _ => none

/-- Print what a run would embed. -/
def preview (world : Collaborators σ) (kind : Option String) (limit : Option Int) :
    Call σ Exit := do
  let items ← world.listItems .everything
  pure ⟨0, printedLines ((Backfill.pending kind limit items).map Backfill.previewLine)⟩

/-- Embed the pending items, or tell which they are. Without a service that embeds texts nothing is
run. -/
def run (world : Collaborators σ) (embed : Option (String → Call σ (List Float)))
    (model : String) (now : Moment) (arguments : List String) : Call σ Exit := do
  match readCommandLine specs arguments with
  | .error stop => pure (stopped help stop)
  | .ok given =>
    let kind := choice? given "kind"
    let limit := number? given "limit"
    if isGiven given "dry-run" then preview world kind limit
    else
      match embed with
      | none => pure ⟨1, ""⟩
      | some embed =>
        let report ← Backfill.run world (fun text => some <$> embed text)
          ⟨kind, limit, model, now⟩
        pure ⟨0, printed report.toRow⟩

end BackfillEmbeddings

end Storefront.Command
