import Storefront.Json.Basic
import Storefront.Fault
/-!
# Structured logging

A log line is a row: the fields bound beforehand, the fields of the call, the text of the event
and the name of its level. Lines below the configured level are not written.
-/

namespace Storefront.Log

/-- How severe a line is. -/
inductive Level where
  | unset
  | debug
  | info
  | warning
  | error
  | critical
  deriving DecidableEq, Repr

namespace Level

/-- The rank of a level. -/
def rank : Level → Nat
  | .unset => 0
  | .debug => 10
  | .info => 20
  | .warning => 30
  | .error => 40
  | .critical => 50

/-- The name of a level in lines. -/
def name : Level → String
  | .unset => "notset"
  | .debug => "debug"
  | .info => "info"
  | .warning => "warning"
  | .error => "error"
  | .critical => "critical"

/-- The names under which levels are configured, in capitals. -/
def configured : List (String × Level) :=
  [("NOTSET", .unset), ("DEBUG", .debug), ("INFO", .info), ("WARNING", .warning),
    ("WARN", .warning), ("ERROR", .error), ("CRITICAL", .critical), ("FATAL", .critical)]

/-- The level with a configured name; its case does not matter. -/
def ofName (name : String) : Except Fault Level :=
  let capitals := String.ofList (name.toList.map Char.toUpper)
  match configured.lookup capitals with
  | some level => .ok level
  | none => .error (.unknownLevel capitals)

end Level

/-- The levels of the loggers that are set apart from the rest: chatty clients are quiet. -/
def quietLoggers : List String := ["httpx", "httpcore", "openai", "postgrest", "uvicorn.access"]

/-- The rank that a logger is configured with: the empty name is the root of all loggers. -/
def rankOf (level : Level) (logger : String) : Nat :=
  if quietLoggers.contains logger then Level.warning.rank else level.rank

/-- A logger: the least level it writes, and the fields bound to every line. -/
structure Logger where
  level : Level
  bound : Row

namespace Logger

/-- A logger with nothing bound. -/
def start (level : Level) : Logger := ⟨level, []⟩

/-- Bind fields to all lines to come. -/
def bind (logger : Logger) (fields : Row) : Logger :=
  { logger with bound := logger.bound.merge fields }

/-- Drop all bound fields. -/
def clear (logger : Logger) : Logger := { logger with bound := [] }

/-- The row of a line; the fields of the call win over the bound ones. -/
def line (logger : Logger) (level : Level) (event : String) (fields : Row) : Row :=
  ((logger.bound.merge fields).put "event" (.str event)).put "level" (.str level.name)

/-- The line of a call, if it is written. -/
def write (logger : Logger) (level : Level) (event : String) (fields : Row) : Option Row :=
  if logger.level.rank ≤ level.rank then some (logger.line level event fields) else none

end Logger

end Storefront.Log
