import Storefront.Call
import Storefront.Json.Basic
/-!
# Queries to a remote database

A query starts at a table or at a procedure and is refined by clauses. A connection sends one query
after the other and takes the database's answers as they come; both are kept, so that what was
asked can be told afterwards.
-/

namespace Storefront.Remote

/-- One refinement of a query: its name, its arguments and its options. -/
structure Clause where
  name : String
  arguments : List Json
  options : Row

/-- A query: where it starts, and how it is refined. -/
structure Query where
  start : Clause
  clauses : List Clause

/-- A clause as it is recorded. -/
def Clause.toJson (clause : Clause) : Json :=
  .arr (.str clause.name :: clause.arguments ++
    (if clause.options.isEmpty then [] else [.obj clause.options]))

namespace Query

/-- A query of a table. -/
def table (name : String) : Query := ⟨⟨"table", [.str name], []⟩, []⟩

/-- A call of a procedure. -/
def procedure (name : String) (parameters : Row) : Query :=
  ⟨⟨"rpc", [.str name, .obj parameters], []⟩, []⟩

/-- A query with one more clause. -/
def refine (query : Query) (clause : Clause) : Query :=
  { query with clauses := query.clauses ++ [clause] }

/-- Ask for some columns. -/
def select (query : Query) (columns : String) : Query :=
  query.refine ⟨"select", [.str columns], []⟩

/-- Only rows with a value in a column. -/
def whereEqual (query : Query) (column : String) (value : Json) : Query :=
  query.refine ⟨"eq", [.str column, value], []⟩

/-- Only rows with at least a value in a column. -/
def whereAtLeast (query : Query) (column : String) (value : Json) : Query :=
  query.refine ⟨"gte", [.str column, value], []⟩

/-- Rows in the order of a column. -/
def orderBy (query : Query) (column : String) (descending : Bool) : Query :=
  query.refine ⟨"order", [.str column], [("desc", .bool descending)]⟩

/-- At most so many rows. -/
def limit (query : Query) (count : Int) : Query := query.refine ⟨"limit", [.int count], []⟩

/-- Add a row. -/
def insert (query : Query) (row : Row) : Query := query.refine ⟨"insert", [.obj row], []⟩

/-- Add a row, or replace the row that agrees in a column. -/
def upsert (query : Query) (row : Row) (column : String) : Query :=
  query.refine ⟨"upsert", [.obj row], [("on_conflict", .str column)]⟩

/-- Change rows. -/
def update (query : Query) (changes : Row) : Query := query.refine ⟨"update", [.obj changes], []⟩

/-- A query as it is recorded. -/
def toJson (query : Query) : Json := .arr ((query.start :: query.clauses).map Clause.toJson)

end Query

/-- One answer of the database. -/
inductive Answer where
  | rows (rows : List Json)
  | failure (reason : String)

/-- A connection: the answers to come, and the queries sent, the last one first. -/
structure Connection where
  answers : List Answer
  sent : List Query

namespace Connection

/-- A connection that has sent nothing yet. -/
def start (answers : List Answer) : Connection := ⟨answers, []⟩

/-- Send a query. When no answers are left, no rows are found. -/
def execute (query : Query) : Call Connection (List Json) :=
  Call.ofOutcome fun connection =>
    let sent := query :: connection.sent
    match connection.answers with
    | [] => (.ok [], ⟨[], sent⟩)
    | .rows rows :: rest => (.ok rows, ⟨rest, sent⟩)
    | .failure reason :: rest => (.error (.unavailable reason), ⟨rest, sent⟩)

/-- The queries sent, in order. -/
def queries (connection : Connection) : List Query := connection.sent.reverse

end Connection

end Storefront.Remote
