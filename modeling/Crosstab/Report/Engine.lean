import Crosstab.Report.Grouped
import Crosstab.Report.Statement

/-!
# Engines

An `Engine` makes a report.  The first one computes it here.  The others have a backend form the
groups: an embedded database gets the dataset along with the statement, a remote warehouse reads
the table that its configuration names.

What a backend does is outside of this library: it is an operation of some monad, which takes a
statement with the tables that it may name and gives a table.
-/

namespace Crosstab

/-- A service that runs statements. -/
structure Backend (m : Type → Type) where
  /-- Runs a statement over some named tables. -/
  execute : String → List (String × Frame) → m (Outcome Frame)

/-! ## The remote table -/

/-- Where a warehouse keeps the table of a report. -/
structure Warehouse where
  project : String := ""
  dataset : String := ""
  table : String := ""
  location : Option String := none
  /-- The path of a file with credentials. -/
  credentials : Option String := none
  deriving DecidableEq, Repr

namespace Warehouse

/-- The full name of the table. -/
def qualifiedTable (w : Warehouse) : String := w.project ++ "." ++ w.dataset ++ "." ++ w.table

/-- The names of the parts of the table's name that are blank. -/
def missing (w : Warehouse) : List String :=
  [("project", w.project), ("dataset", w.dataset), ("table", w.table)].filterMap
    fun (name, value) => if Text.trim value == "" then some name else none

/-- The full name of the table, of which no part may be blank. -/
def namedTable (w : Warehouse) : Outcome String :=
  match w.missing with
  | [] => .ok w.qualifiedTable
  | names => .error (.unavailable Site.warehouse.name ("missing " ++ ", ".intercalate names))

/-- The structured form. -/
def toJson (w : Warehouse) : Json :=
  .object [("project", .string w.project), ("dataset", .string w.dataset),
    ("table", .string w.table), ("location", .ofOption .string w.location),
    ("credentials", .ofOption .string w.credentials)]

/-- The configuration with a structured form. -/
def ofJson? (value : Json) : Option Warehouse := do
  let r ← Json.Record.open? ["project", "dataset", "table", "location", "credentials"] value
  return ⟨← r.required "project" Json.string?, ← r.required "dataset" Json.string?,
    ← r.required "table" Json.string?, ← r.omissible "location" Json.string?,
    ← r.omissible "credentials" Json.string?⟩

end Warehouse

/-! ## Statements -/

/-- The name under which a database finds the dataset. -/
def datasetTable : String := "dataset"

namespace Spec

/-- The statement for an embedded database. -/
def embeddedStatement (s : Spec) (p : Plan) : Outcome String := do
  return (← s.query p .duckdb datasetTable .columns).sql .duckdb

/-- The statement for a remote warehouse. -/
def warehouseStatement (s : Spec) (w : Warehouse) (p : Plan) : Outcome String := do
  return (← s.query p .bigquery (← w.namedTable) .truncated).sql .bigquery

/-- The statement for an embedded database, planned without data. -/
def embeddedSql (s : Spec) : Outcome String := do
  s.embeddedStatement (← (s.plan .warehouse (.ofFrame .empty)).2)

/-- The statement for a remote warehouse, planned without data. -/
def warehouseSql (s : Spec) (w : Warehouse) : Outcome String := do
  s.warehouseStatement w (← (s.plan .warehouse (.ofFrame .empty)).2)

end Spec

/-! ## Running -/

/-- What makes a report. -/
inductive Engine (m : Type → Type) where
  /-- It is computed here. -/
  | here
  /-- An embedded database, if there is one. -/
  | embedded (backend : Option (Backend m))
  /-- A remote warehouse. -/
  | warehouse (config : Warehouse) (backend : Option (Backend m))

namespace Engine

variable {m : Type → Type}

/-- Where an engine forms the groups. -/
def site : Engine m → Site
  | here => .here
  | embedded _ => .embedded
  | warehouse _ _ => .warehouse

/-- What an engine asks of its backend: the statement and the tables that go with it. -/
def request (site : Site) (statement : Outcome String) (backend : Option (Backend m))
    (tables : Outcome (List (String × Frame))) :
    Outcome (Backend m × String × List (String × Frame)) := do
  let sql ← statement
  match backend with
  | none => .error (.unavailable site.name "no SQL backend configured")
  | some b => return (b, sql, ← tables)

variable [Monad m]

/-- Has a backend form the groups of a report, and pivots them. -/
def pushDown (p : Plan) (s : Spec)
    (r : Outcome (Backend m × String × List (String × Frame))) : m (Outcome Report) :=
  match r with
  | .error e => pure (.error e)
  | .ok (b, sql, tables) => do
    let reply ← b.execute sql tables
    return reply.bind fun f => f.pivot p s

/-- Makes a report that is planned. -/
def execute (e : Engine m) (ds : Dataset) (s : Spec) (p : Plan) : m (Outcome Report) :=
  match e with
  | here => pure (s.computed ds p)
  | embedded b =>
    pushDown p s (request .embedded (s.embeddedStatement p) b
      (ds.frame.map fun f => [(datasetTable, f)]))
  | warehouse w b =>
    pushDown p s (request .warehouse (s.warehouseStatement w p) b (.ok []))

/-- Plans and makes a report over a dataset; the answer holds the dataset with the columns of
buckets. -/
def run (e : Engine m) (ds : Dataset) (s : Spec) : m (Dataset × Outcome Report) :=
  match s.plan e.site ds with
  | (ds, .error err) => pure (ds, .error err)
  | (ds, .ok p) => do return (ds, ← e.execute ds s p)

end Engine

end Crosstab
