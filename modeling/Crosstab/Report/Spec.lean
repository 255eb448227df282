import Crosstab.Digest.Sha256
import Crosstab.Json.Reader
import Crosstab.Json.Written
import Crosstab.Report.Dimension
import Crosstab.Report.Measure

/-!
# Specifications of reports

A `Spec` says what a report shows: its dimensions and measures, the filters before and after
grouping, and how the rows of its tables are sorted, cut and summed up.  It has a structured form,
a canonical text and a fingerprint of that text.
-/

namespace Crosstab

/-- A column that rows are sorted by. -/
structure SortKey where
  /-- The name of the column, or the part of it in front of the first separator. -/
  name : String
  /-- Whether small values come first. -/
  ascending : Bool
  deriving DecidableEq, Repr

/-- What a report shows. -/
structure Spec where
  /-- The dimensions that label rows. -/
  rows : List Dimension := []
  /-- The dimensions that are spread over columns. -/
  columns : List Dimension := []
  /-- The dimensions that divide the report into tables. -/
  slicers : List Dimension := []
  /-- The measures. -/
  metrics : List Measure := []
  /-- The filter of rows. -/
  filter : Option Condition := none
  /-- The filter of groups; it may name measures. -/
  having : Option Condition := none
  /-- What rows are sorted by. -/
  sortBy : List SortKey := []
  /-- How many rows are kept. -/
  topN : Option Nat := none
  /-- How many of these rows are kept. -/
  limit : Option Nat := none
  /-- Whether a row of totals follows. -/
  totals : Bool := false
  deriving Repr, BEq

/-! ## Conditions -/

/-- Reads every clause of a predicate and checks the flags of its regular expressions. -/
def Predicate.check {κ : Type} (h : κ → Outcome Unit) : Predicate κ → Outcome Unit
  | .join _ l r => do
    l.check h
    r.check h
  | .not p => p.check h
  | .regex _ _ flags _ => do let _ ← Pattern.normalFlags flags
  | .clause c => h c
  | .compare _ _ _ => .ok ()
  | .member _ _ => .ok ()
  | .range _ _ _ _ => .ok ()
  | .isNull _ => .ok ()
  | .like _ _ _ _ => .ok ()
termination_by structural p => p

/-- Reads every clause of a condition and checks the flags of its regular expressions. -/
def Condition.check (p : Condition) : Outcome Unit :=
  Predicate.check (fun c : Clause => do (← c.parsed).check noClauses) p

/-- The first name that stands twice in a list. -/
def firstRepeated? (seen : List String) : List String → Option String
  | [] => none
  | name :: rest => if name ∈ seen then some name else firstRepeated? (name :: seen) rest

namespace Spec

/-- All dimensions: those of rows, columns and slicers. -/
def dimensions (s : Spec) : List Dimension := s.rows ++ s.columns ++ s.slicers

/-- The names of the measures. -/
def metricNames (s : Spec) : List String := s.metrics.map (·.name)

/-! ## Building -/

/-- Adds a dimension that labels rows. -/
def addRow (s : Spec) (d : Dimension) : Spec := { s with rows := s.rows ++ [{ d with role := .row }] }

/-- Adds a dimension that is spread over columns. -/
def addColumn (s : Spec) (d : Dimension) : Spec :=
  { s with columns := s.columns ++ [{ d with role := .column }] }

/-- Adds a dimension that divides the report. -/
def addSlicer (s : Spec) (d : Dimension) : Spec :=
  { s with slicers := s.slicers ++ [{ d with role := .slicer }] }

/-- Adds a measure. -/
def addMetric (s : Spec) (m : Measure) : Spec := { s with metrics := s.metrics ++ [m] }

/-- Adds a sort key after the others. -/
def addSortKey (s : Spec) (k : SortKey) : Spec := { s with sortBy := s.sortBy ++ [k] }

/-! ## Checking -/

/-- Checks what can be checked without data: names differ, time grains are known, clauses read and
the flags of regular expressions are allowed. -/
def validate (s : Spec) : Outcome Unit := do
  match firstRepeated? [] (s.dimensions.map (·.name) ++ s.metricNames) with
  | some name => reject (.duplicateName name)
  | none =>
    s.dimensions.forM fun d => do let _ ← d.grain
    (s.filter.toList ++ s.having.toList).forM fun p => Condition.check p

/-! ## Structured form -/

/-- The structured form of a sort key. -/
def sortKeyToJson (k : SortKey) : Json :=
  .object [("name", .string k.name), ("ascending", .bool k.ascending)]

/-- The names of the fields of a sort key, in order. -/
def sortKeyFields : List String := ["name", "ascending"]

/-- The sort key with a structured form. -/
def sortKeyOfJson? (value : Json) : Option SortKey := do
  let r ← Json.Record.open? sortKeyFields value
  return ⟨← r.required "name" Json.string?, ← r.withDefault "ascending" false Json.bool?⟩

/-- The structured form of a specification, with its fields in order of their names. -/
def toJson (s : Spec) : Json :=
  Json.canonical <| .object
    [("rows", .array (s.rows.map Dimension.toJson)),
     ("columns", .array (s.columns.map Dimension.toJson)),
     ("slicers", .array (s.slicers.map Dimension.toJson)),
     ("metrics", .array (s.metrics.map Measure.toJson)),
     ("where", .ofOption Condition.structured s.filter),
     ("having", .ofOption Condition.structured s.having),
     ("sort_by", .array (s.sortBy.map sortKeyToJson)),
     ("topn", .ofOption (fun n : Nat => .whole n) s.topN),
     ("limit", .ofOption (fun n : Nat => .whole n) s.limit),
     ("totals", .bool s.totals)]

/-- The names of the fields, in order. -/
def fieldNames : List String :=
  ["rows", "columns", "slicers", "metrics", "where", "having", "sort_by", "topn", "limit",
   "totals"]

/-- The shape of a field. -/
def fieldShape (name : String) : Json.Shape :=
  if ["rows", "columns", "slicers"].contains name then .list (.plain Dimension.fieldNames)
  else if name = "sort_by" then .list (.plain sortKeyFields)
  else .any

/-- The shape of a specification.  Whatever has a tag is kept as a whole. -/
def shape : Json.Shape := .record (fieldNames.map fun name => (name, fieldShape name))

/-- Reads a specification from a value whose objects may repeat fields. -/
def read? (value : Json) : Option Spec := do
  let r ← Json.Record.open? fieldNames value
  let dimensions (name : String) : Option (List Dimension) :=
    r.withDefault name [] (Json.list? Dimension.ofJson?)
  return {
    rows := ← dimensions "rows"
    columns := ← dimensions "columns"
    slicers := ← dimensions "slicers"
    metrics := ← r.withDefault "metrics" [] (Json.list? Measure.ofJson?)
    filter := ← r.omissible "where" (Condition.ofJson? false)
    having := ← r.omissible "having" (Condition.ofJson? false)
    sortBy := ← r.withDefault "sort_by" [] (Json.list? sortKeyOfJson?)
    topN := ← r.omissible "topn" Json.count?
    limit := ← r.omissible "limit" Json.count?
    totals := ← r.withDefault "totals" false Json.bool? }

/-- The specification with a structured form. -/
def ofJson (value : Json) : Outcome Spec :=
  match read? value.canonical with
  | some s => .ok s
  | none => reject .unreadable

/-- The specification that a text spells; no object of it may repeat a declared field. -/
def ofText (text : String) : Outcome Spec :=
  match (Json.readAs? shape text).bind read? with
  | some s => .ok s
  | none => reject .unreadable

/-- The canonical text: fields in order of their names and no white space. -/
def text (s : Spec) : String := s.toJson.compact

/-- The digest of the canonical text. -/
def fingerprint (s : Spec) : String := Digest.hexText s.text

end Spec

end Crosstab
