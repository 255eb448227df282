import Crosstab.Cli.Arguments
import Crosstab.Frame.Records

/-!
# Running commands

`run` does what a command line asks for and answers with the text of its output.  The settings are
read first, then the files that the command names, and the first failure ends the run.
-/

namespace Crosstab

/-- A report as text: its tables with a blank line between them, each under the values of the
slicers that it is about. -/
def Report.render (r : Report) : String :=
  let heading (s : Slice) : String :=
    if r.slicerNames.isEmpty then ""
    else
      let labels := (r.slicerNames.zip s.key).map fun (name, value) => name ++ " = " ++ value.display
      "== " ++ ", ".intercalate labels ++ " ==\n"
  "\n".intercalate (r.slices.map fun s => heading s ++ s.table.render)

namespace Cli

/-- The output of a run. -/
structure Output where
  /-- Zero for success, one for a failure, two for wrong arguments. -/
  code : Nat := 0
  /-- What is printed. -/
  out : String := ""
  /-- What is printed about failures. -/
  err : String := ""
  deriving DecidableEq, Repr

/-- The name and version of the program. -/
def versionText : String := "tabula 0.1.0\n"

/-- How the program is used. -/
def usageText : String :=
  "Usage: tabula [OPTIONS] <COMMAND>\n\nCommands:\n"
    ++ "  parse <CLAUSE> [--dialect <DIALECT>]\n  emit <CLAUSE> --dialect <DIALECT>\n"
    ++ "  sql <SPEC> [--engine <ENGINE>]\n  run <SPEC> <DATA> [--engine <ENGINE>]\n\n"
    ++ "Options:\n  --config <CONFIG>\n  -v, --verbose\n  -h, --help\n  -V, --version\n"

/-- The output when nothing is to be done. -/
def Stop.output : Stop → Output
  | .help => { out := usageText }
  | .version => { out := versionText }
  | .mistake => { code := 2, err := usageText }

/-- Computations that fail with a text. -/
abbrev Step (m : Type → Type) := ExceptT String m

/-- Text that a failed command prints. -/
def failure (message : String) : String := "Error: " ++ message

/-- An outcome, with its error as text. -/
def ofOutcome {α : Type} (o : Outcome α) : Except String α :=
  o.mapError fun e => failure e.message

section

variable {m : Type → Type} [Monad m]

/-- A use of settings, with its error as text. -/
def withSettings {α : Type} (x : WithSettings m α) : Step m α :=
  x.adapt fun e => failure e.message

/-- The structured value of a file. -/
def readJson (h : Host m) (path : String) : Step m Json := do
  match ← h.read path with
  | .nothing =>
    throw ("Error reading file '" ++ path ++ "': No such file or directory (os error 2)")
  | .unreadable reason => throw ("Error reading file '" ++ path ++ "': " ++ reason)
  | .text content => match Json.read? content with
    | some value => return value
    | none => throw ("Error parsing '" ++ path ++ "': not a JSON value")

/-- The specification of a file. -/
def readSpec (h : Host m) (path : String) : Step m Spec := do
  ofOutcome (Spec.ofJson (← readJson h path))

/-- The statement of a report for an engine. -/
def statement (h : Host m) (settings : Settings) (s : Spec) : Site → Step m String
  | .here =>
    throw (failure
      "the local engine does not generate SQL; use --engine embedded or warehouse")
  | .embedded => ofOutcome s.embeddedSql
  | .warehouse => do
    ofOutcome (s.warehouseSql (← withSettings (settings.warehouseConfig h)))

/-- The engine for a report; there are no backends. -/
def engine (h : Host m) (settings : Settings) : Site → Step m (Engine m)
  | .here => return .here
  | .embedded => do
    let _ ← withSettings (Settings.expanded h settings.location)
    return .embedded none
  | .warehouse => do
    return .warehouse (← withSettings (settings.warehouseConfig h)) none

/-- Does what a command asks for; the answer is what is printed. -/
def perform (h : Host m) (settings : Settings) : Command → Step m String
  | .parse c => do return (← ofOutcome c.parsed).structured.pretty ++ "\n"
  | .emit c => do return (← ofOutcome ((c.parsed).bind (PlainCondition.sql c.dialect))) ++ "\n"
  | .sql spec site => do
    let s ← readSpec h spec
    return (← statement h settings s (site.getD settings.engine)) ++ "\n"
  | .run spec data site => do
    let s ← readSpec h spec
    let records ← readJson h data
    let frame ← ofOutcome (Frame.ofRecords records)
    let e ← engine h settings (site.getD settings.engine)
    let (_, report) ← (e.run (.ofFrame frame) s : m _)
    return (← ofOutcome report).render

/-- Reads the settings and does what a command asks for. -/
def invoke (h : Host m) (i : Invocation) : Step m String := do
  let loaded := match i.config with
    | some path => Settings.load h path
    | none => Settings.loadDefault h
  let settings ← ExceptT.adapt (fun e => "Error loading settings: " ++ e.message) loaded
  perform h settings i.command

/-- Does what a command line asks for. -/
def run (h : Host m) (args : List String) : m Output := do
  match Invocation.ofArguments args with
  | .error stop => return stop.output
  | .ok i => match ← (invoke h i).run with
    | .ok text => return { out := text }
    | .error text => return { code := 1, err := text ++ "\n" }

end

end Cli

end Crosstab
