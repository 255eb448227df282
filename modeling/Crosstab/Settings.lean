import Crosstab.Json.Record
import Crosstab.Report.Engine
import Crosstab.Toml.Reader

/-!
# Settings

Settings say which engine makes a report unless another one is asked for, and where the engines find
their data.  They are kept in a file; texts in it may name environment variables, whose values are
put in when the settings are used.

Files and environment variables belong to a `Host`, whose operations are those of some monad.
-/

namespace Crosstab

/-- What is found under the path of a file. -/
inductive Found where
  /-- There is nothing. -/
  | nothing
  /-- There is something that does not read, for a reason. -/
  | unreadable (reason : String)
  /-- There is a text. -/
  | text (content : String)
  deriving DecidableEq, Repr

/-- What surrounds a program. -/
structure Host (m : Type → Type) where
  /-- The value of an environment variable, if it has one. -/
  lookup : String → m (Option String)
  /-- What is found under a path. -/
  read : String → m Found

/-- Why settings cannot be used. -/
inductive SettingsError where
  /-- There is no file under the path. -/
  | notFound (path : String)
  /-- The file cannot be read. -/
  | unreadable (reason : String)
  /-- The text of the file is not that of settings. -/
  | malformed
  /-- A text names a variable without a value. -/
  | missingVariable (name : String)
  /-- A setting of the warehouse is blank. -/
  | blank (field : String)
  deriving DecidableEq, Repr

/-- The error in words. -/
def SettingsError.message : SettingsError → String
  | .notFound path => "Config file not found: " ++ path
  | .unreadable reason => "Failed to read config file: " ++ reason
  | .malformed => "Failed to parse config file: not a settings file"
  | .missingVariable name => "Missing environment variable: " ++ name
  | .blank field => "Invalid configuration: warehouse." ++ field ++ " is required"

/-- Computations that fail for reasons of settings. -/
abbrev WithSettings (m : Type → Type) := ExceptT SettingsError m

/-! ## Variables in texts -/

/-- A part of a text. -/
inductive Piece where
  /-- A character that stands for itself. -/
  | char (c : Char)
  /-- The name of a variable. -/
  | variable (name : String)
  deriving DecidableEq, Repr

/-- Whether a character may be part of the bare name of a variable. -/
def isVariableChar (c : Char) : Bool := Text.isAlphanumeric c || c = '_'

/-- The piece of a dollar sign and a name; without a name the sign stands for itself. -/
def dollar (name : List Char) : Piece :=
  if name.isEmpty then .char '$' else .variable (String.ofList name)

/-- The pieces of a text.  The name of a variable follows a dollar sign, bare or in braces; a brace
that is not closed reaches to the end. -/
def pieces : Nat → List Char → List Piece
  | 0, _ => []
  | _, [] => []
  | fuel + 1, '$' :: '\x7b' :: rest =>
    dollar (rest.takeWhile (· ≠ '\x7d')) :: pieces fuel ((rest.dropWhile (· ≠ '\x7d')).drop 1)
  | fuel + 1, '$' :: rest =>
    dollar (rest.takeWhile isVariableChar) :: pieces fuel (rest.dropWhile isVariableChar)
  | fuel + 1, c :: rest => .char c :: pieces fuel rest

section

variable {m : Type → Type} [Monad m]

/-- The text that a piece stands for. -/
def Piece.value (h : Host m) : Piece → WithSettings m String
  | .char c => pure (String.singleton c)
  | .variable name => do
    match ← h.lookup name with
    | some value => return value
    | none => throw (.missingVariable name)

/-- Puts in the values of the variables that a text names. -/
def Host.expand (h : Host m) (s : String) : WithSettings m String := do
  return String.join (← (pieces s.length s.toList).mapM (Piece.value h))

end

/-! ## Settings -/

/-- The engine of a name; upper and lower case are not told apart.  The error is the wording for a
name that is none. -/
def Site.ofName (s : String) : Except String Site :=
  let names := [("duckdb", Site.embedded), ("bigquery", .warehouse)] ++ all.map fun t => (t.name, t)
  match names.lookup (Text.lower s) with
  | some t => .ok t
  | none => .error ("unknown engine: " ++ s)

/-- The settings of the warehouse, with variables in them. -/
structure WarehouseSettings where
  project : Option String := none
  dataset : Option String := none
  table : Option String := none
  location : Option String := none
  credentials : Option String := none
  deriving DecidableEq, Repr

/-- The settings of a program. -/
structure Settings where
  /-- The engine that makes reports. -/
  engine : Site := .here
  /-- Where the embedded database keeps its data, with variables in it. -/
  location : Option String := none
  /-- The settings of the warehouse. -/
  warehouse : WarehouseSettings := {}
  deriving DecidableEq, Repr

namespace Settings

/-! ## Structured form -/

/-- Opens a section; items of an array past the declared fields are ignored. -/
def open? (names : List String) : Json → Option Json.Record
  | .array items => Json.Record.open? names (.array (items.take names.length))
  | value => Json.Record.open? names value

/-- The engine of a structured value: its name, or a table with the name as its only key and nothing
in it. -/
def siteOf? : Json → Option Site
  | .string s => Site.all.find? (·.name == s)
  | .object [(s, .object [])] => Site.all.find? (·.name == s)
  | .object [(s, .array [])] => Site.all.find? (·.name == s)
  | _ => none

/-- The engine of its section. -/
def engineOf? (value : Json) : Option Site := do
  (← open? ["default"] value).withDefault "default" .here siteOf?

/-- The place of the embedded database of its section. -/
def locationOf? (value : Json) : Option (Option String) := do
  (← open? ["location"] value).omissible "location" Json.string?

/-- The settings of the warehouse of their section. -/
def warehouseOf? (value : Json) : Option WarehouseSettings := do
  let r ← open? ["project", "dataset", "table", "location", "credentials"] value
  return ⟨← r.omissible "project" Json.string?, ← r.omissible "dataset" Json.string?,
    ← r.omissible "table" Json.string?, ← r.omissible "location" Json.string?,
    ← r.omissible "credentials" Json.string?⟩

/-- The settings with a structured form. -/
def ofJson? (value : Json) : Option Settings := do
  let r ← open? ["engine", "embedded", "warehouse"] value
  return ⟨← r.withDefault "engine" .here engineOf?, ← r.withDefault "embedded" none locationOf?,
    ← r.withDefault "warehouse" {} warehouseOf?⟩

/-- The structured form of settings. -/
def toJson (s : Settings) : Json :=
  let text (o : Option String) : Json := .ofOption .string o
  .object
    [("engine", .object [("default", .string s.engine.name)]),
     ("embedded", .object [("location", text s.location)]),
     ("warehouse", .object
       [("project", text s.warehouse.project), ("dataset", text s.warehouse.dataset),
        ("table", text s.warehouse.table), ("location", text s.warehouse.location),
        ("credentials", text s.warehouse.credentials)])]

/-- The settings that the text of a file spells. -/
def ofText? (s : String) : Option Settings := (Toml.read? s).bind ofJson?

/-! ## Files -/

section

variable {m : Type → Type} [Monad m]

/-- The settings of what is found under a path. -/
def ofFound (path : String) : Found → Except SettingsError Settings
  | .nothing => .error (.notFound path)
  | .unreadable reason => .error (.unreadable reason)
  | .text content => match ofText? content with
    | some s => .ok s
    | none => .error .malformed

/-- The settings of a file. -/
def load (h : Host m) (path : String) : WithSettings m Settings := do
  ofFound path (← h.read path)

/-- The settings of the first of some files that there is; without any, those of no file. -/
def loadFirst (h : Host m) : List String → WithSettings m Settings
  | [] => return {}
  | path :: rest => do
    match ← h.read path with
    | .nothing => loadFirst h rest
    | found => ofFound path found

/-- The variable that names a settings file. -/
def fileVariable : String := "TABULA_CONFIG"

/-- The settings file of a directory. -/
def localFile : String := "tabula.toml"

/-- The directory of a person's configuration files: the one that a variable names with its full
path, or one in the home directory. -/
def userDirectory? (h : Host m) : m (Option String) := do
  match ← h.lookup "XDG_CONFIG_HOME" with
  | some dir => if dir.startsWith "/" then return some dir else home
  | none => home
where
  /-- The directory within the home directory. -/
  home : m (Option String) := do
    match ← h.lookup "HOME" with
    | some dir => return if dir.isEmpty then none else some (dir ++ "/.config")
    | none => return none

/-- The settings that hold when no file is asked for. -/
def loadDefault (h : Host m) : WithSettings m Settings := do
  match ← h.lookup fileVariable with
  | some path => load h path
  | none =>
    let directory ← (userDirectory? h : m (Option String))
    let user := directory.map (· ++ "/tabula/config.toml")
    loadFirst h (localFile :: user.toList)

/-! ## Use -/

/-- A text with the values of its variables, if there is one. -/
def expanded (h : Host m) (o : Option String) : WithSettings m (Option String) := o.mapM h.expand

/-- A text with the values of its variables, which must not be blank. -/
def required (h : Host m) (field : String) (o : Option String) : WithSettings m String := do
  match ← expanded h o with
  | some value => if Text.trim value == "" then throw (.blank field) else return value
  | none => throw (.blank field)

/-- The configuration of the warehouse. -/
def warehouseConfig (h : Host m) (s : Settings) : WithSettings m Warehouse := do
  return {
    project := ← required h "project" s.warehouse.project
    dataset := ← required h "dataset" s.warehouse.dataset
    table := ← required h "table" s.warehouse.table
    location := ← expanded h s.warehouse.location
    credentials := ← expanded h s.warehouse.credentials }

end

end Settings

end Crosstab
