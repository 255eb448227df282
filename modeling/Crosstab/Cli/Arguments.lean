import Crosstab.Settings

/-!
# Arguments of the command line

A command line is a command with its words, and options in between.  An option has a long name after
two dashes and may have a letter after one dash; letters may be put together.  The value of an option
is joined to it or is the next argument, which then must not look like an option.  After two dashes
alone all arguments are words.

Arguments are read from left to right, and the first one that is wrong, or asks for help, decides.
-/

namespace Crosstab.Cli

/-- A command. -/
inductive Verb where
  | parse
  | emit
  | sql
  | run
  deriving DecidableEq, Repr

/-- All commands. -/
def Verb.all : List Verb := [.parse, .emit, .sql, .run]

/-- The name of a command. -/
def Verb.name : Verb → String
  | .parse => "parse"
  | .emit => "emit"
  | .sql => "sql"
  | .run => "run"

/-- The number of words that a command takes. -/
def Verb.words : Verb → Nat
  | .run => 2
  | _ => 1

/-- Whether the words of a command are paths. -/
def Verb.takesPaths : Verb → Bool
  | .sql => true
  | .run => true
  | _ => false

/-- An option. -/
inductive Flag where
  | config
  | verbose
  | help
  | version
  | dialect
  | engine
  deriving DecidableEq, Repr

namespace Flag

/-- The long name of an option. -/
def name : Flag → String
  | .config => "config"
  | .verbose => "verbose"
  | .help => "help"
  | .version => "version"
  | .dialect => "dialect"
  | .engine => "engine"

/-- The letter of an option. -/
def letter? : Flag → Option Char
  | .config => none
  | .verbose => some 'v'
  | .help => some 'h'
  | .version => some 'V'
  | .dialect => some 'd'
  | .engine => some 'e'

/-- Whether an option has a value. -/
def hasValue : Flag → Bool
  | .config => true
  | .dialect => true
  | .engine => true
  | _ => false

/-- Whether a text may be the value of an option. -/
def accepts (f : Flag) (value : String) : Bool :=
  match f with
  | .config => value != ""
  | .dialect => (Dialect.ofName value).isOk
  | .engine => (Site.ofName value).isOk
  | _ => false

end Flag

/-- The options of a command, or those in front of it. -/
def flagsOf : Option Verb → List Flag
  | none => [.config, .verbose, .help, .version]
  | some .parse => [.dialect, .config, .verbose, .help]
  | some .emit => [.dialect, .config, .verbose, .help]
  | some .sql => [.engine, .config, .verbose, .help]
  | some .run => [.engine, .config, .verbose, .help]

/-- Why nothing is to be done. -/
inductive Stop where
  /-- Help is asked for. -/
  | help
  /-- The version is asked for. -/
  | version
  /-- The arguments are wrong. -/
  | mistake
  deriving DecidableEq, Repr

/-- What was read so far of a command, or of what stands in front of it. -/
structure Scan where
  /-- The options with their values. -/
  flags : List (Flag × String) := []
  /-- The words. -/
  words : List String := []

namespace Scan

/-- The value of an option. -/
def value? (s : Scan) (f : Flag) : Option String := s.flags.lookup f

/-- Adds an option, which must not be there yet, with a value that it accepts. -/
def addFlag (s : Scan) (f : Flag) (value : String) : Except Stop Scan :=
  if (s.value? f).isSome || (f.hasValue && !f.accepts value) then .error .mistake
  else .ok { s with flags := s.flags ++ [(f, value)] }

/-- Adds a word to those of a command, which must not have all of them yet. -/
def addWord (s : Scan) (v : Verb) (word : String) : Except Stop Scan :=
  if s.words.length < v.words && !(v.takesPaths && word == "") then
    .ok { s with words := s.words ++ [word] }
  else .error .mistake

/-- Adds an option without a value, or does what it asks for. -/
def addSwitch (s : Scan) (f : Flag) : Except Stop Scan :=
  match f with
  | .help => .error .help
  | .version => .error .version
  | f => s.addFlag f ""

/-- Adds an option whose value is the next argument. -/
def addNext (s : Scan) (f : Flag) : List String → Except Stop (Scan × List String)
  | [] => .error .mistake
  | value :: rest =>
    if value.startsWith "-" && value != "-" then .error .mistake
    else do return (← s.addFlag f value, rest)

/-- Adds options that are given by their letters. -/
def addLetters (s : Scan) (flags : List Flag) (rest : List String) :
    List Char → Except Stop (Scan × List String)
  | [] => .ok (s, rest)
  | c :: more => match flags.find? (·.letter? == some c) with
    | none => .error .mistake
    | some f =>
      if !f.hasValue then do (← s.addSwitch f).addLetters flags rest more
      else match more with
        | [] => s.addNext f rest
        | '=' :: value => do return (← s.addFlag f (String.ofList value), rest)
        | value => do return (← s.addFlag f (String.ofList value), rest)

/-- Adds an option that is given by its long name, with or without its value. -/
def addLong (s : Scan) (flags : List Flag) (rest : List String) (text : List Char) :
    Except Stop (Scan × List String) :=
  let name := text.takeWhile (· ≠ '=')
  match flags.find? (·.name == String.ofList name), text.drop name.length with
  | none, _ => .error .mistake
  | some f, [] => if f.hasValue then s.addNext f rest else do return (← s.addSwitch f, rest)
  | some f, _ :: value =>
    if f.hasValue then do return (← s.addFlag f (String.ofList value), rest) else .error .mistake

end Scan

/-- Reads the arguments in front of the command, up to its name; `fuel` is at least the number of
arguments. -/
def scanFront : Nat → Scan → List String → Except Stop (Scan × String × List String)
  | 0, _, _ => .error .mistake
  | _, _, [] => .error .mistake
  | fuel + 1, s, arg :: rest => match arg.toList with
    | ['-', '-'] => .error .mistake
    | '-' :: '-' :: text => do
      let (s, rest) ← s.addLong (flagsOf none) rest text
      scanFront fuel s rest
    | '-' :: c :: letters => do
      let (s, rest) ← s.addLetters (flagsOf none) rest (c :: letters)
      scanFront fuel s rest
    | _ => .ok (s, arg, rest)

/-- Reads the arguments of a command; `fuel` is more than their number. -/
def scanCommand (v : Verb) : Nat → Scan → List String → Except Stop Scan
  | 0, _, _ => .error .mistake
  | _, s, [] => .ok s
  | fuel + 1, s, arg :: rest => match arg.toList with
    | ['-', '-'] => rest.foldlM (fun s word => s.addWord v word) s
    | '-' :: '-' :: text => do
      let (s, rest) ← s.addLong (flagsOf (some v)) rest text
      scanCommand v fuel s rest
    | '-' :: c :: letters => do
      let (s, rest) ← s.addLetters (flagsOf (some v)) rest (c :: letters)
      scanCommand v fuel s rest
    | _ => do scanCommand v fuel (← s.addWord v arg) rest

/-! ## Commands -/

/-- What is to be done. -/
inductive Command where
  /-- Print the tree of a clause. -/
  | parse (c : Clause)
  /-- Print a clause as it is written in its dialect. -/
  | emit (c : Clause)
  /-- Print the statement of the report whose specification is under a path. -/
  | sql (spec : String) (engine : Option Site)
  /-- Print the report of two paths: its specification and its data. -/
  | run (spec data : String) (engine : Option Site)
  deriving Repr

/-- A command and the settings file that it asks for. -/
structure Invocation where
  config : Option String
  command : Command
  deriving Repr

/-- The dialect of an option. -/
def Scan.dialect? (s : Scan) : Option Dialect :=
  (s.value? .dialect).bind fun name => (Dialect.ofName name).toOption

/-- The engine of an option. -/
def Scan.engine? (s : Scan) : Option Site :=
  (s.value? .engine).bind fun name => (Site.ofName name).toOption

/-- The command that arguments make. -/
def Scan.command (s : Scan) (v : Verb) : Except Stop Command :=
  match v, s.words with
  | .parse, [text] => .ok (.parse ⟨text, s.dialect?.getD .ansi⟩)
  | .emit, [text] => match s.dialect? with
    | some d => .ok (.emit ⟨text, d⟩)
    | none => .error .mistake
  | .sql, [spec] => .ok (.sql spec s.engine?)
  | .run, [spec, data] => .ok (.run spec data s.engine?)
  | _, _ => .error .mistake

/-- Help about a command, or about all of them. -/
def helpOn : List String → Stop
  | [] => .help
  | [word] => if word = "help" || Verb.all.any (·.name == word) then .help else .mistake
  | _ => .mistake

/-- What a command line asks for. -/
def Invocation.ofArguments (args : List String) : Except Stop Invocation := do
  let (front, word, rest) ← scanFront (args.length + 1) {} args
  if word = "help" then .error (helpOn rest)
  else match Verb.all.find? (·.name == word) with
    | none => .error .mistake
    | some v =>
      let s ← scanCommand v (rest.length + 1) {} rest
      return ⟨(s.value? .config).or (front.value? .config), ← s.command v⟩

end Crosstab.Cli
