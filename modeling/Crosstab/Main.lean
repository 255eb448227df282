import Crosstab.Cli.Run

/-!
# The program

The command line over the files and environment variables of the system.
-/

namespace Crosstab

/-- What is found under the path of a file of the system. -/
def systemFile (path : String) : IO Found := do
  try return .text (← IO.FS.readFile path)
  catch
    | .noFileOrDirectory .. => return .nothing
    | e => return .unreadable e.toString

/-- The system. -/
def systemHost : Host IO := ⟨fun name => IO.getEnv name, systemFile⟩

end Crosstab

/-- Runs the program. -/
def main (args : List String) : IO UInt32 := do
  let output ← Crosstab.Cli.run Crosstab.systemHost args
  IO.print output.out
  IO.eprint output.err
  return output.code.toUInt32
