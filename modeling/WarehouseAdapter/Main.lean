import WarehouseAdapter.CommandLine.Arguments

/-!
# The program

Reads the files and variables that an invocation names and prints what it answers.
-/

namespace WarehouseAdapter

def usage : String :=
  "usage: import --table FILE\n" ++
  "       infer --csv FILE [--lenient] [--keep-nulls] [--override NAME=TYPE]...\n" ++
  "       bind --name NAME --type TYPE --value JSON\n" ++
  "Each command takes [--config FILE].\n"

def readContent (path : String) : IO FileContent :=
  try
    return some (← IO.FS.readFile path)
  catch _ => return none

def Command.load : Command String → IO (Command FileContent)
  | importTable path => return importTable (← readContent path)
  | infer path lenient keepNulls overrides =>
    return infer (← readContent path) lenient keepNulls overrides
  | bind name type value => return bind name type value

def Invocation.load (inv : Invocation String) : IO (Invocation FileContent) :=
  return ⟨← inv.config.mapM readContent, ← inv.command.load⟩

/-- The variables of the environment that configure. -/
def configVariables : List String :=
  ["WHARF_PARTITION_COL", "WHARF_STRICT_INFERENCE", "WHARF_AGGRESSIVE_NULL",
    "WHARF_BILLING_PROJECT"]

def readVariables : IO (List (String × String)) :=
  configVariables.filterMapM fun name =>
    return (← IO.getEnv name).map fun value => (name, value)

end WarehouseAdapter

open WarehouseAdapter in
def main (arguments : List String) : IO UInt32 := do
  match Invocation.ofArguments? arguments with
  | none =>
    IO.eprint usage
    return 2
  | some inv =>
    let environment ← readVariables
    let o := (← inv.load).output fun name => environment.lookup name
    IO.print o.out
    IO.eprint o.err
    return o.exitCode.toUInt32
