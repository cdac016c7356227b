import WarehouseAdapter.CommandLine.Command

/-!
# Arguments of the command line

Words and options come in any order; the value of an option follows it or stands behind an equals
sign.
-/

namespace WarehouseAdapter

structure Arguments where
  words : List String := []
  flags : List String := []
  /-- Options with their values, in the order given. -/
  options : List (String × String) := []
deriving DecidableEq, Repr

namespace Arguments

def flagNames : List String := ["--lenient", "--keep-nulls"]

def optionNames : List String :=
  ["--config", "--table", "-t", "--csv", "--override", "--name", "--type", "--value"]

/-- The option and the value around the first equals sign of an argument. -/
def joined? (argument : String) : Option (String × String) :=
  match argument.toList.dropWhile (· != '=') with
  | _ :: value =>
    let option := String.ofList (argument.toList.takeWhile (· != '='))
    if optionNames.contains option then some (option, String.ofList value) else none
  | [] => none

def addFlag (flag : String) (a : Arguments) : Arguments := { a with flags := flag :: a.flags }

def addOption (option : String × String) (a : Arguments) : Arguments :=
  { a with options := option :: a.options }

def addWord (word : String) (a : Arguments) : Arguments := { a with words := word :: a.words }

def ofList? : List String → Option Arguments
  | [] => some {}
  | argument :: rest =>
    if flagNames.contains argument then (ofList? rest).map (addFlag argument)
    else if optionNames.contains argument then
      match rest with
      | value :: rest => (ofList? rest).map (addOption (argument, value))
      | [] => none
    else
      match joined? argument with
      | some option => (ofList? rest).map (addOption option)
      | none =>
        if argument.startsWith "-" then none else (ofList? rest).map (addWord argument)

variable (a : Arguments)

def values (option : String) : List String :=
  (a.options.filter fun o => o.1 == option).map Prod.snd

/-- The value of an option that is given once. -/
def value? (option : String) : Option String :=
  match a.values option with
  | [value] => some value
  | _ => none

def command? : Option (Command String) :=
  match a.words with
  | ["import"] => ((a.value? "--table").or (a.value? "-t")).map .importTable
  | ["infer"] => (a.value? "--csv").map fun csv =>
    .infer csv (a.flags.contains "--lenient") (a.flags.contains "--keep-nulls")
      (a.values "--override")
  | ["bind"] => do return .bind (← a.value? "--name") (← a.value? "--type") (← a.value? "--value")
  | _ => none

end Arguments

def Invocation.ofArguments? (arguments : List String) : Option (Invocation String) := do
  let a ← Arguments.ofList? arguments
  return ⟨a.value? "--config", ← a.command?⟩

end WarehouseAdapter
