import WarehouseAdapter.Inference.Basic

/-!
# Configuration of the adapter
-/

namespace WarehouseAdapter

structure Config where
  /-- The name under which a partition column is shown; without one it keeps its own. -/
  partitionColumn : Option String := some "PARTITIONTIME"
  strictInference : Bool := true
  aggressiveNull : Bool := true
  /-- The project to which queries are billed, where it is not the project of the data. -/
  billingProject : Option String := none
deriving DecidableEq, Repr, Inhabited

namespace Config

def inferOptions (c : Config) : InferOptions :=
  { strict := c.strictInference, aggressiveNull := c.aggressiveNull }

/-- A column name; a blank text or the word none, in any case, stands for no name. -/
def readPartitionColumn (s : String) : Option String :=
  let name := trimmed s
  if name.isEmpty || lowerAscii name == "none" then none else some name

def readBool? (s : String) : Option Bool :=
  if s = "true" then some true else if s = "false" then some false else none

/-- The defaults as changed by the variables of an environment; unreadable ones do not count. -/
def ofEnvironment (environment : String → Option String) : Config where
  partitionColumn :=
    match environment "WHARF_PARTITION_COL" with
    | some s => readPartitionColumn s
    | none => some "PARTITIONTIME"
  strictInference := ((environment "WHARF_STRICT_INFERENCE").bind readBool?).getD true
  aggressiveNull := ((environment "WHARF_AGGRESSIVE_NULL").bind readBool?).getD true
  billingProject :=
    (environment "WHARF_BILLING_PROJECT").bind fun s => if s.isEmpty then none else some s

end Config

end WarehouseAdapter
