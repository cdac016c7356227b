import WarehouseAdapter.Config.Basic
import WarehouseAdapter.Names
import WarehouseAdapter.Yaml.Reading

/-!
# Configuration documents

A configuration is written as a YAML mapping. A setting that is left out has its default, a key
that names no setting is ignored, and no setting may be given twice.
-/

namespace WarehouseAdapter.Config

def settings : List String :=
  ["partition_col", "strict_inference", "aggressive_null", "billing_project"]

def setting? {α : Type} (read? : Yaml → Option α) (standard : α) :
    Option Yaml → Option α
  | none => some standard
  | some y => read? y

def ofSettings? (given : List (String × Yaml)) : Option Config := do
  let standard : Config := {}
  return {
    partitionColumn :=
      ← setting? Yaml.optionalText? standard.partitionColumn (given.lookup "partition_col")
    strictInference :=
      ← setting? Yaml.bool? standard.strictInference (given.lookup "strict_inference")
    aggressiveNull := ← setting? Yaml.bool? standard.aggressiveNull (given.lookup "aggressive_null")
    billingProject :=
      ← setting? Yaml.optionalText? standard.billingProject (given.lookup "billing_project") }

def ofYaml? : Yaml → Option Config
  | .scalar plain text => if plain && text.isEmpty then some {} else none
  | .sequence _ => none
  | .mapping members =>
    match members.mapM Yaml.key? with
    | none => none
    | some keyed =>
      let given := keyed.filter fun (key, _) => settings.contains key
      if repeatedNames (given.map Prod.fst) = [] then ofSettings? given else none

def ofText? (source : String) : Option Config := (Yaml.ofText? source).bind ofYaml?

end WarehouseAdapter.Config
