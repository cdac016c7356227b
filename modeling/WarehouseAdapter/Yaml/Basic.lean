/-!
# YAML documents

A document is a scalar, a sequence or a mapping. A plain scalar may stand for null or for a truth
value; a scalar in quotes is only ever a text.
-/

namespace WarehouseAdapter

inductive Yaml
  | scalar (plain : Bool) (text : String)
  | sequence (items : List Yaml)
  | mapping (members : List (Yaml × Yaml))
deriving Repr, Inhabited

namespace Yaml

def empty : Yaml := scalar true ""

def isNullWord (s : String) : Bool :=
  s.isEmpty || s == "~" || s == "null" || s == "Null" || s == "NULL"

/-- A text or nothing. -/
def optionalText? : Yaml → Option (Option String)
  | scalar plain text => some (if plain && isNullWord text then none else some text)
  | _ => none

def bool? : Yaml → Option Bool
  | scalar true text =>
    if text = "true" ∨ text = "True" ∨ text = "TRUE" then some true
    else if text = "false" ∨ text = "False" ∨ text = "FALSE" then some false
    else none
  | _ => none

def key? : Yaml × Yaml → Option (String × Yaml)
  | (scalar _ key, value) => some (key, value)
  | _ => none

end Yaml

end WarehouseAdapter
