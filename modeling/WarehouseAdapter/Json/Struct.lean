import WarehouseAdapter.Json.Basic

/-!
# Documents with fixed members

An object is read for known members, each given at most once, and its other members are passed over.
An array may stand for it, with the members by position.
-/

namespace WarehouseAdapter.Json

/-- The member of a key: outside `none` when it is repeated, inside `none` when it is absent. -/
def member? (members : List (String × Json)) (key : String) : Option (Option Json) :=
  match members.filter fun m => m.1 == key with
  | [] => some none
  | [m] => some (some m.2)
  | _ => none

/-- The known members of a document in the order of their keys. -/
def knownMembers? (keys : List String) : Json → Option (List (Option Json))
  | object members => keys.mapM (member? members)
  | array items =>
    if items.length ≤ keys.length then
      some (items.map some ++ List.replicate (keys.length - items.length) none)
    else none
  | _ => none

def string? : Json → Option String
  | string s => some s
  | _ => none

def optionalString? : Json → Option (Option String)
  | null => some none
  | string s => some (some s)
  | _ => none

def requiredString? (j : Option Json) : Option String := j.bind string?

end WarehouseAdapter.Json
