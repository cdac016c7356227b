import WarehouseAdapter.DataType.Order
import WarehouseAdapter.Error

/-!
# Precedence of types

`join` unifies two types to the one that both can be cast to without being asked: null casts to
everything, boolean to int64 to double, and date to timestamp. Arrays are unified by their elements,
structs with the same field names field by field. A list of types is unified from its smallest
member on, so that neither order nor repetition matters.
-/

namespace WarehouseAdapter

namespace Primitive

/-- A chain of casts and the place on it; kinds on one chain unify to the higher place. -/
def chain? : Primitive → Option (Nat × Nat)
  | boolean => some (0, 0)
  | int64 => some (0, 1)
  | double => some (0, 2)
  | date => some (1, 0)
  | timestamp => some (1, 1)
  | _ => none

def join? (p q : Primitive) : Option Primitive :=
  if p = q then some p
  else if p = null then some q
  else if q = null then some p
  else
    match p.chain?, q.chain? with
    | some (c, m), some (d, n) => if c = d then some (if n ≤ m then p else q) else none
    | _, _ => none

def join (p q : Primitive) : Except SchemaError Primitive :=
  match p.join? q with
  | some r => .ok r
  | none => .error (.incompatible (.primitive p) (.primitive q))

/-- The kind to which all of a list can be cast. -/
def highest (kinds : List Primitive) : Except SchemaError Primitive :=
  match distinctSorted kinds with
  | [] => .error .emptyTypeSet
  | p :: rest => rest.foldlM join p

end Primitive

namespace DataType

mutual

def join : DataType → DataType → Except SchemaError DataType
  | primitive p, primitive q => (p.join q).map primitive
  | primitive p, t =>
    if p = .null then .ok t else .error (.incompatible (primitive p) t)
  | t, primitive q =>
    if q = .null then .ok t else .error (.incompatible t (primitive q))
  | array a, array b => (join a b).map array
  | struct a, struct b =>
    if a.map Prod.fst = b.map Prod.fst then do ofFields (← joinFields a b)
    else .error (.incompatible (struct a) (struct b))
  | unrecognized a, unrecognized b =>
    if a = b then .ok (unrecognized a) else .error (.incompatible (unrecognized a) (unrecognized b))
  | s, t => .error (.incompatible s t)

/-- Joins fields pairwise, the names taken from the first list. -/
def joinFields : List (String × DataType) → List (String × DataType) →
    Except SchemaError (List (String × DataType))
  | (name, s) :: a, (_, t) :: b => do
    let u ← join s t
    let rest ← joinFields a b
    return (name, u) :: rest
  | _, _ => .ok []

end

/-- The type to which all of a list can be cast. -/
def highest (types : List DataType) : Except SchemaError DataType :=
  match distinctSorted types with
  | [] => .error .emptyTypeSet
  | t :: rest => rest.foldlM join t

end DataType

end WarehouseAdapter
