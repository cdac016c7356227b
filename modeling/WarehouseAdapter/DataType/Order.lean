import WarehouseAdapter.DataType.Basic

/-!
# The order of types

Primitives come before arrays, arrays before structs, structs before unrecognized kinds. Structs
are compared field by field, first by name and then by type; texts by their code points.
-/

namespace WarehouseAdapter

def Primitive.rank : Primitive → Nat
  | null => 0
  | boolean => 1
  | int64 => 2
  | double => 3
  | string => 4
  | binary => 5
  | date => 6
  | time => 7
  | timestamp => 8
  | interval => 9

def Primitive.order (p q : Primitive) : Ordering := compare p.rank q.rank

namespace DataType

mutual

def order : DataType → DataType → Ordering
  | primitive p, primitive q => p.order q
  | primitive _, array _ => .lt
  | primitive _, struct _ => .lt
  | primitive _, unrecognized _ => .lt
  | array _, primitive _ => .gt
  | array a, array b => order a b
  | array _, struct _ => .lt
  | array _, unrecognized _ => .lt
  | struct _, primitive _ => .gt
  | struct _, array _ => .gt
  | struct a, struct b => orderFields a b
  | struct _, unrecognized _ => .lt
  | unrecognized _, primitive _ => .gt
  | unrecognized _, array _ => .gt
  | unrecognized _, struct _ => .gt
  | unrecognized a, unrecognized b => compare a b

def orderFields : List (String × DataType) → List (String × DataType) → Ordering
  | [], [] => .eq
  | [], _ :: _ => .lt
  | _ :: _, [] => .gt
  | (m, s) :: a, (n, t) :: b => (compare m n).then ((order s t).then (orderFields a b))

end

def sorted (types : List DataType) : List DataType :=
  types.mergeSort fun a b => (order a b).isLE

/-- The members of a list, each once, in order. -/
def distinctSorted (types : List DataType) : List DataType := (sorted types).eraseReps

end DataType

def Primitive.distinctSorted (kinds : List Primitive) : List Primitive :=
  (kinds.mergeSort fun p q => (p.order q).isLE).eraseReps

end WarehouseAdapter
