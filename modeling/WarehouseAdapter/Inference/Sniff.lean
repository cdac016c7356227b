import WarehouseAdapter.Frame

/-!
# Kinds of columns

What the present values of a column look like when only their kinds count, and the type that a kind
or a machine type stands for.
-/

namespace WarehouseAdapter

/-- Kind of a present value as far as columns go: lists and records are not told apart. -/
inductive ScalarKind
  | str | bytes | bool | int | float | date | time | dateTime | timedelta | nested
deriving DecidableEq, Repr

def ValueKind.scalar : ValueKind → ScalarKind
  | str => .str
  | bytes => .bytes
  | bool => .bool
  | int => .int
  | float => .float
  | date => .date
  | time => .time
  | dateTime | timestamp => .dateTime
  | timedelta => .timedelta
  | null | list | record => .nested

inductive SniffKind
  | empty | string | bytes | boolean | integer | floating | date | time | dateTime | timedelta
  | mixedIntegerFloat | mixedInteger | mixed
deriving DecidableEq, Repr

namespace SniffKind

def isMixed : SniffKind → Bool
  | mixed | mixedInteger | mixedIntegerFloat => true
  | _ => false

/-- The kind of a column of one scalar kind. -/
def ofScalar : ScalarKind → SniffKind
  | .str => string
  | .bytes => bytes
  | .bool => boolean
  | .int => integer
  | .float => floating
  | .date => date
  | .time => time
  | .dateTime => dateTime
  | .timedelta => timedelta
  | .nested => mixed

def ofScalars (kinds : List ScalarKind) : SniffKind :=
  match kinds with
  | [] => empty
  | k :: rest =>
    if rest.all (· == k) then ofScalar k
    else if kinds.all fun k => k == .int || k == .float then mixedIntegerFloat
    else if kinds.contains .int then mixedInteger
    else mixed

def ofValues (values : List Value) : SniffKind :=
  ofScalars ((Value.present values).map fun v => v.kind.scalar)

/-- The type that a kind stands for by itself. -/
def type? : SniffKind → Option DataType
  | string => some .string
  | empty => some .null
  | boolean => some .boolean
  | dateTime => some .timestamp
  | timedelta => some .interval
  | bytes => some .binary
  | _ => none

end SniffKind

/-- The type that a machine type stands for. -/
def Dtype.type? : Dtype → Option DataType
  | bool => some .boolean
  | int8 | int16 | int32 | int64 | uint8 | uint16 | uint32 | uint64 => some .int64
  | float32 | float64 => some .double
  | datetimeNs => some .timestamp
  | timedeltaNs => some .interval
  | object => none

end WarehouseAdapter
