import WarehouseAdapter.Error

/-!
# Columns and frames

A column has a name, a machine type and values; a frame is a list of columns. A column made from
values alone takes the narrowest machine type that holds them all.
-/

namespace WarehouseAdapter

/-- Machine type of a column; any but `object` promises values of one scalar kind. -/
inductive Dtype
  | bool | int8 | int16 | int32 | int64 | uint8 | uint16 | uint32 | uint64 | float32 | float64
  | datetimeNs | timedeltaNs | object
deriving DecidableEq, Repr, Inhabited

namespace Dtype

def all : List Dtype :=
  [bool, int8, int16, int32, int64, uint8, uint16, uint32, uint64, float32, float64, datetimeNs,
    timedeltaNs, object]

def name : Dtype → String
  | bool => "bool"
  | int8 => "int8"
  | int16 => "int16"
  | int32 => "int32"
  | int64 => "int64"
  | uint8 => "uint8"
  | uint16 => "uint16"
  | uint32 => "uint32"
  | uint64 => "uint64"
  | float32 => "float32"
  | float64 => "float64"
  | datetimeNs => "datetimens"
  | timedeltaNs => "timedeltans"
  | object => "object"

def ofName? (name : String) : Option Dtype := all.find? fun d => d.name == name

def isInstant : ValueKind → Bool
  | .dateTime | .timestamp => true
  | _ => false

def isNumber : ValueKind → Bool
  | .int | .float => true
  | _ => false

/-- Machine type of the kinds of the present values, which may stand among missing ones. -/
def ofKinds (hasNull : Bool) (kinds : List ValueKind) : Dtype :=
  if kinds.isEmpty then object
  else if kinds.all (· == .bool) && !hasNull then bool
  else if kinds.all (· == .int) && !hasNull then int64
  else if kinds.all isNumber then float64
  else if kinds.all isInstant then datetimeNs
  else if kinds.all (· == .timedelta) then timedeltaNs
  else object

def ofValues (values : List Value) : Dtype :=
  ofKinds (values.any Value.isNull) ((Value.present values).map Value.kind)

end Dtype

structure Column where
  name : String
  dtype : Dtype
  values : List Value
deriving Repr, Inhabited

def Column.ofValues (name : String) (values : List Value) : Column :=
  ⟨name, Dtype.ofValues values, values⟩

def Column.equal (a b : Column) : Bool :=
  a.name == b.name && a.dtype == b.dtype && Value.equalItems a.values b.values

structure Frame where
  columns : List Column
deriving Repr, Inhabited

namespace Frame

/-- A row at the end of the columns, each value behind those of its column. -/
def pushRow : List (Array Value) → List Value → List (Array Value)
  | column :: columns, v :: row => column.push v :: pushRow columns row
  | columns, _ => columns

/-- Adds a row, given with its index, to the columns filled so far unless its width is another. -/
def addRow (width : Nat) (columns : List (Array Value)) (row : List Value × Nat) :
    Except SchemaError (List (Array Value)) :=
  if row.1.length = width then .ok (pushRow columns row.1)
  else .error (.raggedRow row.2 row.1.length width)

/-- One column for each name, filled with the rows one after another. -/
def ofRows (names : List String) (rows : List (List Value)) : Except SchemaError Frame := do
  let columns ← rows.zipIdx.foldlM (addRow names.length) (names.map fun _ => #[])
  return ⟨(names.zip columns).map fun c => Column.ofValues c.1 c.2.toList⟩

variable (f : Frame)

def rowCount : Nat := (f.columns.head?.map fun c => c.values.length).getD 0

def width : Nat := f.columns.length

def names : List String := f.columns.map Column.name

/-- The first column of a name. -/
def column? (name : String) : Option Column := f.columns.find? fun c => c.name == name

def equal (g : Frame) : Bool :=
  f.columns.length == g.columns.length &&
    (f.columns.zip g.columns).all fun (a, b) => a.equal b

end Frame

end WarehouseAdapter
