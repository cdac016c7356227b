import WarehouseAdapter.Calendar.Reading
import WarehouseAdapter.Frame
import WarehouseAdapter.Schema

/-!
# Coercion of values and frames

A value is converted to a declared type; a missing value passes as null through every type. A record
gives up the first pair of each declared name, in declared order, and must then be used up. A frame
is reshaped by taking out its columns in schema order, where the last column moves into the place of
the one taken out.
-/

namespace WarehouseAdapter

/-- The whole number of a float, where it fits. -/
def Double.toInt64? (x : Double) : Option Int64 := x.toInt?.bind int64?

def coercePrimitive (p : Primitive) (v : Value) : Except CoercionFault Value :=
  match p, v with
  | .boolean, .bool b => .ok (.bool b)
  | .int64, .int n => .ok (.int n)
  | .int64, .float x =>
    match x.toInt64? with
    | some n => .ok (.int n)
    | none => .error (.mismatch .float .int64)
  | .double, .float x => .ok (.float x)
  | .double, .int n => .ok (.float (Double.ofInt n.toInt))
  | .string, .str s => .ok (.str s)
  | .binary, .bytes data => .ok (.bytes data)
  | .time, .time t => .ok (.time t)
  | .interval, .timedelta d => .ok (.timedelta d)
  | .date, .date d => .ok (.date d)
  | .date, .dateTime dt => .ok (.date dt.date)
  | .date, .timestamp ts => .ok (.date ts.utc.date)
  | .date, .str s =>
    match DateTime.ofText? s with
    | some dt => .ok (.date dt.date)
    | none => .error (.notDate s)
  | .timestamp, .timestamp ts => .ok (.timestamp ts)
  | .timestamp, .dateTime dt => .ok (.timestamp ⟨dt⟩)
  | .timestamp, .date d => .ok (.timestamp ⟨.atMidnight d⟩)
  | .timestamp, .str s =>
    match Timestamp.ofText? s with
    | some ts => .ok (.timestamp ts)
    | none => .error (.notTimestamp s)
  | p, v => .error (.mismatch v.kind (.primitive p))

/-- The value of the first pair with a key, or null, and the other pairs. -/
def takeField (name : String) : List (String × Value) → Value × List (String × Value)
  | [] => (.null, [])
  | (key, v) :: rest =>
    if key = name then (v, rest)
    else
      let (found, others) := takeField name rest
      (found, (key, v) :: others)

mutual

def coerce : DataType → Value → Except CoercionFault Value
  | .unrecognized _, v => .ok (if v.isNull then .null else v)
  | .primitive p, v => if v.isNull then .ok .null else coercePrimitive p v
  | .array element, v =>
    if v.isNull then .ok .null
    else
      match v with
      | .list items => (items.mapM (coerce element)).map .list
      | v => .error (.mismatch v.kind (.array element))
  | .struct fields, v =>
    if v.isNull then .ok .null
    else
      match v with
      | .record pairs => do
        let (out, left) ← coerceFields fields pairs
        match left with
        | [] => return .record out
        | (name, _) :: _ => throw (.undeclaredField name (.struct fields))
      | v => .error (.mismatch v.kind (.struct fields))

/-- The converted declared fields, and the pairs that no field has taken. -/
def coerceFields : List (String × DataType) → List (String × Value) →
    Except CoercionFault (List (String × Value) × List (String × Value))
  | [], pairs => .ok ([], pairs)
  | (name, t) :: rest, pairs => do
    let (v, others) := takeField name pairs
    let w ← coerce t v
    let (out, left) ← coerceFields rest others
    return ((name, w) :: out, left)

end

/-- The machine type of a column of a declared type. -/
def DataType.dtype : DataType → Dtype
  | .primitive .boolean => .bool
  | .primitive .int64 => .int64
  | .primitive .double => .float64
  | .primitive .timestamp => .datetimeNs
  | .primitive .interval => .timedeltaNs
  | _ => .object

/-- Takes out the element at an index; the last element moves into its place. -/
def swapRemove {α : Type} (xs : List α) (i : Nat) : List α :=
  match xs.getLast? with
  | some last => (xs.set i last).dropLast
  | none => []

/-- The first column of a name and the columns that remain without it. -/
def takeColumn (name : String) (columns : List Column) : Option (Column × List Column) :=
  match columns.findIdx? fun c => c.name == name with
  | some i => columns[i]?.map fun c => (c, swapRemove columns i)
  | none => none

def coerceColumn (name : String) (t : DataType) (c : Column) : Except SchemaError Column :=
  match c.values.mapM (coerce t) with
  | .ok values => .ok ⟨name, t.dtype, values⟩
  | .error fault => .error (.coercion name fault)

def reshape : List (String × DataType) → List Column → Except SchemaError (List Column)
  | [], _ => .ok []
  | (name, t) :: rest, columns =>
    match takeColumn name columns with
    | none => .error (.columnNotFound name)
    | some (c, others) => do
      let out ← coerceColumn name t c
      return out :: (← reshape rest others)

/-- Brings a frame into the order and the types of a schema; other columns are dropped. -/
def Schema.applyTo (s : Schema) (f : Frame) : Except SchemaError Frame :=
  (reshape s.columns f.columns).map Frame.mk

end WarehouseAdapter
