import WarehouseAdapter.DataType.Precedence
import WarehouseAdapter.Inference.Sniff
import WarehouseAdapter.Schema

/-!
# Inference of types from values

A single value has a type or none; a column has a list of candidate types: none when it cannot be
settled, one when it is, several when they conflict. Columns that are not settled are reported
together, over the whole frame.
-/

namespace WarehouseAdapter

mutual

def inferValue : Value → Except SchemaError DataType
  | .null => .ok .null
  | .bool _ => .ok .boolean
  | .int _ => .ok .int64
  | .float _ => .ok .double
  | .str _ => .ok .string
  | .bytes _ => .ok .binary
  | .date _ => .ok .date
  | .time _ => .ok .time
  | .dateTime _ => .ok .timestamp
  | .timestamp _ => .ok .timestamp
  | .timedelta _ => .ok .interval
  | .list items => do
    let types ← inferItems items
    if types.isEmpty then return .array .null
    else return .array (← DataType.highest types)
  | .record fields => do DataType.ofFields (← inferFields fields)

def inferItems : List Value → Except SchemaError (List DataType)
  | [] => .ok []
  | v :: rest => do
    let t ← inferValue v
    return t :: (← inferItems rest)

def inferFields : List (String × Value) → Except SchemaError (List (String × DataType))
  | [] => .ok []
  | (name, v) :: rest => do
    let t ← inferValue v
    return (name, t) :: (← inferFields rest)

end

structure InferOptions where
  /-- Look at every value of a mixed column and not only at the first. -/
  strict : Bool := true
  /-- Settle a column without present values as null. -/
  aggressiveNull : Bool := true
  /-- Types given beforehand; a later one for the same column comes first. -/
  overrides : List (String × DataType) := []
deriving DecidableEq, Repr

def InferOptions.override (o : InferOptions) (column : String) (t : DataType) : InferOptions :=
  { o with overrides := (column, t) :: o.overrides.filter fun p => p.1 != column }

/-- The unified type of all values, or their distinct types in order of first occurrence. -/
def strictCandidates (values : List Value) : List DataType :=
  match inferItems values with
  | .error _ => []
  | .ok types =>
    match DataType.highest types with
    | .ok t => [t]
    | .error _ => types.eraseDups

/-- The type of the first value. -/
def lenientCandidates (values : List Value) : List DataType :=
  match values with
  | [] => []
  | v :: _ => (inferValue v).toOption.toList

def inferColumn (c : Column) (strict aggressiveNull : Bool) : List DataType :=
  let present := Value.present c.values
  if aggressiveNull && present.isEmpty then [.null]
  else
    match c.dtype.type? with
    | some t => [t]
    | none =>
      let kind := SniffKind.ofValues present
      if !kind.isMixed then kind.type?.toList
      else if strict then strictCandidates present
      else lenientCandidates present

/-- The columns settled so far and the report on the others. -/
structure Inferred where
  columns : List (String × DataType) := []
  report : InferenceReport := {}
deriving DecidableEq, Repr

def Inferred.add (o : InferOptions) (r : Inferred) (c : Column) : Inferred :=
  match o.overrides.lookup c.name with
  | some t => { r with columns := r.columns ++ [(c.name, t)] }
  | none =>
    match inferColumn c o.strict o.aggressiveNull with
    | [] =>
      { r with report := { r.report with unresolved := r.report.unresolved ++ [c.name] } }
    | [t] => { r with columns := r.columns ++ [(c.name, t)] }
    | types =>
      { r with report := { r.report with ambiguous := r.report.ambiguous ++ [(c.name, types)] } }

def inferFrame (o : InferOptions) (columns : List Column) : Inferred :=
  columns.foldl (Inferred.add o) {}

def inferSchema (f : Frame) (o : InferOptions) : Except SchemaError Schema :=
  let r := inferFrame o f.columns
  if r.report.isEmpty then Schema.ofColumns r.columns
  else .error (.undetermined r.report)

end WarehouseAdapter
