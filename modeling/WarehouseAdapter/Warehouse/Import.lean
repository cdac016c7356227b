import WarehouseAdapter.Schema
import WarehouseAdapter.Warehouse.Descriptor

/-!
# Import of table descriptors

The type of a described column and the schema of a described table. A record becomes a struct of its
children, a kind without a counterpart stays unrecognized, and a repeated column becomes an array.
The partition column of a partitioned table is added as a timestamp unless it is declared.
-/

namespace WarehouseAdapter

inductive WarehouseError
  | notFound (what : String)
  | remote (text : String)
  | emptyRecord (field : String)
  | schema (error : SchemaError)
deriving DecidableEq, Repr

namespace WarehouseError

def message : WarehouseError → String
  | notFound what => s!"Not found: {what}"
  | remote text => s!"Warehouse error: {text}"
  | emptyRecord field => s!"RECORD field '{field}' declares no child fields"
  | schema error => error.message

def isNotFound : WarehouseError → Bool
  | notFound _ => true
  | _ => false

end WarehouseError

/-- A step on schemas as a step on the side of the warehouse. -/
def liftSchema {α : Type} (r : Except SchemaError α) : Except WarehouseError α :=
  r.mapError .schema

def isRecordKind (kind : String) : Bool := kind == "RECORD" || kind == "STRUCT"

/-- The standard spelling of a kind. -/
def standardKind (kind : String) : String :=
  match kind with
  | "INTEGER" => "INT64"
  | "FLOAT" => "FLOAT64"
  | "BOOLEAN" => "BOOL"
  | kind => kind

def primitiveOfKind? (kind : String) : Option Primitive :=
  match kind with
  | "INT64" => some .int64
  | "FLOAT64" => some .double
  | "BOOL" => some .boolean
  | "STRING" => some .string
  | "DATE" => some .date
  | "DATETIME" => some .timestamp
  | "TIME" => some .time
  | "TIMESTAMP" => some .timestamp
  | "BYTES" => some .binary
  | _ => none

/-- The type of a kind that is not a record. -/
def typeOfKind (kind : String) : DataType :=
  match primitiveOfKind? (standardKind kind) with
  | some p => .primitive p
  | none => .unrecognized (standardKind kind)

def FieldMode.wrap (mode : FieldMode) (t : DataType) : DataType :=
  if mode = .repeated then .array t else t

mutual

def importType : FieldDescriptor → Except WarehouseError DataType
  | .mk name kind mode fields =>
    if isRecordKind kind then
      if fields.isEmpty then .error (.emptyRecord name)
      else do
        let children ← importFields fields
        return mode.wrap (← liftSchema (DataType.ofFields children))
    else .ok (mode.wrap (typeOfKind kind))

def importFields : List FieldDescriptor → Except WarehouseError (List (String × DataType))
  | [] => .ok []
  | field :: rest => do
    let t ← importType field
    return (field.name, t) :: (← importFields rest)

end

/-- Declared columns followed by the partition column where it is not declared. -/
def withPartition (partition : Option String) (columns : List (String × DataType)) :
    List (String × DataType) :=
  match partition with
  | some name =>
    if (columns.map Prod.fst).contains name then columns else columns ++ [(name, .timestamp)]
  | none => columns

def importSchema (t : TableDescriptor) : Except WarehouseError Schema := do
  let columns ← importFields t.fields
  liftSchema (Schema.ofColumns (withPartition t.partitionColumn? columns))

end WarehouseAdapter
