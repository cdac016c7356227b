import WarehouseAdapter.Config.Basic
import WarehouseAdapter.Json.TableCodec
import WarehouseAdapter.Json.ValueCodec
import WarehouseAdapter.Query.Execution

/-!
# Stored forms of frames, rows, expressions, parameters and configurations

Every form is read back as it is written, with its members in the written order.
-/

namespace WarehouseAdapter

def DataType.toJson (t : DataType) : Json := .string t.text

def DataType.ofStored? : Json → Option DataType
  | .string s => (parse s).toOption
  | _ => none

def valuesToJson (values : List Value) : Json := .array (Value.itemsToJson values)

namespace Column

def toJson (c : Column) : Json :=
  .object [("name", .string c.name), ("dtype", .string c.dtype.name),
    ("values", valuesToJson c.values)]

def ofStored? : Json → Option Column
  | .object [("name", .string name), ("dtype", .string dtype), ("values", .array values)] => do
    return ⟨name, ← Dtype.ofName? dtype, ← Value.ofStoredItems? values⟩
  | _ => none

end Column

namespace Frame

def toJson (f : Frame) : Json := .object [("columns", .array (f.columns.map Column.toJson))]

def ofStored? : Json → Option Frame
  | .object [("columns", .array columns)] => (columns.mapM Column.ofStored?).map Frame.mk
  | _ => none

end Frame

namespace ResultCursor

def toJson (c : ResultCursor) : Json :=
  .object [("columns", .array (c.columns.map .string)),
    ("rows", .array (c.rows.map valuesToJson))]

def rowOfStored? : Json → Option (List Value)
  | .array values => Value.ofStoredItems? values
  | _ => none

def ofStored? : Json → Option ResultCursor
  | .object [("columns", .array columns), ("rows", .array rows)] => do
    return ⟨← columns.mapM Json.string?, ← rows.mapM rowOfStored?⟩
  | _ => none

end ResultCursor

namespace Expr

mutual

def toJson : Expr → Json
  | column name t => tagged "Column" (.object [("name", .string name), ("data_type", t.toJson)])
  | literal v t => tagged "Literal" (.object [("value", v.toJson), ("data_type", t.toJson)])
  | parameter p =>
    tagged "Parameter" (.object [("id", .ofNat p.id.toNat), ("data_type", p.dataType.toJson)])
  | named expr name => tagged "Alias" (.object [("expr", toJson expr), ("name", .string name)])
  | call function args t =>
    tagged "Call" (.object [("function", .string function), ("args", .array (listToJson args)),
      ("data_type", t.toJson)])
  | table name schema =>
    tagged "Table" (.object [("name", .string name), ("schema", schema.toJson)])

def listToJson : List Expr → List Json
  | [] => []
  | e :: rest => toJson e :: listToJson rest

end

def parameterOf? (n : JsonNumber) (t : DataType) : Option Expr :=
  match n with
  | .integer n =>
    if 0 ≤ n ∧ n < UInt64.size then some (parameter ⟨.ofNat n.toNat, t⟩) else none
  | .float _ => none

mutual

def ofStored? : Json → Option Expr
  | .object [("Column", .object [("name", .string name), ("data_type", t)])] => do
    return column name (← DataType.ofStored? t)
  | .object [("Literal", .object [("value", v), ("data_type", t)])] => do
    return literal (← Value.ofStored? v) (← DataType.ofStored? t)
  | .object [("Parameter", .object [("id", .number n), ("data_type", t)])] => do
    parameterOf? n (← DataType.ofStored? t)
  | .object [("Alias", .object [("expr", e), ("name", .string name)])] => do
    return named (← ofStored? e) name
  | .object [("Call", .object [("function", .string f), ("args", .array args),
      ("data_type", t)])] => do
    return call f (← listOfStored? args) (← DataType.ofStored? t)
  | .object [("Table", .object [("name", .string name), ("schema", s)])] => do
    return table name (← Schema.ofJson? s)
  | _ => none

def listOfStored? : List Json → Option (List Expr)
  | [] => some []
  | j :: rest => do return (← ofStored? j) :: (← listOfStored? rest)

end

end Expr

namespace WireValue

def toJson : WireValue → Json
  | string s => tagged "String" (.string s)
  | int64 n => tagged "Int64" (.ofInt n.toInt)
  | float64 x => tagged "Float64" x.toJson
  | bool b => tagged "Bool" (.bool b)
  | timestamp ts => tagged "Timestamp" (.string ts.text)
  | date d => tagged "Date" (.string d.text)

def ofStored? : Json → Option WireValue
  | .object [("String", .string s)] => some (string s)
  | .object [("Int64", j)] => (Value.integer? j).map int64
  | .object [("Float64", j)] => (Value.double? j).map float64
  | .object [("Bool", .bool b)] => some (bool b)
  | .object [("Timestamp", .string s)] => (Timestamp.ofChars? s.toList).map timestamp
  | .object [("Date", .string s)] => (Date.ofChars? s.toList).map date
  | _ => none

end WireValue

namespace BoundParameter

mutual

def toJson : BoundParameter → Json
  | scalar name t v =>
    .object [("kind", .string "scalar"), ("name", .string name), ("type", .string t.tag),
      ("value", v.toJson)]
  | array name t values =>
    .object [("kind", .string "array"), ("name", .string name), ("element_type", .string t.tag),
      ("values", .array (values.map WireValue.toJson))]
  | struct name fields =>
    .object [("kind", .string "struct"), ("name", .string name),
      ("fields", .array (listToJson fields))]

def listToJson : List BoundParameter → List Json
  | [] => []
  | b :: rest => toJson b :: listToJson rest

end

mutual

def ofStored? : Json → Option BoundParameter
  | .object [("kind", .string "scalar"), ("name", .string name), ("type", .string t),
      ("value", v)] => do
    return scalar name (← WireType.ofTag? t) (← WireValue.ofStored? v)
  | .object [("kind", .string "array"), ("name", .string name), ("element_type", .string t),
      ("values", .array values)] => do
    return array name (← WireType.ofTag? t) (← values.mapM WireValue.ofStored?)
  | .object [("kind", .string "struct"), ("name", .string name), ("fields", .array fields)] => do
    return struct name (← listOfStored? fields)
  | _ => none

def listOfStored? : List Json → Option (List BoundParameter)
  | [] => some []
  | j :: rest => do return (← ofStored? j) :: (← listOfStored? rest)

end

end BoundParameter

namespace Config

def toJson (c : Config) : Json :=
  .object [("partition_col", .ofOption .string c.partitionColumn),
    ("strict_inference", .bool c.strictInference), ("aggressive_null", .bool c.aggressiveNull),
    ("billing_project", .ofOption .string c.billingProject)]

def ofStored? : Json → Option Config
  | .object [("partition_col", partition), ("strict_inference", .bool strict),
      ("aggressive_null", .bool aggressive), ("billing_project", billing)] => do
    return ⟨← partition.optionalString?, strict, aggressive, ← billing.optionalString?⟩
  | _ => none

end Config

end WarehouseAdapter
