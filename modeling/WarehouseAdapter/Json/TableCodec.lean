import WarehouseAdapter.Json.Reading
import WarehouseAdapter.Json.Struct
import WarehouseAdapter.Json.Writing
import WarehouseAdapter.Schema
import WarehouseAdapter.Warehouse.Descriptor

/-!
# Schemas and table descriptors in JSON

Schemas are stored as lists of names and types as text. Table descriptors have the form in which the
warehouse's metadata service returns them; modes, children and partitioning may be left out.
-/

namespace WarehouseAdapter

namespace Schema

def toJson (s : Schema) : Json :=
  .array (s.columns.map fun c => .object [("name", .string c.1), ("type", .string c.2.text)])

def columnOfJson? (j : Json) : Option (String × DataType) := do
  match ← j.knownMembers? ["name", "type"] with
  | [name, t] =>
    let t ← Json.requiredString? t
    return (← Json.requiredString? name, ← (DataType.parse t).toOption)
  | _ => none

def ofJson? : Json → Option Schema
  | .array items => do (ofColumns (← items.mapM columnOfJson?)).toOption
  | _ => none

def ofText? (source : String) : Option Schema := (Json.ofText? source).bind ofJson?

end Schema

/-- A mode by its tag, or by an object with the tag as its only key. -/
def FieldMode.ofJson? : Json → Option FieldMode
  | .string s => ofTag? s
  | .object [(s, .null)] => ofTag? s
  | _ => none

namespace FieldDescriptor

mutual

def toJson : FieldDescriptor → Json
  | mk name kind mode fields =>
    .object <| [("name", .string name), ("type", .string kind), ("mode", .string mode.tag)] ++
      if fields.isEmpty then [] else [("fields", .array (listToJson fields))]

def listToJson : List FieldDescriptor → List Json
  | [] => []
  | f :: rest => toJson f :: listToJson rest

end

def keys : List String := ["name", "type", "mode", "fields"]

/-- A descriptor without its children, and the document of the children where it is given. -/
def headOfJson? (j : Json) : Option (FieldDescriptor × Option Json) := do
  match ← j.knownMembers? keys with
  | [name, kind, mode, fields] =>
    let mode ← mode.elim (some .nullable) FieldMode.ofJson?
    return (mk (← Json.requiredString? name) (← Json.requiredString? kind) mode [], fields)
  | _ => none

def withFields (fields : List FieldDescriptor) : FieldDescriptor → FieldDescriptor
  | mk name kind mode _ => mk name kind mode fields

/-- Reads a list of descriptors whose nesting is at most `depth`. -/
def listOfJson? (depth : Nat) (j : Json) : Option (List FieldDescriptor) :=
  match depth, j with
  | depth + 2, .array items => items.mapM fun item => do
    let (head, children) ← headOfJson? item
    return head.withFields (← children.elim (some []) (listOfJson? depth))
  | 1, .array [] => some []
  | _, _ => none

def ofJson? (depth : Nat) (j : Json) : Option FieldDescriptor := do
  let (head, children) ← headOfJson? j
  return head.withFields (← children.elim (some []) (listOfJson? depth))

end FieldDescriptor

namespace TableReference

def toJson (r : TableReference) : Json :=
  .object [("projectId", .string r.project), ("datasetId", .string r.dataset),
    ("tableId", .string r.table)]

def ofJson? (j : Json) : Option TableReference := do
  match ← j.knownMembers? ["projectId", "datasetId", "tableId"] with
  | [project, dataset, table] =>
    return ⟨← Json.requiredString? project, ← Json.requiredString? dataset,
      ← Json.requiredString? table⟩
  | _ => none

end TableReference

namespace TimePartitioning

def toJson (p : TimePartitioning) : Json :=
  .object (("type", .string p.kind) :: p.field.toList.map fun field => ("field", .string field))

def ofJson? (j : Json) : Option TimePartitioning := do
  match ← j.knownMembers? ["type", "field"] with
  | [kind, field] =>
    return ⟨← kind.elim (some "DAY") Json.string?, ← field.elim (some none) Json.optionalString?⟩
  | _ => none

def optionOfJson? : Json → Option (Option TimePartitioning)
  | .null => some none
  | j => (ofJson? j).map some

end TimePartitioning

namespace TableDescriptor

def toJson (t : TableDescriptor) : Json :=
  .object <|
    [("tableReference", t.reference.toJson),
      ("schema", .object [("fields", .array (FieldDescriptor.listToJson t.fields))])] ++
      t.partitioning.toList.map fun p => ("timePartitioning", p.toJson)

def fieldsOfJson? (depth : Nat) (j : Json) : Option (List FieldDescriptor) := do
  match ← j.knownMembers? ["fields"] with
  | [fields] => fields.elim (some []) (FieldDescriptor.listOfJson? depth)
  | _ => none

def ofJson? (j : Json) : Option TableDescriptor := do
  match ← j.knownMembers? ["tableReference", "schema", "timePartitioning"] with
  | [reference, schema, partitioning] =>
    return ⟨← reference.bind TableReference.ofJson?,
      ← schema.elim (some []) (fieldsOfJson? 125),
      ← partitioning.elim (some none) TimePartitioning.optionOfJson?⟩
  | _ => none

def ofText? (source : String) : Option TableDescriptor := (Json.ofText? source).bind ofJson?

end TableDescriptor

end WarehouseAdapter
