import WarehouseAdapter.Calendar.Reading
import WarehouseAdapter.DataType.Text
import WarehouseAdapter.Parameter.Wire

/-!
# Binding of parameters

The role of a declared type and the kind of a value together pick one rule, which brings the value
into its wire form; a pair without a rule is refused. Nothing is converted beyond dates and times.
A struct takes a record with exactly its fields, an array a list of scalars of one wire type.
-/

namespace WarehouseAdapter

/-- What a declared type asks of a value. -/
inductive Role
  | struct | array | string | integer | float | boolean | timestamp | date
deriving DecidableEq, Repr

def Role.name : Role → String
  | struct => "struct"
  | array => "array"
  | string => "string"
  | integer => "integer"
  | float => "float"
  | boolean => "boolean"
  | timestamp => "timestamp"
  | date => "date"

inductive BindingError
  | unsupportedType (t : DataType)
  | noRule (role : Role) (kind : ValueKind)
  | unreadable (role : Role) (text : String)
  | missingField (parameter field : String)
  | unexpectedField (parameter field : String)
deriving DecidableEq, Repr

def BindingError.message : BindingError → String
  | unsupportedType t => s!"type {t.text} has no parameter wire representation"
  | noRule role kind =>
    s!"no binding rule for a {role.name} parameter given a {kind.name} value"
  | unreadable role text =>
    s!"invalid {role.name} parameter value: '{text}' is not a {role.name}"
  | missingField parameter field => s!"struct parameter '{parameter}' is missing field '{field}'"
  | unexpectedField parameter field => s!"struct parameter '{parameter}' has no field '{field}'"

/-- The role of a type; a type without a wire form has none. -/
def DataType.role : DataType → Except BindingError Role
  | .struct _ => .ok .struct
  | .array _ => .ok .array
  | .primitive .string => .ok .string
  | .primitive .int64 => .ok .integer
  | .primitive .double => .ok .float
  | .primitive .boolean => .ok .boolean
  | .primitive .timestamp => .ok .timestamp
  | .primitive .date => .ok .date
  | t => .error (.unsupportedType t)

def bindScalar (role : Role) (v : Value) : Except BindingError WireValue :=
  match role, v with
  | .timestamp, .timestamp ts => .ok (.timestamp ts)
  | .timestamp, .dateTime dt => .ok (.timestamp ⟨dt⟩)
  | .timestamp, .date d => .ok (.timestamp ⟨.atMidnight d⟩)
  | .timestamp, .str s =>
    match Timestamp.ofText? s with
    | some ts => .ok (.timestamp ts)
    | none => .error (.unreadable .timestamp s)
  | .string, .str s => .ok (.string s)
  | .integer, .int n => .ok (.int64 n)
  | .float, .float x => .ok (.float64 x)
  | .boolean, .bool b => .ok (.bool b)
  | .date, .str s =>
    match DateTime.ofText? s with
    | some dt => .ok (.date dt.date)
    | none => .error (.unreadable .date s)
  | .date, .dateTime dt => .ok (.date dt.date)
  | .date, .timestamp ts => .ok (.date ts.utc.date)
  | .date, .date d => .ok (.date d)
  | role, v => .error (.noRule role v.kind)

def bindSingle (name : String) (t : DataType) (v : Value) : Except BindingError BoundParameter := do
  let w ← bindScalar (← t.role) v
  return .scalar name w.wireType w

def bindArray (name : String) (element : DataType) (items : List Value) :
    Except BindingError BoundParameter :=
  match WireType.ofType? element with
  | none => .error (.unsupportedType element)
  | some w => do
    let role ← element.role
    return .array name w (← items.mapM (bindScalar role))

/-- The first key of a record that is no field of a struct. -/
def unexpected? (fields : List (String × DataType)) (pairs : List (String × Value)) :
    Option String :=
  (pairs.find? fun p => !(fields.map Prod.fst).contains p.1).map Prod.fst

mutual

def bindParameter (name : String) (t : DataType) (v : Value) : Except BindingError BoundParameter :=
  match t, v with
  | .struct fields, .record pairs =>
    match unexpected? fields pairs with
    | some field => .error (.unexpectedField name field)
    | none => (bindFields name fields pairs).map (.struct name)
  | .array element, .list items => bindArray name element items
  | t, v => bindSingle name t v

/-- Binds each declared field to the first value under its name. -/
def bindFields (parameter : String) (fields : List (String × DataType))
    (pairs : List (String × Value)) : Except BindingError (List BoundParameter) :=
  match fields with
  | [] => .ok []
  | (field, t) :: rest =>
    match pairs.lookup field with
    | none => .error (.missingField parameter field)
    | some v => do
      let b ← bindParameter field t v
      return b :: (← bindFields parameter rest pairs)

end

end WarehouseAdapter
