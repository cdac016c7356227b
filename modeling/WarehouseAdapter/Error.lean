import WarehouseAdapter.DataType.Parser
import WarehouseAdapter.Inference.Report
import WarehouseAdapter.Value.Basic

/-!
# Failures of types, schemas, inference and coercion
-/

namespace WarehouseAdapter

/-- Why a value does not convert to a type. -/
inductive CoercionFault
  | mismatch (kind : ValueKind) (target : DataType)
  | undeclaredField (name : String) (target : DataType)
  | notDate (text : String)
  | notTimestamp (text : String)
deriving DecidableEq, Repr

def CoercionFault.message : CoercionFault → String
  | mismatch kind target => s!"cannot convert {kind.name} value to {target.text}"
  | undeclaredField name target => s!"record field '{name}' is not declared in {target.text}"
  | notDate text => s!"'{text}' is not a date"
  | notTimestamp text => s!"'{text}' is not a timestamp"

inductive SchemaError
  | repeatedNames (names : List String)
  | emptyStruct
  | emptyTypeSet
  | typeText (source : String) (offset : Nat) (fault : DataType.Fault)
  | countMismatch (names types : Nat)
  | noColumns (index : Nat)
  | raggedRow (index width expected : Nat)
  | columnNotFound (name : String)
  | indexOutOfBounds (index upper : Nat)
  | undetermined (report : InferenceReport)
  | incompatible (left right : DataType)
  | coercion (column : String) (fault : CoercionFault)
  | configuration
deriving DecidableEq, Repr

def SchemaError.message : SchemaError → String
  | repeatedNames names => "Duplicate column names: " ++ quotedList names
  | emptyStruct => "Schema error: struct type must have at least one field"
  | emptyTypeSet => "Schema error: cannot compute precedence of an empty type set"
  | typeText source offset fault =>
    s!"Schema error: invalid type string '{source}' at offset {offset}: {fault.message}"
  | countMismatch names types => s!"Schema error: got {names} column names but {types} types"
  | noColumns index => s!"Schema error: cannot read column {index} of a schema with no columns"
  | raggedRow index width expected =>
    s!"Schema error: row {index} has {width} values, expected {expected}"
  | columnNotFound name => s!"Column not found: {name}"
  | indexOutOfBounds index upper =>
    s!"Column index must be between 0 and {upper}, inclusive (got {index})"
  | undetermined report => report.message
  | incompatible left right =>
    s!"Cannot compute precedence for {left.text} and {right.text} types"
  | coercion column fault => s!"Cannot coerce column '{column}': {fault.message}"
  | configuration => "Invalid configuration"

namespace DataType

/-- The type that a text spells; a place in the text is counted in bytes. -/
def parse (source : String) : Except SchemaError DataType :=
  match ofChars source.toList with
  | .ok t => .ok t
  | .error (.malformed rest fault) =>
    .error (.typeText source (utf8Length source.toList - utf8Length rest) fault)
  | .error (.repeatedFields names) => .error (.repeatedNames names)

/-- A struct of the given fields, if there are any and their names differ. -/
def ofFields (fields : List (String × DataType)) : Except SchemaError DataType :=
  if fields.isEmpty then .error .emptyStruct
  else if (fields.map Prod.fst).Nodup then .ok (struct fields)
  else .error (.repeatedNames (WarehouseAdapter.repeatedNames (fields.map Prod.fst)))

theorem ofFields_eq_ok_iff {fields : List (String × DataType)} {t : DataType} :
    ofFields fields = .ok t ↔
      (fields ≠ [] ∧ (fields.map Prod.fst).Nodup) ∧ t = struct fields := by
  unfold ofFields
  by_cases hne : fields = []
  · simp [hne]
  · by_cases hnodup : (fields.map Prod.fst).Nodup
    · simp only [List.isEmpty_iff, hne, hnodup, if_true, if_false, Except.ok.injEq, ne_eq,
        not_false_eq_true, and_self, true_and]
      exact eq_comm
    · simp [hne, hnodup]

end DataType

end WarehouseAdapter
