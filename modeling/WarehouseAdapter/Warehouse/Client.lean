import WarehouseAdapter.Parameter.Wire
import WarehouseAdapter.Frame
import WarehouseAdapter.Warehouse.Import

/-!
# The boundary to a warehouse

What the adapter asks of a warehouse: descriptors, listings and the submission of statements. A
submission gives a job and the warehouse after it; a finished job gives rows.
-/

namespace WarehouseAdapter

/-- Rows of a finished query, in the order of the result columns. -/
structure ResultCursor where
  columns : List String
  rows : List (List Value)
deriving Repr, Inhabited

namespace ResultCursor

def toFrame (c : ResultCursor) : Except SchemaError Frame := Frame.ofRows c.columns c.rows

def equal (a b : ResultCursor) : Bool :=
  a.columns == b.columns && a.rows.length == b.rows.length &&
    (a.rows.zip b.rows).all fun (r, s) => Value.equalItems r s

end ResultCursor

class WarehouseClient (C : Type) where
  Job : Type
  getTable : C → TableReference → Except WarehouseError TableDescriptor
  getDataset : C → DatasetReference → Except WarehouseError DatasetReference
  listDatasets : C → String → Except WarehouseError (List String)
  listTables : C → DatasetReference → Except WarehouseError (List String)
  /-- Submits a statement with its parameters, billed to a project. -/
  submit : C → String → List BoundParameter → String → Except WarehouseError Job × C
  /-- The rows of a job once it has finished. -/
  wait : Job → Except WarehouseError ResultCursor

end WarehouseAdapter
