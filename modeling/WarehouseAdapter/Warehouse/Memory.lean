import WarehouseAdapter.Warehouse.Client

/-!
# A warehouse in memory

Datasets with their table descriptors, results by statement text, and a log of all submissions.
Datasets and tables are kept in the order of their names; the latest result set for a statement
counts, and a statement without one fails.
-/

namespace WarehouseAdapter

/-- Puts a value under a key of a list in key order, in place of the value that was there. -/
def insertOrdered {α β : Type} (order : α → α → Ordering) (key : α) (value : β) :
    List (α × β) → List (α × β)
  | [] => [(key, value)]
  | (k, v) :: rest =>
    match order key k with
    | .lt => (key, value) :: (k, v) :: rest
    | .eq => (key, value) :: rest
    | .gt => (k, v) :: insertOrdered order key value rest

structure Submission where
  job : Nat
  statement : String
  parameters : List BoundParameter
  billingProject : String
deriving Repr

inductive Outcome
  | rows (cursor : ResultCursor)
  | failure (text : String)
deriving Repr

abbrev Tables := List (String × TableDescriptor)

structure MemoryWarehouse where
  datasets : List (DatasetReference × Tables) := []
  /-- Results by statement, the latest first. -/
  outcomes : List (String × Outcome) := []
  submissions : List Submission := []
deriving Repr, Inhabited

structure MemoryJob where
  job : Nat
  outcome : Outcome
deriving Repr

namespace MemoryWarehouse

variable (w : MemoryWarehouse)

def tables? (d : DatasetReference) : Option Tables := w.datasets.lookup d

def setTables (d : DatasetReference) (tables : Tables) : MemoryWarehouse :=
  { w with datasets := insertOrdered DatasetReference.order d tables w.datasets }

def addDataset (d : DatasetReference) : MemoryWarehouse :=
  match w.tables? d with
  | some _ => w
  | none => w.setTables d []

/-- Registers a table; its dataset is made where it does not exist. -/
def addTable (t : TableDescriptor) : MemoryWarehouse :=
  let d := t.reference.inDataset
  w.setTables d (insertOrdered compare t.reference.table t ((w.tables? d).getD []))

def setResult (statement : String) (cursor : ResultCursor) : MemoryWarehouse :=
  { w with outcomes := (statement, .rows cursor) :: w.outcomes }

def setFailure (statement text : String) : MemoryWarehouse :=
  { w with outcomes := (statement, .failure text) :: w.outcomes }

def missingDataset (d : DatasetReference) : WarehouseError := .notFound ("dataset " ++ d.text)

def getTable (r : TableReference) : Except WarehouseError TableDescriptor :=
  match (w.tables? r.inDataset).bind fun tables => tables.lookup r.table with
  | some t => .ok t
  | none => .error (.notFound ("table " ++ r.text))

def getDataset (d : DatasetReference) : Except WarehouseError DatasetReference :=
  match w.tables? d with
  | some _ => .ok d
  | none => .error (missingDataset d)

def listDatasets (project : String) : List String :=
  ((w.datasets.map Prod.fst).filter fun d => d.project == project).map (·.dataset)

def listTables (d : DatasetReference) : Except WarehouseError (List String) :=
  match w.tables? d with
  | some tables => .ok (tables.map Prod.fst)
  | none => .error (missingDataset d)

def outcome (statement : String) : Outcome :=
  (w.outcomes.lookup statement).getD (.failure ("no result registered for: " ++ statement))

/-- Logs a submission; jobs are numbered in the order of their submission. -/
def submit (statement : String) (parameters : List BoundParameter) (billingProject : String) :
    MemoryJob × MemoryWarehouse :=
  let job := w.submissions.length
  (⟨job, w.outcome statement⟩,
    { w with submissions := w.submissions ++ [⟨job, statement, parameters, billingProject⟩] })

end MemoryWarehouse

def MemoryJob.wait (j : MemoryJob) : Except WarehouseError ResultCursor :=
  match j.outcome with
  | .rows cursor => .ok cursor
  | .failure text => .error (.remote text)

instance : WarehouseClient MemoryWarehouse where
  Job := MemoryJob
  getTable := MemoryWarehouse.getTable
  getDataset := MemoryWarehouse.getDataset
  listDatasets w project := .ok (w.listDatasets project)
  listTables := MemoryWarehouse.listTables
  submit w statement parameters billingProject :=
    let (job, w) := w.submit statement parameters billingProject
    (.ok job, w)
  wait := MemoryJob.wait

end WarehouseAdapter
