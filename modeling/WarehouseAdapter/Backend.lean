import WarehouseAdapter.Config.Basic
import WarehouseAdapter.Pattern.Library
import WarehouseAdapter.Query.Execution

/-!
# The adapter on a warehouse

A backend reads data in one project and dataset and bills another project. Names of datasets may be
given with their project, as two parts around one dot; any other name is a dataset of the billing
project. Tables show their partition column under the configured name. Names are listed by the
patterns of some library.
-/

namespace WarehouseAdapter

/-- The parts of a name with exactly one dot. -/
def twoParts? (s : String) : Option (String × String) :=
  match s.toList.dropWhile (· != '.') with
  | _ :: r =>
    if r.contains '.' then none
    else some (String.ofList (s.toList.takeWhile (· != '.')), String.ofList r)
  | [] => none

/-- The dataset of a name in which the project may be left out. -/
def datasetReference (project name : String) : DatasetReference :=
  match twoParts? name with
  | some (project, dataset) => ⟨project, dataset⟩
  | none => ⟨project, name⟩

/-- A partition column as it is stored and as it is shown. -/
structure PartitionColumn where
  physical : String
  exposed : String
deriving DecidableEq, Repr

structure Table where
  reference : TableReference
  schema : Schema
  partition : Option PartitionColumn
deriving Repr

namespace Table

def toExpr (t : Table) : Expr := .table t.reference.text t.schema

def column? (t : Table) (name : String) : Option Expr :=
  (t.schema.get? name).map fun type => .column name type

end Table

inductive ExecutionMode
  | synchronous | asynchronous
deriving DecidableEq, Repr

/-- The names of a list that match a pattern from their start; an empty pattern is none at all. -/
def filterLike [PatternLibrary] (names : List String) (like : Option String) :
    Except QueryError (List String) :=
  match like with
  | none => .ok names
  | some text =>
    if text.isEmpty then .ok names
    else
      match PatternLibrary.compile? ("^(?:" ++ text ++ ")") with
      | some p => .ok (names.filter (PatternLibrary.isMatch p))
      | none => .error .invalidPattern

structure Backend (C : Type) where
  client : C
  dataProject : String
  billingProject : String
  dataset : String
  config : Config

namespace Backend

variable {C : Type} [WarehouseClient C]

def connect (client : C) (project dataset : String) (config : Config) : Backend C :=
  let d := datasetReference project dataset
  ⟨client, d.project, config.billingProject.getD project, d.dataset, config⟩

variable (b : Backend C)

/-- The dataset that an optional name stands for; without one it is the current dataset. -/
def resolve (database : Option String) : DatasetReference :=
  datasetReference b.billingProject (database.getD (b.dataProject ++ "." ++ b.dataset))

def setDatabase (name : String) : Backend C :=
  let d := b.resolve (some name)
  { b with dataProject := d.project, dataset := d.dataset }

def tableReference (name : String) (database : Option String) : TableReference :=
  let d := b.resolve database
  ⟨d.project, d.dataset, name⟩

def qualifiedName (name : String) (database : Option String) : String :=
  (b.tableReference name database).text

def descriptor (name : String) (database : Option String) : Except QueryError TableDescriptor :=
  (WarehouseClient.getTable b.client (b.tableReference name database)).mapError .warehouse

/-- The schema of a table with its partition column under its own name. -/
def getSchema (name : String) (database : Option String) : Except QueryError Schema := do
  let d ← b.descriptor name database
  (importSchema d).mapError .warehouse

def exposedName (physical : String) : String := b.config.partitionColumn.getD physical

def partition? (d : TableDescriptor) : Option PartitionColumn :=
  d.partitionColumn?.map fun physical => ⟨physical, b.exposedName physical⟩

/-- A schema with the partition column under the name that is shown. -/
def expose (s : Schema) : Option PartitionColumn → Except QueryError Schema
  | none => .ok s
  | some p =>
    if p.physical = p.exposed then .ok s
    else (s.rename [(p.physical, p.exposed)]).mapError .schema

def table (name : String) (database : Option String) : Except QueryError Table := do
  let d ← b.descriptor name database
  let s ← (importSchema d).mapError .warehouse
  let partition := b.partition? d
  return ⟨b.tableReference name database, ← expose s partition, partition⟩

/-- Whether something was found, where any failure but its absence is a failure. -/
def found {α : Type} : Except WarehouseError α → Except QueryError Bool
  | .ok _ => .ok true
  | .error error => if error.isNotFound then .ok false else .error (.warehouse error)

def existsDatabase (name : String) : Except QueryError Bool :=
  found (WarehouseClient.getDataset b.client (b.resolve (some name)))

def existsTable (name : String) (database : Option String) : Except QueryError Bool :=
  found (WarehouseClient.getTable b.client (b.tableReference name database))

def listDatabases [PatternLibrary] (like : Option String) : Except QueryError (List String) := do
  let names ← (WarehouseClient.listDatasets b.client b.dataProject).mapError .warehouse
  filterLike names like

def listTables [PatternLibrary] (like : Option String) (database : Option String) :
    Except QueryError (List String) := do
  let names ← (WarehouseClient.listTables b.client (b.resolve database)).mapError .warehouse
  filterLike names like

def query (statement : Statement) (given : List (ScalarParameter × Value)) :
    Except QueryError Query :=
  Query.prepare statement b.billingProject given

/-- Runs a query on the warehouse of the backend. -/
def runQuery (q : Query) : Except QueryError Frame × Query × Backend C :=
  let (result, q, client) := q.execute b.client
  (result, q, { b with client := client })

/-- Runs a statement to its end; nothing is sent before all parameters are bound. -/
def execute (statement : Statement) (given : List (ScalarParameter × Value))
    (mode : ExecutionMode) : Except QueryError Frame × Backend C :=
  match mode with
  | .asynchronous => (.error .asynchronous, b)
  | .synchronous =>
    match b.query statement given with
    | .error error => (.error error, b)
    | .ok q =>
      let (result, _, b) := b.runQuery q
      (result, b)

end Backend

end WarehouseAdapter
