/-!
# Tables as the warehouse describes them

Columns with their declared kinds, modes and children, table and dataset references, and the
partitioning of a table by time.
-/

namespace WarehouseAdapter

/-- Cardinality of a column. -/
inductive FieldMode
  | nullable | required | repeated
deriving DecidableEq, Repr, Inhabited

namespace FieldMode

def tag : FieldMode → String
  | nullable => "NULLABLE"
  | required => "REQUIRED"
  | repeated => "REPEATED"

def ofTag? (tag : String) : Option FieldMode :=
  [nullable, required, repeated].find? fun m => m.tag == tag

end FieldMode

inductive FieldDescriptor
  | mk (name kind : String) (mode : FieldMode) (fields : List FieldDescriptor)
deriving Repr, Inhabited

namespace FieldDescriptor

def name : FieldDescriptor → String
  | mk name _ _ _ => name

def kind : FieldDescriptor → String
  | mk _ kind _ _ => kind

def mode : FieldDescriptor → FieldMode
  | mk _ _ mode _ => mode

def fields : FieldDescriptor → List FieldDescriptor
  | mk _ _ _ fields => fields

def plain (name kind : String) : FieldDescriptor := mk name kind .nullable []

def record (name : String) (fields : List FieldDescriptor) : FieldDescriptor :=
  mk name "RECORD" .nullable fields

def withMode (mode : FieldMode) : FieldDescriptor → FieldDescriptor
  | mk name kind _ fields => mk name kind mode fields

mutual

def equal : FieldDescriptor → FieldDescriptor → Bool
  | mk n k m fs, mk n' k' m' fs' => n == n' && k == k' && m == m' && equalList fs fs'

def equalList : List FieldDescriptor → List FieldDescriptor → Bool
  | [], [] => true
  | a :: as, b :: bs => equal a b && equalList as bs
  | _, _ => false

end

end FieldDescriptor

structure DatasetReference where
  project : String
  dataset : String
deriving DecidableEq, Repr, Inhabited

namespace DatasetReference

def text (d : DatasetReference) : String := d.project ++ "." ++ d.dataset

def order (a b : DatasetReference) : Ordering :=
  (compare a.project b.project).then (compare a.dataset b.dataset)

end DatasetReference

structure TableReference where
  project : String
  dataset : String
  table : String
deriving DecidableEq, Repr, Inhabited

namespace TableReference

def inDataset (r : TableReference) : DatasetReference := ⟨r.project, r.dataset⟩

def text (r : TableReference) : String := r.inDataset.text ++ "." ++ r.table

end TableReference

/-- Partitioning by time; without a field it goes by the time of ingestion. -/
structure TimePartitioning where
  kind : String := "DAY"
  field : Option String := none
deriving DecidableEq, Repr

structure TableDescriptor where
  reference : TableReference
  fields : List FieldDescriptor
  partitioning : Option TimePartitioning
deriving Repr, Inhabited

namespace TableDescriptor

def equal (a b : TableDescriptor) : Bool :=
  a.reference == b.reference && FieldDescriptor.equalList a.fields b.fields &&
    a.partitioning == b.partitioning

/-- The column that stands for the time of ingestion. -/
def ingestionColumn : String := "_PARTITIONTIME"

/-- The column by which a table is partitioned, if it is. -/
def partitionColumn? (t : TableDescriptor) : Option String :=
  t.partitioning.map fun p => p.field.getD ingestionColumn

end TableDescriptor

end WarehouseAdapter
