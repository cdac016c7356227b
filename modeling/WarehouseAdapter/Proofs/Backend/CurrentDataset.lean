import WarehouseAdapter.Proofs.Backend.DatasetNames
import WarehouseAdapter.Warehouse.Memory

/-!
# The current dataset

A backend reports its current dataset as a project and a dataset, and an operation without a named
dataset goes to the current one. The operation reads the dataset back from its text, so it finds the
reported one exactly when neither part has a dot; otherwise it goes to the whole text, taken as a
dataset of the billing project. Only the last name given to the backend counts.
-/

namespace WarehouseAdapter

namespace Backend

variable {C : Type} {b : Backend C}

/-- The dataset that the backend reports. -/
def current (b : Backend C) : DatasetReference := ⟨b.dataProject, b.dataset⟩

theorem resolve_none : b.resolve none = datasetReference b.billingProject b.current.text := by
  rw [resolve, Option.getD_none, current, DatasetReference.text]

theorem resolve_none_of_isPlain (h : b.current.IsPlain) : b.resolve none = b.current := by
  rw [resolve_none, datasetReference_text h]

theorem resolve_none_of_not_isPlain (h : ¬ b.current.IsPlain) :
    b.resolve none = ⟨b.billingProject, b.current.text⟩ := by
  rw [resolve_none, datasetReference_of_dots_ne_one (dots_text_eq_one_iff.not.2 h)]

theorem setDatabase_billingProject (name : String) :
    (b.setDatabase name).billingProject = b.billingProject := rfl

theorem current_setDatabase (name : String) :
    (b.setDatabase name).current = datasetReference b.billingProject name := rfl

theorem foldl_setDatabase_billingProject (history : List String) :
    (history.foldl setDatabase b).billingProject = b.billingProject := by
  induction history generalizing b with
  | nil => rfl
  | cons name history ih => rw [List.foldl_cons, ih, setDatabase_billingProject]

/-- After any changes the current dataset is the one that the last name stands for. -/
theorem current_foldl_setDatabase (history : List String) (name : String) :
    ((history ++ [name]).foldl setDatabase b).current = datasetReference b.billingProject name := by
  rw [List.foldl_append, List.foldl_cons, List.foldl_nil, current_setDatabase,
    foldl_setDatabase_billingProject]

theorem qualifiedName_none_eq_iff {name : String} :
    b.qualifiedName name none = b.dataProject ++ "." ++ b.dataset ++ "." ++ name ↔
      b.current.IsPlain := by
  have hname : b.qualifiedName name none = (b.resolve none).text ++ "." ++ name := rfl
  rw [hname]
  constructor
  · intro h
    by_contra hplain
    rw [resolve_none_of_not_isPlain hplain] at h
    have hlength := congrArg String.length h
    simp only [DatasetReference.text, current, String.length_append] at hlength
    have hdot : ".".length = 1 := rfl
    omega
  · intro h
    rw [resolve_none_of_isPlain h]
    rfl

/-- The last name that a backend was given stands for a dataset without dots in its parts. The first
name goes with the project of the connection, a later one with the billing project. -/
def EndsPlain (project dataset : String) (config : Config) (history : List String) : Prop :=
  match history.getLast? with
  | none => NamesPlain project dataset
  | some name => NamesPlain (config.billingProject.getD project) name

theorem current_isPlain_iff (client : C) (project dataset : String) (config : Config)
    (history : List String) :
    (history.foldl setDatabase (connect client project dataset config)).current.IsPlain ↔
      EndsPlain project dataset config history := by
  unfold EndsPlain
  rcases List.eq_nil_or_concat' history with rfl | ⟨earlier, name, rfl⟩
  · exact datasetReference_isPlain_iff
  · rw [current_foldl_setDatabase, List.getLast?_concat]
    exact datasetReference_isPlain_iff

variable [WarehouseClient C]

/-- An operation on a dataset that may be named or left out. -/
inductive Operation
  | table (name : String)
  | schema (name : String)
  | existsTable (name : String)
  | listTables (like : Option String)
  | qualifiedName (name : String)

namespace Operation

abbrev Answer : Operation → Type
  | table _ => Except QueryError Table
  | schema _ => Except QueryError Schema
  | existsTable _ => Except QueryError Bool
  | listTables _ => Except QueryError (List String)
  | qualifiedName _ => String

def run [PatternLibrary] (b : Backend C) (database : Option String) : (op : Operation) → op.Answer
  | table name => b.table name database
  | schema name => b.getSchema name database
  | existsTable name => b.existsTable name database
  | listTables like => b.listTables like database
  | qualifiedName name => b.qualifiedName name database

/-- The operation on a given dataset: what it asks of the warehouse, and its answer. -/
def on [PatternLibrary] (b : Backend C) (d : DatasetReference) : (op : Operation) → op.Answer
  | table name => do
    let t ← (WarehouseClient.getTable b.client ⟨d.project, d.dataset, name⟩).mapError .warehouse
    let s ← (importSchema t).mapError .warehouse
    return ⟨⟨d.project, d.dataset, name⟩, ← expose s (b.partition? t), b.partition? t⟩
  | schema name => do
    let t ← (WarehouseClient.getTable b.client ⟨d.project, d.dataset, name⟩).mapError .warehouse
    (importSchema t).mapError .warehouse
  | existsTable name => found (WarehouseClient.getTable b.client ⟨d.project, d.dataset, name⟩)
  | listTables like => do
    let names ← (WarehouseClient.listTables b.client d).mapError .warehouse
    filterLike names like
  | qualifiedName name => d.project ++ "." ++ d.dataset ++ "." ++ name

theorem run_eq_on [PatternLibrary] (b : Backend C) (database : Option String) (op : Operation) :
    op.run b database = op.on b (b.resolve database) := by
  cases op with
  | table | schema | existsTable | listTables | qualifiedName => rfl

end Operation

theorem run_none_eq_on_current_iff [PatternLibrary] :
    (∀ op : Operation, op.run b none = op.on b b.current) ↔ b.current.IsPlain := by
  constructor
  · intro h
    have hname : b.qualifiedName "" none = b.dataProject ++ "." ++ b.dataset ++ "." ++ "" :=
      h (.qualifiedName "")
    exact qualifiedName_none_eq_iff.1 hname
  · intro h op
    rw [op.run_eq_on, resolve_none_of_isPlain h]

/-- The operations without a named dataset go to the reported one exactly when the last name given
to the backend stands for a dataset without dots in its parts. -/
theorem operations_on_current_iff [PatternLibrary] (client : C) (project dataset : String)
    (config : Config) (history : List String) :
    let b := history.foldl setDatabase (connect client project dataset config)
    ((∀ op : Operation, op.run b none = op.on b b.current) ↔
        EndsPlain project dataset config history) ∧
      (¬ EndsPlain project dataset config history → ∀ op : Operation,
        op.run b none = op.on b ⟨config.billingProject.getD project, b.current.text⟩) ∧
      (∀ name, b.qualifiedName name none = b.dataProject ++ "." ++ b.dataset ++ "." ++ name ↔
        EndsPlain project dataset config history) ∧
      ∀ name, history.getLast? = some name →
        ((∀ op : Operation, op.run b none = op.run b (some name)) ↔
          NamesPlain (config.billingProject.getD project) name) := by
  intro b
  have hbilling : b.billingProject = config.billingProject.getD project :=
    foldl_setDatabase_billingProject history
  have hplain : b.current.IsPlain ↔ EndsPlain project dataset config history :=
    current_isPlain_iff client project dataset config history
  refine ⟨run_none_eq_on_current_iff.trans hplain, ?_,
    fun name => qualifiedName_none_eq_iff.trans hplain, ?_⟩
  · intro hno op
    rw [op.run_eq_on, resolve_none_of_not_isPlain (hplain.not.2 hno), hbilling]
  · intro name hname
    have hcurrent : b.resolve (some name) = b.current := by
      obtain ⟨earlier, rfl⟩ := List.getLast?_eq_some_iff.1 hname
      rw [current_foldl_setDatabase, resolve, Option.getD_some, foldl_setDatabase_billingProject]
    have hends : EndsPlain project dataset config history ↔
        NamesPlain (config.billingProject.getD project) name := by
      rw [EndsPlain, hname]
    rw [← hends, ← hplain, ← run_none_eq_on_current_iff]
    simp only [Operation.run_eq_on b (some name), hcurrent]

/-- A project may have a domain with a dot in it. -/
theorem not_operations_on_current :
    ¬ ∀ (client : MemoryWarehouse) (project dataset : String) (config : Config)
      (history : List String) (op : Operation),
      let b := history.foldl setDatabase (connect client project dataset config)
      op.run b none = op.on b b.current := by
  intro h
  have hplain := run_none_eq_on_current_iff.1 (h {} "example.com:billing" "sales" {} [])
  have hdots : dots "example.com:billing" = 0 := hplain.1
  exact absurd hdots (by decide)

end Backend

end WarehouseAdapter
