import WarehouseAdapter.Backend
import WarehouseAdapter.Proofs.Except
import WarehouseAdapter.Proofs.Warehouse.OrderedEntries

/-!
# Tables stored in memory

A registered table is found under its reference until another one is registered under the same
reference, and nothing else is found or lost by it. The tables and datasets that a warehouse in
memory lists are those that it finds, in the order of the bytes of their names; and so a table
exists for a backend exactly when the backend lists it.
-/

namespace WarehouseAdapter

/-- The names with a property, each once, in the order of their bytes. -/
structure Lists (names : List String) (p : String → Prop) : Prop where
  mem_iff : ∀ name, name ∈ names ↔ p name
  ascending : names.Pairwise fun m n => bytes m < bytes n

namespace MemoryWarehouse

def table? (w : MemoryWarehouse) (r : TableReference) : Option TableDescriptor :=
  (w.tables? r.inDataset).bind fun tables => tables.lookup r.table

variable {w : MemoryWarehouse} {d d' : DatasetReference} {t : TableDescriptor}
  {r : TableReference} {tables : Tables} {e : WarehouseError}

/-! ### What is read -/

theorem getTable_eq_ok_iff : w.getTable r = .ok t ↔ w.table? r = some t := by
  rw [getTable, table?]
  cases (w.tables? r.inDataset).bind fun tables => tables.lookup r.table <;> simp

theorem getTable_eq_error_iff : w.getTable r = .error e ↔
    w.table? r = none ∧ e = .notFound ("table " ++ r.text) := by
  rw [getTable, table?]
  cases (w.tables? r.inDataset).bind fun tables => tables.lookup r.table <;> simp [eq_comm]

theorem getDataset_eq_ok_iff : w.getDataset d = .ok d' ↔ (w.tables? d).isSome ∧ d' = d := by
  rw [getDataset]
  cases w.tables? d <;> simp [eq_comm]

theorem getDataset_eq_error_iff :
    w.getDataset d = .error e ↔ w.tables? d = none ∧ e = missingDataset d := by
  rw [getDataset]
  cases w.tables? d <;> simp [eq_comm]

theorem listTables_eq_ok_iff {names : List String} : w.listTables d = .ok names ↔
    ∃ tables, w.tables? d = some tables ∧ tables.map Prod.fst = names := by
  rw [listTables]
  cases w.tables? d <;> simp

theorem listTables_eq_error_iff :
    w.listTables d = .error e ↔ w.tables? d = none ∧ e = missingDataset d := by
  rw [listTables]
  cases w.tables? d <;> simp [eq_comm]

/-! ### What is stored -/

theorem tables?_setTables : (w.setTables d tables).tables? d' =
    if d' = d then some tables else w.tables? d' := by
  rw [setTables, tables?, lookup_insertOrdered]
  simp only [beq_iff_eq, tables?]

/-- A dataset that exists is left as it is. -/
theorem addDataset_of_some (h : w.tables? d = some tables) : w.addDataset d = w := by
  rw [addDataset, h]

theorem addDataset_of_none (h : w.tables? d = none) : w.addDataset d = w.setTables d [] := by
  rw [addDataset, h]

theorem tables?_addDataset : (w.addDataset d).tables? d' =
    if d' = d then some ((w.tables? d).getD []) else w.tables? d' := by
  cases htables : w.tables? d with
  | some tables =>
    rw [addDataset_of_some htables]
    split_ifs with hd
    · rw [hd, htables]
      rfl
    · rfl
  | none =>
    rw [addDataset_of_none htables]
    exact tables?_setTables

/-- An added dataset leaves results and log as they are. -/
theorem exists_addDataset_eq (w : MemoryWarehouse) (d : DatasetReference) :
    ∃ datasets, w.addDataset d = { w with datasets := datasets } := by
  cases htables : w.tables? d with
  | some tables => exact ⟨w.datasets, addDataset_of_some htables⟩
  | none => exact ⟨_, addDataset_of_none htables⟩

theorem tables?_addTable : (w.addTable t).tables? d =
    if d = t.reference.inDataset then
      some (insertOrdered compare t.reference.table t ((w.tables? d).getD []))
    else w.tables? d := by
  rw [addTable, tables?_setTables]
  split_ifs with hd
  · rw [hd]
  · rfl

theorem table?_addDataset : (w.addDataset d).table? r = w.table? r := by
  rw [table?, table?, tables?_addDataset]
  split_ifs with hd
  · rw [hd]
    cases w.tables? d <;> rfl
  · rfl

theorem reference_eq_of {r r' : TableReference} (hd : r.inDataset = r'.inDataset)
    (ht : r.table = r'.table) : r = r' := by
  obtain ⟨project, dataset, table⟩ := r
  cases hd
  cases ht
  rfl

theorem table?_addTable : (w.addTable t).table? r =
    if t.reference = r then some t else w.table? r := by
  rw [table?, table?, tables?_addTable]
  by_cases hr : t.reference = r
  · rw [hr, if_pos rfl, if_pos rfl, Option.bind_some, lookup_insertOrdered, beq_self_eq_true]
    rfl
  · rw [if_neg hr]
    split_ifs with hd
    · have hne : r.table ≠ t.reference.table := fun ht => hr (reference_eq_of hd ht).symm
      rw [Option.bind_some, lookup_insertOrdered, beq_eq_false_iff_ne.2 hne]
      cases w.tables? r.inDataset <;> rfl
    · rfl

/-! ### What is listed -/

/-- The datasets of a warehouse and the tables of each one are in the order of their names. -/
structure InOrder (w : MemoryWarehouse) : Prop where
  datasets : InKeyOrder DatasetReference.order w.datasets
  tables : ∀ d tables, w.tables? d = some tables → InKeyOrder compare tables

theorem InOrder.getD (h : w.InOrder) (d : DatasetReference) :
    InKeyOrder compare ((w.tables? d).getD []) := by
  cases htables : w.tables? d with
  | none => exact List.Pairwise.nil
  | some tables => exact h.tables d tables htables

theorem InOrder.setTables (h : w.InOrder) (htables : InKeyOrder compare tables) :
    (w.setTables d tables).InOrder where
  datasets := inKeyOrder_insertOrdered h.datasets
  tables d' tables' h' := by
    rw [tables?_setTables] at h'
    split_ifs at h' with hd
    · cases h'
      exact htables
    · exact h.tables d' tables' h'

theorem InOrder.addDataset (h : w.InOrder) : (w.addDataset d).InOrder := by
  cases htables : w.tables? d with
  | some tables =>
    rw [addDataset_of_some htables]
    exact h
  | none =>
    rw [addDataset_of_none htables]
    exact h.setTables List.Pairwise.nil

theorem InOrder.addTable (h : w.InOrder) : (w.addTable t).InOrder :=
  h.setTables (inKeyOrder_insertOrdered (h.getD _))

/-- The tables of a dataset, where it exists. -/
theorem InOrder.lists_tables (h : w.InOrder) (htables : w.tables? d = some tables) :
    Lists (tables.map Prod.fst) fun name => (w.table? ⟨d.project, d.dataset, name⟩).isSome where
  mem_iff name := by
    rw [table?, TableReference.inDataset, htables, Option.bind_some, isSome_lookup_iff]
  ascending := (h.tables d tables htables).imp compare_eq_lt_iff_bytes_lt.1

theorem InOrder.lists_datasets (h : w.InOrder) (project : String) :
    Lists (w.listDatasets project) fun name => (w.tables? ⟨project, name⟩).isSome where
  mem_iff name := by
    rw [tables?, isSome_lookup_iff, listDatasets, List.mem_map]
    simp only [List.mem_filter, beq_iff_eq]
    constructor
    · rintro ⟨⟨_, _⟩, ⟨hmem, rfl⟩, rfl⟩
      exact hmem
    · intro hmem
      exact ⟨⟨project, name⟩, ⟨hmem, rfl⟩, rfl⟩
  ascending := by
    rw [listDatasets, List.pairwise_map]
    refine List.Pairwise.imp_of_mem (fun {d d'} hd hd' horder => ?_) (h.datasets.filter _)
    simp only [List.mem_filter, beq_iff_eq] at hd hd'
    exact DatasetReference.bytes_lt_of_order horder (hd.2.trans hd'.2.symm)

end MemoryWarehouse

namespace Backend

open MemoryWarehouse

variable {b : Backend MemoryWarehouse} {name : String} {database : Option String}

theorem existsTable_memory : b.existsTable name database =
    .ok (b.client.table? (b.tableReference name database)).isSome := by
  change found (b.client.getTable (b.tableReference name database)) = _
  cases h : b.client.getTable (b.tableReference name database) with
  | ok t => rw [getTable_eq_ok_iff.1 h, found, Option.isSome_some]
  | error e =>
    obtain ⟨htable, rfl⟩ := getTable_eq_error_iff.1 h
    rw [htable]
    rfl

/-- A backend lists the tables that it finds. -/
theorem exists_listed_iff [PatternLibrary] :
    (∃ names, b.listTables none database = .ok names ∧ name ∈ names) ↔
      (b.client.table? (b.tableReference name database)).isSome := by
  have hlisted : b.listTables none database =
      (b.client.listTables (b.resolve database)).mapError QueryError.warehouse := by
    rw [listTables]
    change (b.client.listTables (b.resolve database)).mapError QueryError.warehouse >>= _ = _
    cases b.client.listTables (b.resolve database) <;> rfl
  change _ ↔ ((b.client.tables? (b.resolve database)).bind fun tables => tables.lookup name).isSome
  simp only [hlisted, mapError_eq_ok_iff, listTables_eq_ok_iff]
  cases b.client.tables? (b.resolve database) <;> simp

end Backend

end WarehouseAdapter
