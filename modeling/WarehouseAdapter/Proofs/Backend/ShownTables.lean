import WarehouseAdapter.Backend
import WarehouseAdapter.Proofs.Warehouse.DescribedSchemas
import WarehouseAdapter.Warehouse.Memory

/-!
# Tables as a backend shows them

A backend reads the schema of a table with the partition column under its own name, and shows the
table with that column under the configured one. Both start from the same description. So a table is
shown exactly when its schema is read and no other column has the name that is to be shown; and what
is shown differs from what is read in that one name.
-/

namespace WarehouseAdapter

variable {name : String} {names : List String} {p : PartitionColumn} {s shown : Schema}

namespace PartitionColumn

/-- The name of a column once the partition column has the name that is shown. -/
def relabel (p : PartitionColumn) (name : String) : String :=
  if name = p.physical then p.exposed else name

/-- A column other than the partition column has the name that is to be shown. -/
def Clashes (p : PartitionColumn) (names : List String) : Prop :=
  ∃ n ∈ names, n ≠ p.physical ∧ n = p.exposed

theorem clashes_iff : p.Clashes names ↔ p.exposed ≠ p.physical ∧ p.exposed ∈ names := by
  constructor
  · rintro ⟨n, hn, hne, rfl⟩
    exact ⟨hne, hn⟩
  · rintro ⟨hne, hmem⟩
    exact ⟨p.exposed, hmem, hne, rfl⟩

theorem relabel_physical (p : PartitionColumn) : p.relabel p.physical = p.exposed := if_pos rfl

theorem relabel_of_eq (h : p.exposed = p.physical) : p.relabel name = name := by
  rw [relabel, h]
  split_ifs with hname
  · exact hname.symm
  · rfl

theorem renamed_eq_relabel (p : PartitionColumn) (name : String) :
    Schema.renamed [(p.physical, p.exposed)] name = p.relabel name := by
  rw [Schema.renamed_eq, relabel, List.find?_singleton]
  by_cases hname : name = p.physical
  · simp [hname]
  · simp [hname, Ne.symm hname]

theorem count_exposed_map_relabel (h : p.exposed ≠ p.physical) :
    (names.map p.relabel).count p.exposed = names.count p.exposed + names.count p.physical := by
  induction names with
  | nil => rfl
  | cons n names ih =>
    rw [List.map_cons, List.count_cons, ih, List.count_cons, List.count_cons, relabel]
    by_cases hn : n = p.physical
    · simp only [hn, if_true, beq_self_eq_true, beq_eq_false_iff_ne.2 h.symm, Bool.false_eq_true,
        if_false]
      omega
    · simp only [hn, if_false, beq_eq_false_iff_ne.2 hn, Bool.false_eq_true]
      omega

theorem count_map_relabel_le (h : name ≠ p.exposed) :
    (names.map p.relabel).count name ≤ names.count name := by
  induction names with
  | nil => exact le_rfl
  | cons n names ih =>
    rw [List.map_cons, List.count_cons, List.count_cons, relabel]
    by_cases hn : n = p.physical
    · simp only [hn, if_true, beq_eq_false_iff_ne.2 h.symm, Bool.false_eq_true, if_false]
      omega
    · simp only [hn, if_false]
      omega

/-- Distinct names are repeated by the relabelling only in the name that is shown. -/
theorem two_le_count_map_relabel_iff (hnodup : names.Nodup) (hmem : p.physical ∈ names) :
    2 ≤ (names.map p.relabel).count name ↔ p.Clashes names ∧ name = p.exposed := by
  rw [clashes_iff]
  by_cases heq : p.exposed = p.physical
  · have hid : names.map p.relabel = names := List.map_id'' (fun _ => relabel_of_eq heq) names
    have hle : names.count name ≤ 1 := List.nodup_iff_count_le_one.1 hnodup name
    rw [hid]
    simp only [heq, ne_eq, not_true_eq_false, false_and, iff_false]
    omega
  · by_cases hname : name = p.exposed
    · have hcount : names.count p.physical = 1 := List.count_eq_one_of_mem hnodup hmem
      rw [hname, count_exposed_map_relabel heq, hcount, ← List.one_le_count_iff]
      simp [heq]
    · have hle : (names.map p.relabel).count name ≤ 1 :=
        (count_map_relabel_le hname).trans (List.nodup_iff_count_le_one.1 hnodup name)
      simp only [hname, and_false, iff_false]
      omega

theorem nodup_map_relabel_iff (hnodup : names.Nodup) (hmem : p.physical ∈ names) :
    (names.map p.relabel).Nodup ↔ ¬ p.Clashes names := by
  have hrepeated : ∀ name, (names.map p.relabel).count name ≤ 1 ↔
      ¬ (p.Clashes names ∧ name = p.exposed) := fun name => by
    rw [← two_le_count_map_relabel_iff hnodup hmem]
    omega
  rw [List.nodup_iff_count_le_one, forall_congr' hrepeated]
  simp

theorem repeatedNames_map_relabel (hnodup : names.Nodup) (hmem : p.physical ∈ names)
    (h : p.Clashes names) : repeatedNames (names.map p.relabel) = [p.exposed] := by
  rw [← List.perm_singleton, List.perm_ext_iff_of_nodup (nodup_repeatedNames _)
    (List.nodup_singleton _)]
  intro name
  rw [mem_repeatedNames_iff, two_le_count_map_relabel_iff hnodup hmem, List.mem_singleton]
  exact and_iff_right h

theorem exposed_mem_map_relabel (hmem : p.physical ∈ names) : p.exposed ∈ names.map p.relabel :=
  List.mem_map.2 ⟨p.physical, hmem, p.relabel_physical⟩

theorem physical_mem_map_relabel_iff (hmem : p.physical ∈ names) :
    p.physical ∈ names.map p.relabel ↔ p.physical = p.exposed := by
  constructor
  · intro h
    obtain ⟨n, -, hn⟩ := List.mem_map.1 h
    rw [relabel] at hn
    split_ifs at hn with hphysical
    · exact hn.symm
    · exact absurd hn hphysical
  · intro h
    rw [h]
    exact exposed_mem_map_relabel hmem

end PartitionColumn

/-- The partition column of a described table, under the configured name or else its own. -/
def TableDescriptor.HasPartition (d : TableDescriptor) (config : Config) (p : PartitionColumn) :
    Prop :=
  d.PartitionedBy p.physical ∧ p.exposed = config.partitionColumn.getD p.physical

/-- The names to be shown for the names that are read. -/
def shownNames (partition : Option PartitionColumn) (names : List String) : List String :=
  match partition with
  | some p => names.map p.relabel
  | none => names

namespace Backend

open PartitionColumn

variable {C : Type} {b : Backend C} {d : TableDescriptor} {e : QueryError}

theorem map_fst_relabel (s : Schema) (p : PartitionColumn) :
    (s.columns.map fun c => (p.relabel c.1, c.2)).map Prod.fst = s.names.map p.relabel := by
  rw [← s.map_fst_columns, List.map_map, List.map_map]
  rfl

/-- To show a schema that has the partition column is to relabel its columns. -/
theorem expose_some (hmem : p.physical ∈ s.names) : expose s (some p) =
    (Schema.ofColumns (s.columns.map fun c => (p.relabel c.1, c.2))).mapError .schema := by
  rw [expose]
  split_ifs with heq
  · have hid : (s.columns.map fun c => (p.relabel c.1, c.2)) = s.columns :=
      List.map_id'' (fun c => by rw [relabel_of_eq heq.symm]) s.columns
    rw [hid, Schema.ofColumns_columns]
    rfl
  · have hknown : s.missing? ([(p.physical, p.exposed)].map Prod.fst) = none := by
      rw [Schema.missing?_eq_none_iff, s.map_fst_columns]
      exact List.forall_mem_singleton.2 hmem
    have hlength : (s.names.map p.relabel).length = s.types.length := by
      rw [List.length_map, s.aligned]
    rw [Schema.rename, hknown, funext (renamed_eq_relabel p)]
    exact congrArg (Except.mapError QueryError.schema)
      ((Schema.ofLists_eq_ofColumns hlength).trans (by rw [Schema.zip_map_names]))

theorem expose_some_eq_ok_iff (hmem : p.physical ∈ s.names) : expose s (some p) = .ok shown ↔
    ¬ p.Clashes s.names ∧ shown.columns = s.columns.map fun c => (p.relabel c.1, c.2) := by
  rw [expose_some hmem, mapError_eq_ok_iff, Schema.ofColumns_eq_ok_iff, map_fst_relabel,
    nodup_map_relabel_iff s.distinct hmem]

theorem expose_some_eq_error_iff (hmem : p.physical ∈ s.names) :
    expose s (some p) = .error e ↔
      p.Clashes s.names ∧ e = .schema (.repeatedNames [p.exposed]) := by
  rw [expose_some hmem, mapError_eq_error_iff]
  simp only [Schema.ofColumns_eq_error_iff, map_fst_relabel,
    nodup_map_relabel_iff s.distinct hmem, not_not]
  constructor
  · rintro ⟨_, ⟨hclash, rfl⟩, rfl⟩
    exact ⟨hclash, by rw [repeatedNames_map_relabel s.distinct hmem hclash]⟩
  · rintro ⟨hclash, rfl⟩
    exact ⟨_, ⟨hclash, rfl⟩, by rw [repeatedNames_map_relabel s.distinct hmem hclash]⟩

theorem partition?_eq_some_iff : b.partition? d = some p ↔ d.HasPartition b.config p := by
  rw [partition?, Option.map_eq_some_iff, TableDescriptor.HasPartition]
  simp only [TableDescriptor.partitionColumn?_eq_some_iff]
  constructor
  · rintro ⟨physical, hphysical, rfl⟩
    exact ⟨hphysical, rfl⟩
  · rintro ⟨hphysical, hexposed⟩
    refine ⟨p.physical, hphysical, ?_⟩
    rw [exposedName, ← hexposed]

theorem isSome_partition? : (b.partition? d).isSome = d.partitioning.isSome := by
  rw [partition?, Option.isSome_map, TableDescriptor.partitionColumn?, Option.isSome_map]

/-- The import adds the partition column where it is not declared. -/
theorem physical_mem_names (hs : importSchema d = .ok s) (hp : b.partition? d = some p) :
    p.physical ∈ s.names :=
  TableDescriptor.mem_names_of_partitionedBy hs (partition?_eq_some_iff.1 hp).1

/-- What is shown has the types that are read, and the names up to that of the partition column. -/
theorem shown_of_expose {partition : Option PartitionColumn}
    (hmem : ∀ p, partition = some p → p.physical ∈ s.names) (h : expose s partition = .ok shown) :
    shown.types = s.types ∧ shown.names = shownNames partition s.names := by
  cases partition with
  | none =>
    cases h
    exact ⟨rfl, rfl⟩
  | some p =>
    obtain ⟨-, hcolumns⟩ := (expose_some_eq_ok_iff (hmem p rfl)).1 h
    constructor
    · rw [← shown.map_snd_columns, hcolumns, List.map_map, ← s.map_snd_columns]
      rfl
    · rw [← shown.map_fst_columns, hcolumns, map_fst_relabel, shownNames]

theorem expose_eq_error_iff {partition : Option PartitionColumn}
    (hmem : ∀ p, partition = some p → p.physical ∈ s.names) : expose s partition = .error e ↔
      ∃ p, partition = some p ∧ p.Clashes s.names ∧ e = .schema (.repeatedNames [p.exposed]) := by
  cases partition with
  | none => simp [expose]
  | some p => simp [expose_some_eq_error_iff (hmem p rfl)]

variable [WarehouseClient C] {database : Option String} {t : Table}

theorem getSchema_eq_ok_iff : b.getSchema name database = .ok s ↔
    ∃ d, b.descriptor name database = .ok d ∧ importSchema d = .ok s := by
  rw [getSchema, bind_eq_ok_iff]
  simp only [mapError_eq_ok_iff]

theorem table_of_read (hd : b.descriptor name database = .ok d) (hs : importSchema d = .ok s) :
    b.table name database = (expose s (b.partition? d)).map fun shown =>
      ⟨b.tableReference name database, shown, b.partition? d⟩ := by
  simp only [table, hd, hs, Except.mapError, bind, Except.bind]
  cases expose s (b.partition? d) <;> rfl

/-- A table is not shown where its schema is not read. -/
theorem table_of_unread (h : b.getSchema name database = .error e) :
    b.table name database = .error e := by
  rw [getSchema, bind_eq_error_iff] at h
  rcases h with hd | ⟨d, hd, hs⟩
  · simp only [table, hd, bind, Except.bind]
  · simp only [table, hd, hs, bind, Except.bind]

theorem table_eq_ok_iff : b.table name database = .ok t ↔ ∃ d s shown,
    b.descriptor name database = .ok d ∧ importSchema d = .ok s ∧
      expose s (b.partition? d) = .ok shown ∧
      ⟨b.tableReference name database, shown, b.partition? d⟩ = t := by
  constructor
  · intro ht
    cases hread : b.getSchema name database with
    | error e =>
      rw [table_of_unread hread] at ht
      cases ht
    | ok s =>
      obtain ⟨d, hd, hs⟩ := getSchema_eq_ok_iff.1 hread
      rw [table_of_read hd hs, map_eq_ok_iff] at ht
      obtain ⟨shown, hshown, ht⟩ := ht
      exact ⟨d, s, shown, hd, hs, hshown, ht⟩
  · rintro ⟨d, s, shown, hd, hs, hshown, ht⟩
    rw [table_of_read hd hs, map_eq_ok_iff]
    exact ⟨shown, hshown, ht⟩

/-- A table fails to be shown in the way in which its schema fails to be read, or by a clash. -/
theorem table_eq_error_iff : b.table name database = .error e ↔
    b.getSchema name database = .error e ∨ ∃ d s p, b.descriptor name database = .ok d ∧
      importSchema d = .ok s ∧ d.HasPartition b.config p ∧ p.Clashes s.names ∧
      e = .schema (.repeatedNames [p.exposed]) := by
  cases hread : b.getSchema name database with
  | error e' =>
    rw [table_of_unread hread]
    simp only [Except.error.injEq]
    refine ⟨.inl, ?_⟩
    rintro (he | ⟨d, s, p, hd, hs, -⟩)
    · exact he
    · cases hread.symm.trans (getSchema_eq_ok_iff.2 ⟨d, hd, hs⟩)
  | ok s =>
    obtain ⟨d, hd, hs⟩ := getSchema_eq_ok_iff.1 hread
    have hmem : ∀ p, b.partition? d = some p → p.physical ∈ s.names :=
      fun p => physical_mem_names hs
    rw [table_of_read hd hs, map_eq_error_iff, expose_eq_error_iff hmem]
    simp only [partition?_eq_some_iff]
    constructor
    · rintro ⟨p, hp, hclash, he⟩
      exact .inr ⟨d, s, p, hd, hs, hp, hclash, he⟩
    · rintro (he | ⟨d', s', p, hd', hs', hp, hclash, he⟩)
      · cases he
      · cases hd.symm.trans hd'
        cases hs.symm.trans hs'
        exact ⟨p, hp, hclash, he⟩

/-- A table is shown exactly when its schema is read and no other column is in the way. -/
theorem exists_table_eq_ok_iff : (∃ t, b.table name database = .ok t) ↔
    ∃ d s, b.descriptor name database = .ok d ∧ importSchema d = .ok s ∧
      ∀ p, d.HasPartition b.config p → ¬ p.Clashes s.names := by
  constructor
  · rintro ⟨t, ht⟩
    obtain ⟨d, s, shown, hd, hs, -⟩ := table_eq_ok_iff.1 ht
    refine ⟨d, s, hd, hs, fun p hp hclash => ?_⟩
    have herror := table_eq_error_iff.2 (.inr ⟨d, s, p, hd, hs, hp, hclash, rfl⟩)
    cases ht.symm.trans herror
  · rintro ⟨d, s, hd, hs, hclear⟩
    cases htable : b.table name database with
    | ok t => exact ⟨t, rfl⟩
    | error e =>
      rcases table_eq_error_iff.1 htable with hunread | ⟨d', s', p, hd', hs', hp, hclash, -⟩
      · cases hunread.symm.trans (getSchema_eq_ok_iff.2 ⟨d, hd, hs⟩)
      · cases hd.symm.trans hd'
        cases hs.symm.trans hs'
        exact absurd hclash (hclear p hp)

theorem read_iff : b.descriptor name database = .ok d ∧ importSchema d = .ok s ↔
    b.descriptor name database = .ok d ∧ b.getSchema name database = .ok s := by
  refine and_congr_right fun hd => ?_
  rw [getSchema_eq_ok_iff]
  constructor
  · exact fun hs => ⟨d, hd, hs⟩
  · rintro ⟨d', hd', hs⟩
    cases hd.symm.trans hd'
    exact hs

/-- How a backend shows a table beside the schema that it reads of it. -/
structure ShowsAsRead (b : Backend C) (name : String) (database : Option String) : Prop where
  succeeds : (∃ t, b.table name database = .ok t) ↔
    ∃ d s, b.descriptor name database = .ok d ∧ b.getSchema name database = .ok s ∧
      ∀ p, d.HasPartition b.config p → ¬ p.Clashes s.names
  shown : ∀ t, b.table name database = .ok t →
    ∃ d s, b.descriptor name database = .ok d ∧ b.getSchema name database = .ok s ∧
      t.schema.types = s.types ∧ t.schema.names = shownNames t.partition s.names ∧
      t.partition.isSome = d.partitioning.isSome ∧
      ∀ p, t.partition = some p → d.HasPartition b.config p ∧ p.physical ∈ s.names ∧
        p.exposed ∈ t.schema.names ∧ (p.physical ∈ t.schema.names ↔ p.physical = p.exposed)
  fails : ∀ e, b.table name database = .error e ↔ b.getSchema name database = .error e ∨
    ∃ d s p, b.descriptor name database = .ok d ∧ b.getSchema name database = .ok s ∧
      d.HasPartition b.config p ∧ p.Clashes s.names ∧ e = .schema (.repeatedNames [p.exposed])

theorem showsAsRead (b : Backend C) (name : String) (database : Option String) :
    b.ShowsAsRead name database where
  succeeds := by
    rw [exists_table_eq_ok_iff]
    simp only [← and_assoc, read_iff]
  shown t ht := by
    obtain ⟨d, s, shown, hd, hs, hshown, rfl⟩ := table_eq_ok_iff.1 ht
    have hmem : ∀ p, b.partition? d = some p → p.physical ∈ s.names :=
      fun p => physical_mem_names hs
    obtain ⟨htypes, hnames⟩ := shown_of_expose hmem hshown
    refine ⟨d, s, hd, getSchema_eq_ok_iff.2 ⟨d, hd, hs⟩, htypes, hnames, isSome_partition?, ?_⟩
    intro p hp
    change b.partition? d = some p at hp
    rw [hp, shownNames] at hnames
    exact ⟨partition?_eq_some_iff.1 hp, hmem p hp, hnames ▸ exposed_mem_map_relabel (hmem p hp),
      hnames ▸ physical_mem_map_relabel_iff (hmem p hp)⟩
  fails e := by
    rw [table_eq_error_iff]
    simp only [← and_assoc, read_iff]

/-- A declared column has the name under which the time of ingestion is to be shown. -/
example : (connect (MemoryWarehouse.addTable {}
      ⟨⟨"p", "d", "t"⟩, [.plain "PARTITIONTIME" "DATE"], some {}⟩) "p" "d" {}).table "t" none =
    .error (.schema (.repeatedNames ["PARTITIONTIME"])) := by cbv

end Backend

end WarehouseAdapter
