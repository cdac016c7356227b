import WarehouseAdapter.Proofs.Except
import WarehouseAdapter.Proofs.Schema.Derivations
import WarehouseAdapter.Warehouse.Import

/-!
# Schemas of described tables

What becomes of the description of a table. Every field has a type that follows its kind, its mode
and, for a record, its children; and a traversal of the fields meets faults: a record is asked for
children before these are gone through, and for distinct names of them afterwards. The outcome is
the first fault met, and where there is none, the types: the declared columns in order and behind
them the partition column unless it is declared.
-/

namespace WarehouseAdapter

/-- The kinds of columns that hold values of a primitive. -/
def Primitive.columnKinds : Primitive → List String
  | int64 => ["INT64", "INTEGER"]
  | double => ["FLOAT64", "FLOAT"]
  | boolean => ["BOOL", "BOOLEAN"]
  | string => ["STRING"]
  | binary => ["BYTES"]
  | date => ["DATE"]
  | time => ["TIME"]
  | timestamp => ["DATETIME", "TIMESTAMP"]
  | null | interval => []

def Primitive.ofColumnKind? (kind : String) : Option Primitive :=
  all.find? fun p => p.columnKinds.contains kind

/-- The complaint about names of which one is repeated. -/
def nameFaults (names : List String) : List WarehouseError :=
  if names.Nodup then [] else [.schema (.repeatedNames (secondNames names))]

namespace FieldDescriptor

/-- The kinds of fields that have children. -/
def recordKinds : List String := ["RECORD", "STRUCT"]

/-- The type of one value under a kind; only a record has children. -/
def elementType (kind : String) (children : List (String × DataType)) : DataType :=
  if kind ∈ recordKinds then .struct children
  else
    match Primitive.ofColumnKind? kind with
    | some p => .primitive p
    | none => .unrecognized kind

mutual

/-- The type that a field is described to have. -/
def type : FieldDescriptor → DataType
  | mk _ kind .repeated fields => .array (elementType kind (fieldTypes fields))
  | mk _ kind .nullable fields => elementType kind (fieldTypes fields)
  | mk _ kind .required fields => elementType kind (fieldTypes fields)

def fieldTypes : List FieldDescriptor → List (String × DataType)
  | [] => []
  | f :: rest => (f.name, f.type) :: fieldTypes rest

end

mutual

/-- What is wrong in a field, in the order in which it is met. -/
def faults : FieldDescriptor → List WarehouseError
  | mk name kind _ fields =>
    if kind ∈ recordKinds then
      (if fields.isEmpty then [.emptyRecord name] else []) ++ faultsOf fields ++
        nameFaults (fields.map FieldDescriptor.name)
    else []

def faultsOf : List FieldDescriptor → List WarehouseError
  | [] => []
  | f :: rest => f.faults ++ faultsOf rest

end

/-- `g` is `f` or is reached from it through records. -/
def Reaches : FieldDescriptor → FieldDescriptor → Prop :=
  Relation.ReflTransGen fun f g => f.kind ∈ recordKinds ∧ g ∈ f.fields

/-- A record has a child and gives its children distinct names. -/
def Sound (f : FieldDescriptor) : Prop :=
  f.kind ∈ recordKinds → f.fields ≠ [] ∧ (f.fields.map name).Nodup

end FieldDescriptor

namespace TableDescriptor

def columnNames (t : TableDescriptor) : List String := t.fields.map FieldDescriptor.name

def columnTypes (t : TableDescriptor) : List (String × DataType) :=
  t.fields.map fun f => (f.name, f.type)

/-- The column by which a table is partitioned; without one it goes by the time of ingestion. -/
def PartitionedBy (t : TableDescriptor) (name : String) : Prop :=
  ∃ p, t.partitioning = some p ∧ (p.field = some name ∨ p.field = none ∧ name = "_PARTITIONTIME")

/-- A partitioned table whose partition column is not declared has it as a timestamp behind the
declared ones. -/
def addedColumns (t : TableDescriptor) : List (String × DataType) :=
  match t.partitioning with
  | none => []
  | some p =>
    let name := p.field.getD "_PARTITIONTIME"
    if name ∈ t.columnNames then [] else [(name, .primitive .timestamp)]

/-- What is wrong in the columns and, last of all, with their names. -/
def faults (t : TableDescriptor) : List WarehouseError :=
  FieldDescriptor.faultsOf t.fields ++ nameFaults t.columnNames

end TableDescriptor

open FieldDescriptor (Reaches elementType faultsOf fieldTypes recordKinds)

variable {α β : Type} {es : List WarehouseError} {e : WarehouseError} {a : α} {names : List String}
  {f : FieldDescriptor} {fields : List FieldDescriptor} {columns : List (String × DataType)}

theorem nameFaults_eq_nil_iff : nameFaults names = [] ↔ names.Nodup := by
  unfold nameFaults
  split_ifs with h <;> simp [h]

/-- The first of some faults, or a result where there is none. -/
def barring (es : List WarehouseError) (a : α) : Except WarehouseError α :=
  match es with
  | [] => .ok a
  | e :: _ => .error e

theorem barring_bind {g : α → Except WarehouseError β} {es' : List WarehouseError} {b : β}
    (h : g a = barring es' b) : (barring es a >>= g) = barring (es ++ es') b := by
  cases es with
  | nil => exact h
  | cons e es => rfl

theorem barring_bind_pure (g : α → β) :
    (do return g (← barring es a)) = barring es (g a) := by
  cases es with
  | nil => rfl
  | cons e es => rfl

theorem nameFaults_eq (names : List String) : nameFaults names =
    if names.Nodup then [] else [.schema (.repeatedNames (repeatedNames names))] := by
  rw [nameFaults, repeatedNames_eq_secondNames]

theorem liftSchema_ofFields (h : columns ≠ []) : liftSchema (DataType.ofFields columns) =
    barring (nameFaults (columns.map Prod.fst)) (.struct columns) := by
  rw [DataType.ofFields, if_neg (by simpa using h), nameFaults_eq]
  split_ifs with hnodup
  · rfl
  · rfl

theorem isRecordKind_iff {kind : String} : isRecordKind kind = true ↔ kind ∈ recordKinds := by
  simp [isRecordKind, recordKinds]

theorem typeOfKind_eq (kind : String) : typeOfKind kind =
    match Primitive.ofColumnKind? kind with
    | some p => .primitive p
    | none => .unrecognized kind := by
  have hknown : ∀ kind ∈ Primitive.all.flatMap Primitive.columnKinds, typeOfKind kind =
      match Primitive.ofColumnKind? kind with
      | some p => .primitive p
      | none => .unrecognized kind := by decide +kernel
  by_cases hkind : kind ∈ Primitive.all.flatMap Primitive.columnKinds
  · exact hknown kind hkind
  · have hnone : Primitive.ofColumnKind? kind = none := by
      rw [Primitive.ofColumnKind?, List.find?_eq_none]
      intro p hp hcontains
      exact hkind (List.mem_flatMap.2 ⟨p, hp, List.contains_iff_mem.1 hcontains⟩)
    simp only [Primitive.all, List.flatMap_cons, Primitive.columnKinds, List.flatMap_nil,
      List.append_nil, List.cons_append, List.nil_append, List.mem_cons, List.not_mem_nil, or_false,
      not_or] at hkind
    simp only [hnone, typeOfKind, primitiveOfKind?, standardKind, hkind, imp_self]

/-- An array is described by the mode alone. -/
theorem type_eq (name kind : String) (mode : FieldMode) (fields : List FieldDescriptor) :
    (FieldDescriptor.mk name kind mode fields).type =
      mode.wrap (elementType kind (fieldTypes fields)) := by
  cases mode <;> rfl

theorem exists_type_eq_array_iff : (∃ u, f.type = .array u) ↔ f.mode = .repeated := by
  obtain ⟨name, kind, mode, fields⟩ := f
  have helement : ∀ u, elementType kind (fieldTypes fields) ≠ .array u := by
    intro u
    unfold elementType
    split_ifs
    · exact DataType.noConfusion
    · split <;> exact DataType.noConfusion
  cases mode with
  | repeated => exact ⟨fun _ => rfl, fun _ => ⟨_, rfl⟩⟩
  | nullable | required =>
    constructor
    · rintro ⟨u, hu⟩
      exact absurd hu (helement u)
    · rintro ⟨⟩

theorem fieldTypes_eq_map : fieldTypes fields = fields.map fun f => (f.name, f.type) := by
  induction fields with
  | nil => rfl
  | cons f rest ih => rw [fieldTypes, ih, List.map_cons]

theorem map_fst_fieldTypes :
    (fieldTypes fields).map Prod.fst = fields.map FieldDescriptor.name := by
  rw [fieldTypes_eq_map, List.map_map]
  rfl

mutual

/-- The import of a field gives the first of its faults or its type. -/
theorem importType_eq : ∀ f : FieldDescriptor, importType f = barring f.faults f.type
  | .mk name kind mode fields => by
    have hfields := importFields_eq fields
    rw [importType, FieldDescriptor.faults, type_eq, elementType, typeOfKind_eq]
    simp only [isRecordKind_iff]
    by_cases hrecord : kind ∈ recordKinds
    · rw [if_pos hrecord, if_pos hrecord, if_pos hrecord, hfields]
      cases fields with
      | nil => rfl
      | cons f rest =>
        -- a record with children gets past the emptiness that `ofFields` checks once more
        refine barring_bind ?_
        rw [liftSchema_ofFields (by simp [fieldTypes]), map_fst_fieldTypes]
        exact barring_bind_pure mode.wrap
    · rw [if_neg hrecord, if_neg hrecord, if_neg hrecord]
      rfl

theorem importFields_eq : ∀ fields : List FieldDescriptor,
    importFields fields = barring (faultsOf fields) (fieldTypes fields)
  | [] => rfl
  | f :: rest => by
    rw [importFields, importType_eq f, importFields_eq rest]
    exact barring_bind (barring_bind_pure ((f.name, f.type) :: ·))

end

theorem forall_reaches_iff {P : FieldDescriptor → Prop} : (∀ g, Reaches f g → P g) ↔
    P f ∧ (f.kind ∈ recordKinds → ∀ c ∈ f.fields, ∀ g, Reaches c g → P g) := by
  constructor
  · intro h
    exact ⟨h f .refl, fun hrecord c hc g hg => h g (.head ⟨hrecord, hc⟩ hg)⟩
  · rintro ⟨hf, hchildren⟩ g hg
    rcases Relation.ReflTransGen.cases_head hg with rfl | ⟨c, ⟨hrecord, hc⟩, hg⟩
    · exact hf
    · exact hchildren hrecord c hc g hg

mutual

/-- A field has no fault exactly when every field that it reaches is sound. -/
theorem faults_eq_nil_iff : ∀ f : FieldDescriptor, f.faults = [] ↔ ∀ g, Reaches f g → g.Sound
  | .mk name kind mode fields => by
    have hfields := faultsOf_eq_nil_iff fields
    rw [forall_reaches_iff, FieldDescriptor.faults, FieldDescriptor.Sound, FieldDescriptor.kind,
      FieldDescriptor.fields, ← hfields]
    by_cases hrecord : kind ∈ recordKinds
    · have hempty : (if fields.isEmpty then [WarehouseError.emptyRecord name] else []) = [] ↔
          fields ≠ [] := by simp
      rw [if_pos hrecord, List.append_eq_nil_iff, List.append_eq_nil_iff, nameFaults_eq_nil_iff,
        hempty, and_right_comm]
      simp only [hrecord, true_imp_iff]
    · simp [hrecord]

theorem faultsOf_eq_nil_iff : ∀ fields : List FieldDescriptor,
    faultsOf fields = [] ↔ ∀ c ∈ fields, ∀ g, Reaches c g → g.Sound
  | [] => by simp [faultsOf]
  | f :: rest => by
    rw [faultsOf, List.append_eq_nil_iff, List.forall_mem_cons, faults_eq_nil_iff f,
      faultsOf_eq_nil_iff rest]

end

theorem liftSchema_ofColumns_eq_ok_iff {s : Schema} :
    liftSchema (Schema.ofColumns columns) = .ok s ↔
      nameFaults (columns.map Prod.fst) = [] ∧ s.columns = columns := by
  rw [liftSchema, mapError_eq_ok_iff, Schema.ofColumns_eq_ok_iff, nameFaults_eq_nil_iff]

theorem liftSchema_ofColumns_eq_error_iff : liftSchema (Schema.ofColumns columns) = .error e ↔
    (nameFaults (columns.map Prod.fst)).head? = some e := by
  rw [liftSchema, mapError_eq_error_iff, nameFaults_eq]
  simp only [Schema.ofColumns_eq_error_iff]
  split_ifs with hnodup
  · simp [hnodup]
  · simp [hnodup]

namespace TableDescriptor

variable {t : TableDescriptor} {s : Schema}

theorem map_fst_columnTypes : t.columnTypes.map Prod.fst = t.columnNames := by
  rw [columnTypes, List.map_map]
  rfl

theorem partitionColumn?_eq_some_iff {name : String} :
    t.partitionColumn? = some name ↔ t.PartitionedBy name := by
  rw [partitionColumn?, Option.map_eq_some_iff]
  refine exists_congr fun p => and_congr_right fun _ => ?_
  cases p.field with
  | none => simp [ingestionColumn, eq_comm]
  | some field => simp

theorem addedColumns_eq (t : TableDescriptor) : t.addedColumns =
    match t.partitionColumn? with
    | some name => if name ∈ t.columnNames then [] else [(name, .timestamp)]
    | none => [] := by
  unfold addedColumns partitionColumn?
  cases t.partitioning <;> rfl

theorem withPartition_columnTypes :
    withPartition t.partitionColumn? t.columnTypes = t.columnTypes ++ t.addedColumns := by
  rw [addedColumns_eq]
  cases t.partitionColumn? with
  | none => exact (List.append_nil _).symm
  | some name =>
    rw [withPartition, map_fst_columnTypes]
    simp only [List.contains_iff_mem]
    split_ifs with hdeclared
    · exact (List.append_nil _).symm
    · rfl

/-- The added column repeats no name. -/
theorem nameFaults_addedColumns :
    nameFaults ((t.columnTypes ++ t.addedColumns).map Prod.fst) = nameFaults t.columnNames := by
  rw [List.map_append, map_fst_columnTypes, addedColumns_eq]
  cases t.partitionColumn? with
  | none => simp
  | some name =>
    dsimp only
    split_ifs with hdeclared
    · simp
    · have hnodup : (t.columnNames ++ [name]).Nodup ↔ t.columnNames.Nodup := by
        rw [← List.concat_eq_append, List.nodup_concat]
        exact and_iff_right hdeclared
      rw [List.map_singleton, nameFaults_eq, nameFaults_eq, repeatedNames_concat hdeclared]
      simp only [hnodup]

theorem importSchema_eq : importSchema t = (do
    liftSchema (Schema.ofColumns ((← barring (faultsOf t.fields) t.columnTypes) ++
      t.addedColumns))) := by
  rw [importSchema, importFields_eq, fieldTypes_eq_map]
  cases faultsOf t.fields with
  | nil => exact congrArg (liftSchema ∘ Schema.ofColumns) withPartition_columnTypes
  | cons e es => rfl

theorem importSchema_eq_ok_iff :
    importSchema t = .ok s ↔ t.faults = [] ∧ s.columns = t.columnTypes ++ t.addedColumns := by
  rw [importSchema_eq, faults, List.append_eq_nil_iff, ← nameFaults_addedColumns]
  cases faultsOf t.fields with
  | nil => exact liftSchema_ofColumns_eq_ok_iff.trans (by simp)
  | cons e es => simp [barring, bind, Except.bind]

theorem importSchema_eq_error_iff {e : WarehouseError} :
    importSchema t = .error e ↔ t.faults.head? = some e := by
  rw [importSchema_eq, faults, ← nameFaults_addedColumns]
  cases faultsOf t.fields with
  | nil => exact liftSchema_ofColumns_eq_error_iff
  | cons e es => simp [barring, bind, Except.bind]

theorem faults_eq_nil_iff : t.faults = [] ↔
    (∀ c ∈ t.fields, ∀ f, Reaches c f → f.Sound) ∧ t.columnNames.Nodup := by
  rw [faults, List.append_eq_nil_iff, faultsOf_eq_nil_iff, nameFaults_eq_nil_iff]

theorem exists_importSchema_eq_ok_iff : (∃ s, importSchema t = .ok s) ↔ t.faults = [] := by
  constructor
  · rintro ⟨s, hs⟩
    exact (importSchema_eq_ok_iff.1 hs).1
  · intro h
    cases himport : importSchema t with
    | ok s => exact ⟨s, rfl⟩
    | error e =>
      rw [importSchema_eq_error_iff, h] at himport
      cases himport

theorem names_of_importSchema (h : importSchema t = .ok s) :
    s.names = t.columnNames ++ t.addedColumns.map Prod.fst := by
  rw [← s.map_fst_columns, (importSchema_eq_ok_iff.1 h).2, List.map_append, map_fst_columnTypes]

/-- The partition column is declared or added. -/
theorem mem_names_of_partitionedBy {name : String} (h : importSchema t = .ok s)
    (hp : t.PartitionedBy name) : name ∈ s.names := by
  rw [names_of_importSchema h, addedColumns_eq, partitionColumn?_eq_some_iff.2 hp]
  dsimp only
  split_ifs with hdeclared
  · exact List.mem_append_left _ hdeclared
  · simp

theorem columns_getElem?_of_importSchema {i : ℕ} (h : importSchema t = .ok s)
    (hf : t.fields[i]? = some f) : s.columns[i]? = some (f.name, f.type) := by
  have hi : i < t.columnTypes.length := by
    rw [columnTypes, List.length_map]
    exact (List.getElem?_eq_some_iff.1 hf).1
  rw [(importSchema_eq_ok_iff.1 h).2, List.getElem?_append_left hi, columnTypes, List.getElem?_map,
    hf]
  rfl

/-- How the import answers a description. -/
structure ImportFollows (t : TableDescriptor) : Prop where
  succeeds : (∃ s, importSchema t = .ok s) ↔
    (∀ c ∈ t.fields, ∀ f, Reaches c f → f.Sound) ∧ t.columnNames.Nodup
  columns : ∀ s, importSchema t = .ok s → s.columns = t.columnTypes ++ t.addedColumns
  declared : ∀ s (i : Nat) f, importSchema t = .ok s → t.fields[i]? = some f →
    s.columns[i]? = some (f.name, f.type)
  array : ∀ s (i : Nat) f, importSchema t = .ok s → t.fields[i]? = some f →
    ((∃ u, s.types[i]? = some (.array u)) ↔ f.mode = .repeated)
  partition : ∀ s name, importSchema t = .ok s → t.PartitionedBy name → s.names.count name = 1
  fails : ∀ e, importSchema t = .error e ↔ t.faults.head? = some e

theorem importFollows (t : TableDescriptor) : t.ImportFollows where
  succeeds := exists_importSchema_eq_ok_iff.trans faults_eq_nil_iff
  columns _ hs := (importSchema_eq_ok_iff.1 hs).2
  declared _ _ _ hs hf := columns_getElem?_of_importSchema hs hf
  array s i f hs hf := by
    rw [← s.map_snd_columns, List.getElem?_map, columns_getElem?_of_importSchema hs hf,
      ← exists_type_eq_array_iff]
    simp
  partition s _ hs hp := List.count_eq_one_of_mem s.distinct (mem_names_of_partitionedBy hs hp)
  fails _ := importSchema_eq_error_iff

/-- The fault of the child comes before the repeated names of the record around it. -/
example : importSchema ⟨⟨"p", "d", "t"⟩,
    [.record "r" [.plain "a" "INTEGER", .record "a" []]], none⟩ = .error (.emptyRecord "a") := by
  decide

end TableDescriptor

end WarehouseAdapter
