import WarehouseAdapter.Proofs.Inference.Coercion
import WarehouseAdapter.Proofs.Inference.Columns
import WarehouseAdapter.Proofs.Reshaping

/-!
# Application of inferred schemas

A frame under the schema inferred from it: the application fails exactly when a boolean among the
values, at any depth, stands where the schema has a number, as in a column of booleans and numbers
or in a list of both. Every other value converts to the type settled for its column.
-/

namespace WarehouseAdapter

variable {f : Frame} {s : Schema} {c : Column} {t : DataType}

/-- The error that names a column in which a boolean stands where the schema has a number. -/
def IsBooleanError (f : Frame) (s : Schema) (e : SchemaError) : Prop :=
  ∃ c ∈ f.columns, ∃ t, (c.name, t) ∈ s.columns ∧ (∃ v ∈ c.values, BooleanAsNumber t v) ∧
    ∃ fault, IsBooleanFault fault ∧ e = .coercion c.name fault

theorem coerce_settled_failsIff {aggressiveNull : Bool} {name : String} {values : List Value}
    (h : inferColumn (.ofValues name values) true aggressiveNull = [t]) :
    ∀ v ∈ values, FailsIff IsBooleanFault (BooleanAsNumber t v) (coerce t v) := by
  intro v hv
  by_cases hnull : v.isNull = true
  · rw [coerce_of_isNull hnull]
    exact failsIff_ok (not_booleanAsNumber_of_isNull hnull t) _
  · obtain ⟨s, hs, hst⟩ := le_of_inferColumn h v (mem_present.2 ⟨hv, by simpa using hnull⟩)
    exact coerce_failsIff hs hst

theorem coerceColumn_failsIff (hc : c ∈ f.columns) (ht : (c.name, t) ∈ s.columns)
    (h : ∀ v ∈ c.values, FailsIff IsBooleanFault (BooleanAsNumber t v) (coerce t v)) :
    FailsIff (IsBooleanError f s) (∃ v ∈ c.values, BooleanAsNumber t v)
      (coerceColumn c.name t c) := by
  unfold coerceColumn
  rcases FailsIff.mapM h with ⟨hbool, fault, hfault, he⟩ | ⟨hno, values, hvalues⟩
  · rw [he]
    exact failsIff_error hbool ⟨c, hc, t, ht, hbool, fault, hfault, rfl⟩
  · rw [hvalues]
    exact failsIff_ok hno _

theorem applyTo_failsIff {aggressiveNull : Bool}
    (hf : ∀ c ∈ f.columns, c = .ofValues c.name c.values)
    (h : inferSchema f { strict := true, aggressiveNull := aggressiveNull } = .ok s) :
    FailsIff (IsBooleanError f s)
      (∃ c ∈ f.columns, ∃ t, (c.name, t) ∈ s.columns ∧ ∃ v ∈ c.values, BooleanAsNumber t v)
      (s.applyTo f) := by
  obtain ⟨typed, htyped, hsettles, hcolumns⟩ := settled_of_inferSchema h
  have hmem : ∀ p ∈ typed, p.1 ∈ f.columns ∧ (p.1.name, p.2) ∈ s.columns := by
    intro p hp
    rw [← htyped, hcolumns]
    exact ⟨List.mem_map.2 ⟨p, hp, rfl⟩, List.mem_map.2 ⟨p, hp, rfl⟩⟩
  have hnames : (f.columns.map Column.name).Nodup := by
    have hdistinct := s.nodup_columns
    rw [hcolumns, List.map_map] at hdistinct
    rw [← htyped, List.map_map]
    exact hdistinct
  have hcolumn : ∀ p ∈ typed, FailsIff (IsBooleanError f s)
      (∃ v ∈ p.1.values, BooleanAsNumber p.2 v) (coerceColumn p.1.name p.2 p.1) := by
    intro p hp
    obtain ⟨hc, ht⟩ := hmem p hp
    rcases hsettles p hp with hover | ⟨-, hinfer⟩
    · cases hover
    · rw [hf p.1 hc] at hinfer
      exact coerceColumn_failsIff hc ht (coerce_settled_failsIff hinfer)
  have hreshape := reshape_failsIff (htyped ▸ List.Perm.refl _) hnames hcolumn
  rw [← hcolumns] at hreshape
  refine (hreshape.map Frame.mk).congr ⟨?_, ?_⟩
  · rintro ⟨p, hp, hbool⟩
    exact ⟨p.1, (hmem p hp).1, p.2, (hmem p hp).2, hbool⟩
  · rintro ⟨c, hc, t, ht, hbool⟩
    rw [← htyped, List.mem_map] at hc
    obtain ⟨p, hp, rfl⟩ := hc
    have hsame := List.inj_on_of_nodup_map s.nodup_columns ht (hmem p hp).2 rfl
    cases hsame
    exact ⟨p, hp, hbool⟩

/-- A frame of columns made from values takes the schema inferred from it unless a boolean stands
where that schema has a number, and this is what the error then says. -/
theorem applyTo_inferSchema {aggressiveNull : Bool}
    (hf : ∀ c ∈ f.columns, c = .ofValues c.name c.values)
    (h : inferSchema f { strict := true, aggressiveNull := aggressiveNull } = .ok s) :
    ((∃ g, s.applyTo f = .ok g) ↔
        ∀ c ∈ f.columns, ∀ t, (c.name, t) ∈ s.columns → ∀ v ∈ c.values, ¬ BooleanAsNumber t v) ∧
      ∀ e, s.applyTo f = .error e → IsBooleanError f s e := by
  have hfails := applyTo_failsIff hf h
  constructor
  · rw [hfails.ok_iff]
    push Not
    exact Iff.rfl
  · intro e he
    exact hfails.of_error he

theorem applyTo_inferSchema_integers :
    inferSchema
        ⟨[.ofValues "b" [.null, .bool true], .ofValues "c" [.list [.int 1, .null], .list []]]⟩
        { strict := true, aggressiveNull := false } =
      .ok (.ofDistinct [("b", .boolean), ("c", .array .int64)] (by decide)) ∧
      ∃ g, Schema.applyTo (.ofDistinct [("b", .boolean), ("c", .array .int64)] (by decide))
        ⟨[.ofValues "b" [.null, .bool true], .ofValues "c" [.list [.int 1, .null], .list []]]⟩ =
          .ok g := by
  have hinfer : inferSchema
      ⟨[.ofValues "b" [.null, .bool true], .ofValues "c" [.list [.int 1, .null], .list []]]⟩
      { strict := true, aggressiveNull := false } =
        .ok (.ofDistinct [("b", .boolean), ("c", .array .int64)] (by decide)) := by cbv
  refine ⟨hinfer, (applyTo_inferSchema (by simp [Column.ofValues]) hinfer).1.2 ?_⟩
  simp [Column.ofValues, BooleanAsNumber, Value.kind]

theorem not_applyTo_inferSchema :
    ¬ ∀ (f : Frame) (aggressiveNull : Bool) (s : Schema), (f.columns.map Column.name).Nodup →
      (∀ c ∈ f.columns, c = .ofValues c.name c.values) →
      inferSchema f { strict := true, aggressiveNull := aggressiveNull } = .ok s →
      ∃ g, s.applyTo f = .ok g := by
  intro hall
  have hinfer : inferSchema ⟨[.ofValues "c" [.bool true, .int 1]]⟩
      { strict := true, aggressiveNull := true } = .ok (.ofDistinct [("c", .int64)] (by simp)) := by cbv
  obtain ⟨g, hg⟩ := hall _ true _ (by simp) (by simp [Column.ofValues]) hinfer
  have herror : Schema.applyTo (.ofDistinct [("c", .int64)] (by simp))
      ⟨[.ofValues "c" [.bool true, .int 1]]⟩ =
        .error (.coercion "c" (.mismatch .bool .int64)) := by cbv
  cases herror.symm.trans hg

end WarehouseAdapter
