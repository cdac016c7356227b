import WarehouseAdapter.Proofs.Inference.Values
import WarehouseAdapter.Proofs.Schema.Derivations

/-!
# Types of columns

The type settled for a column made from values is above the types of its present values, whichever
way it was found: by the machine type, by the kind of the column or value by value. A schema is
inferred when every column is settled, and lists the columns in the order of the frame.
-/

namespace WarehouseAdapter

/-- The type of the values of a kind, where the kind alone decides it. -/
def ValueKind.type? : ValueKind → Option DataType
  | null => some .null
  | bool => some .boolean
  | int => some .int64
  | float => some .double
  | str => some .string
  | bytes => some .binary
  | date => some .date
  | time => some .time
  | dateTime | timestamp => some .timestamp
  | timedelta => some .interval
  | list | record => none

variable {values : List Value} {v : Value} {t : DataType}

theorem inferValue_of_kind (h : v.kind.type? = some t) : inferValue v = .ok t := by
  cases v with
  | list | record => cases h
  | null | bool | int | float | str | bytes | date | time | dateTime | timestamp | timedelta =>
    cases h
    rfl

theorem mem_present : v ∈ Value.present values ↔ v ∈ values ∧ v.isNull = false := by
  rw [Value.present, List.mem_filter, Bool.not_eq_true']

theorem Dtype.type_of_ofKinds {hasNull : Bool} {kinds : List ValueKind}
    (h : (ofKinds hasNull kinds).type? = some t) : ∀ k ∈ kinds, ∃ s, k.type? = some s ∧ s ≤ t := by
  intro k hk
  unfold ofKinds at h
  split_ifs at h with h1 h2 h3 h4 h5 h6
  · cases h
  · cases h
    rw [Bool.and_eq_true, List.all_eq_true] at h2
    obtain rfl : k = .bool := by simpa using h2.1 k hk
    exact ⟨_, rfl, le_rfl⟩
  · cases h
    rw [Bool.and_eq_true, List.all_eq_true] at h3
    obtain rfl : k = .int := by simpa using h3.1 k hk
    exact ⟨_, rfl, le_rfl⟩
  · cases h
    have hnumber := List.all_eq_true.1 h4 k hk
    cases k with
    | int => exact ⟨_, rfl, DataType.primitive_le_iff.2 (.inr ⟨_, rfl, by decide⟩)⟩
    | float => exact ⟨_, rfl, le_rfl⟩
    | null | bool | str | bytes | date | time | dateTime | timestamp | timedelta | list | record =>
      cases hnumber
  · cases h
    have hinstant := List.all_eq_true.1 h5 k hk
    cases k with
    | dateTime | timestamp => exact ⟨_, rfl, le_rfl⟩
    | null | bool | int | float | str | bytes | date | time | timedelta | list | record =>
      cases hinstant
  · cases h
    obtain rfl : k = .timedelta := by simpa using List.all_eq_true.1 h6 k hk
    exact ⟨_, rfl, le_rfl⟩
  · cases h

namespace SniffKind

theorem type_of_ofScalar {k : ValueKind} (h : (ofScalar k.scalar).type? = some t) :
    k.type? = some t := by
  cases k with
  | str | bytes | bool | dateTime | timestamp | timedelta => exact h
  | null | int | float | date | time | list | record => cases h

theorem ofScalars_type {kinds : List ScalarKind} (h : (ofScalars kinds).type? = some t) :
    ∀ k ∈ kinds, (ofScalar k).type? = some t := by
  cases kinds with
  | nil => simp
  | cons k rest =>
    simp only [ofScalars] at h
    split_ifs at h with hall
    · refine List.forall_mem_cons.2 ⟨h, fun j hj => ?_⟩
      obtain rfl : j = k := by simpa using List.all_eq_true.1 hall j hj
      exact h
    all_goals cases h

end SniffKind

theorem le_of_dtype (h : (Dtype.ofValues values).type? = some t) :
    ∀ v ∈ Value.present values, ∃ s, inferValue v = .ok s ∧ s ≤ t := by
  intro v hv
  obtain ⟨s, hs, hst⟩ := Dtype.type_of_ofKinds h v.kind (List.mem_map_of_mem hv)
  exact ⟨s, inferValue_of_kind hs, hst⟩

theorem le_of_sniffKind (h : (SniffKind.ofValues (Value.present values)).type? = some t) :
    ∀ v ∈ Value.present values, ∃ s, inferValue v = .ok s ∧ s ≤ t := by
  intro v hv
  have hv' : v ∈ Value.present (Value.present values) := mem_present.2 ⟨hv, (mem_present.1 hv).2⟩
  have hk := SniffKind.ofScalars_type h v.kind.scalar (List.mem_map.2 ⟨v, hv', rfl⟩)
  exact ⟨t, inferValue_of_kind (SniffKind.type_of_ofScalar hk), le_rfl⟩

theorem le_of_strictCandidates (h : strictCandidates values = [t]) :
    ∀ v ∈ values, ∃ s, inferValue v = .ok s ∧ s ≤ t := by
  unfold strictCandidates at h
  split at h
  · cases h
  · rename_i types htypes
    split at h
    · rename_i u hu
      cases h
      exact inferItems_le_highest htypes hu
    · intro v hv
      obtain ⟨s, hs, hvs⟩ := (exists_mem_of_inferItems htypes).1 v hv
      have hst : s ∈ types.eraseDups := List.mem_eraseDups.2 hs
      rw [h, List.mem_singleton] at hst
      exact ⟨s, hvs, hst.le⟩

/-- Each present value of a settled column has a type below the settled one. -/
theorem le_of_inferColumn {name : String} {aggressiveNull : Bool}
    (h : inferColumn (.ofValues name values) true aggressiveNull = [t]) :
    ∀ v ∈ Value.present values, ∃ s, inferValue v = .ok s ∧ s ≤ t := by
  simp only [inferColumn, Column.ofValues] at h
  split at h
  · rename_i hempty
    rw [Bool.and_eq_true, List.isEmpty_iff] at hempty
    rw [hempty.2]
    simp
  · split at h
    · rename_i u hu
      cases h
      exact le_of_dtype hu
    · split at h
      · exact le_of_sniffKind (Option.toList_eq_singleton_iff.1 h)
      · exact le_of_strictCandidates h

/-- A column has a single type: the one given beforehand, or the only candidate. -/
def InferOptions.Settles (o : InferOptions) (c : Column) (t : DataType) : Prop :=
  o.overrides.lookup c.name = some t ∨
    (o.overrides.lookup c.name = none ∧ inferColumn c o.strict o.aggressiveNull = [t])

namespace Inferred

variable {o : InferOptions} {r : Inferred} {c : Column}

theorem add_of_settles (h : o.Settles c t) :
    add o r c = { r with columns := r.columns ++ [(c.name, t)] } := by
  rcases h with h | ⟨hlookup, h⟩
  · rw [add, h]
  · rw [add, hlookup, h]

theorem add_of_not_settles (h : ∀ t, ¬ o.Settles c t) : (add o r c).report.isEmpty = false := by
  unfold add
  split
  · rename_i t ht
    exact absurd (.inl ht) (h t)
  · rename_i hlookup
    split
    · simp [InferenceReport.isEmpty]
    · rename_i t ht
      exact absurd (.inr ⟨hlookup, ht⟩) (h t)
    · simp [InferenceReport.isEmpty]

/-- A report that is not empty stays so. -/
theorem add_report_isEmpty (h : r.report.isEmpty = false) : (add o r c).report.isEmpty = false := by
  by_cases hc : ∃ t, o.Settles c t
  · obtain ⟨t, ht⟩ := hc
    rw [add_of_settles ht]
    exact h
  · exact add_of_not_settles fun t ht => hc ⟨t, ht⟩

theorem foldl_add_report_isEmpty (columns : List Column) (h : r.report.isEmpty = false) :
    (columns.foldl (add o) r).report.isEmpty = false := by
  induction columns generalizing r with
  | nil => exact h
  | cons c columns ih => exact ih (add_report_isEmpty h)

theorem settled_of_foldl_add (columns : List Column)
    (h : (columns.foldl (add o) r).report.isEmpty = true) :
    ∃ typed : List (Column × DataType), typed.map Prod.fst = columns ∧
      (∀ p ∈ typed, o.Settles p.1 p.2) ∧
      (columns.foldl (add o) r).columns = r.columns ++ typed.map fun p => (p.1.name, p.2) := by
  induction columns generalizing r with
  | nil => exact ⟨[], rfl, by simp, by simp⟩
  | cons c columns ih =>
    rw [List.foldl_cons] at h ⊢
    by_cases hc : ∃ t, o.Settles c t
    · obtain ⟨t, ht⟩ := hc
      obtain ⟨typed, rfl, hsettles, hcolumns⟩ := ih h
      refine ⟨(c, t) :: typed, rfl, List.forall_mem_cons.2 ⟨ht, hsettles⟩, ?_⟩
      rw [hcolumns, add_of_settles ht]
      simp
    · have hreport := add_of_not_settles (r := r) fun t ht => hc ⟨t, ht⟩
      rw [foldl_add_report_isEmpty columns hreport] at h
      cases h

end Inferred

/-- The schema of a frame gives each column, in order, the type that settles it. -/
theorem settled_of_inferSchema {f : Frame} {o : InferOptions} {s : Schema}
    (h : inferSchema f o = .ok s) :
    ∃ typed : List (Column × DataType), typed.map Prod.fst = f.columns ∧
      (∀ p ∈ typed, o.Settles p.1 p.2) ∧ s.columns = typed.map fun p => (p.1.name, p.2) := by
  simp only [inferSchema] at h
  split at h
  · rename_i hempty
    obtain ⟨typed, htyped, hsettles, hcolumns⟩ := Inferred.settled_of_foldl_add f.columns hempty
    refine ⟨typed, htyped, hsettles, ?_⟩
    rw [(Schema.ofColumns_eq_ok_iff.1 h).2, inferFrame, hcolumns]
    rfl
  · cases h

end WarehouseAdapter
