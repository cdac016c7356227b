import WarehouseAdapter.Proofs.Coercion.Inhabitants
import WarehouseAdapter.Proofs.FirstColumns
import WarehouseAdapter.Proofs.Query.Rows
import WarehouseAdapter.Query.Execution
import WarehouseAdapter.Warehouse.Memory

/-!
# Conformance of query results

What a query gives has the columns of its statement's schema in their order. Each of them holds, row
by row, the coercions of what one place of the result's rows holds, a place of the column's name.
Where the names of the result are distinct only one frame does, and the query gives it.
-/

namespace WarehouseAdapter

/-- The kind of the values that a schema puts under a machine type. -/
def Dtype.kind? : Dtype → Option ValueKind
  | bool => some .bool
  | int8 | int16 | int32 | int64 | uint8 | uint16 | uint32 | uint64 => some .int
  | float32 | float64 => some .float
  | datetimeNs => some .timestamp
  | timedeltaNs => some .timedelta
  | object => none

structure ColumnConforms (cursor : ResultCursor) (p : String × DataType) (c : Column) : Prop where
  name_eq : c.name = p.1
  dtype_eq : c.dtype = p.2.dtype
  length_eq : c.values.length = cursor.rows.length
  inhabits : ∀ v ∈ c.values, Inhabits p.2 v
  kind : c.dtype ≠ .object → ∃ k, c.dtype.kind? = some k ∧ ∀ v ∈ c.values, v = .null ∨ v.kind = k
  /-- One place of the rows, for all of them. -/
  converted : ∃ j : ℕ, cursor.columns[j]? = some p.1 ∧
    List.Forall₂ (fun (row : List Value) w => ∃ v, row[j]? = some v ∧ coerce p.2 v = .ok w)
      cursor.rows c.values

def Frame.Conforms (f : Frame) (s : Schema) (cursor : ResultCursor) : Prop :=
  List.Forall₂ (ColumnConforms cursor) s.columns f.columns

variable {t : DataType} {c : Column} {p : String × DataType} {s : Schema} {f g frame : Frame}
  {cursor : ResultCursor}

theorem kind_of_inhabits (hobject : t.dtype ≠ .object) :
    ∃ k, t.dtype.kind? = some k ∧ ∀ v, Inhabits t v → v = .null ∨ v.kind = k := by
  cases t with
  | array | struct | unrecognized => exact absurd rfl hobject
  | primitive p =>
    obtain ⟨k, hdtype, hp⟩ : ∃ k, (DataType.primitive p).dtype.kind? = some k ∧
        p.kind? = some k := by
      cases p with
      | null | string | binary | date | time => exact absurd rfl hobject
      | boolean | int64 | double | timestamp | interval => exact ⟨_, rfl, rfl⟩
    refine ⟨k, hdtype, fun v hv => ?_⟩
    rw [Inhabits, hp] at hv
    exact hv.imp_right fun h => (Option.some.inj h.2).symm

/-- To conform is to be converted from a place of the name; the rest follows. -/
theorem columnConforms_iff (hwidths : ∀ row ∈ cursor.rows, row.length = cursor.columns.length) :
    ColumnConforms cursor p c ↔ ∃ j : ℕ, cursor.columns[j]? = some p.1 ∧
      coerceColumn p.1 p.2 (.ofValues p.1 (placeValues cursor.rows j)) = .ok c := by
  constructor
  · rintro ⟨hname, hdtype, -, -, -, j, hj, hrows⟩
    refine ⟨j, hj, coerceColumn_eq_ok_iff.2 ⟨hname, hdtype, ?_⟩⟩
    exact (forall₂_placeValues_iff hwidths hj).2 hrows
  · rintro ⟨j, hj, h⟩
    obtain ⟨hname, hdtype, hvalues⟩ := coerceColumn_eq_ok_iff.1 h
    have hrows := (forall₂_placeValues_iff hwidths hj).1 hvalues
    have hinhabits : ∀ v ∈ c.values, Inhabits p.2 v :=
      forall_mem_of_forall₂ hvalues fun v w => inhabits_of_coerce
    refine ⟨hname, hdtype, hrows.length_eq.symm, hinhabits, fun hobject => ?_, j, hj, hrows⟩
    rw [hdtype] at hobject ⊢
    obtain ⟨k, hk, hall⟩ := kind_of_inhabits hobject
    exact ⟨k, hk, fun v hv => hall v (hinhabits v hv)⟩

theorem conforms_of_applyTo (h : cursor.toFrame = .ok f) (happly : s.applyTo f = .ok g) :
    g.Conforms s cursor := by
  obtain ⟨hwidths, rfl⟩ := Frame.ofRows_eq_ok_iff.1 h
  refine (forall₂_of_applyTo happly).imp fun p c => ?_
  rintro ⟨d, hd, hname, hc⟩
  obtain ⟨j, name, hj, rfl⟩ := Frame.mem_transposed_iff.1 hd
  obtain rfl : name = p.1 := hname
  exact (columnConforms_iff hwidths).2 ⟨j, hj, hc⟩

/-- With distinct names in the result, only one frame conforms to a schema. -/
theorem applyTo_of_conforms (hnodup : cursor.columns.Nodup) (h : cursor.toFrame = .ok f)
    (hconforms : g.Conforms s cursor) : s.applyTo f = .ok g := by
  obtain ⟨hwidths, rfl⟩ := Frame.ofRows_eq_ok_iff.1 h
  have hkept : s.names.Pairwise
      (KeepsFirst (Frame.mk (Frame.transposed cursor.columns cursor.rows)).names) := by
    rw [Frame.names_transposed]
    refine List.pairwise_of_forall fun earlier later => ?_
    exact .inl (List.nodup_iff_count_le_one.1 hnodup later)
  rw [applyTo_eq_of_keepsFirst hkept, Schema.applyToFirst, map_eq_ok_iff]
  refine ⟨g.columns, mapM_eq_ok_iff.2 (hconforms.imp fun p c hc => ?_), rfl⟩
  obtain ⟨j, hj, hcoerce⟩ := (columnConforms_iff hwidths).1 hc
  exact convertFirst_eq_ok_iff.2 ⟨_, Frame.column?_transposed hnodup hj, hcoerce⟩

namespace Query

theorem frameOf_eq_ok_iff {rows : Except WarehouseError ResultCursor} :
    frameOf s rows = .ok frame ↔
      ∃ cursor, rows = .ok cursor ∧ ∃ f, cursor.toFrame = .ok f ∧ s.applyTo f = .ok frame := by
  simp only [frameOf, bind_eq_ok_iff, mapError_eq_ok_iff]

variable {C : Type} [WarehouseClient C] {q : Query} {client : C}

theorem execute_eq_ok_iff : (q.execute client).1 = .ok frame ↔
    q.state = .parametersBound ∧ ∃ (job : WarehouseClient.Job C) (client' : C),
      WarehouseClient.submit client q.statement.sql q.parameters q.billingProject =
        (.ok job, client') ∧
      frameOf q.statement.schema (WarehouseClient.wait job) = .ok frame := by
  by_cases hstate : q.state = .parametersBound
  · rw [execute_of_parametersBound hstate, run]
    cases WarehouseClient.submit client q.statement.sql q.parameters q.billingProject with
    | mk result client' =>
      cases result with
      | error e => simp
      | ok job => simp [hstate]
  · simp [execute_of_ne_parametersBound hstate, hstate]

/-- A result conforms to the schema of the statement, whatever the warehouse answers. If the columns
of the answer have distinct names and its rows their width, a conforming frame is the result. -/
theorem execute_conforms (q : Query) (client : C) :
    (∀ frame, (q.execute client).1 = .ok frame →
      ∃ (job : WarehouseClient.Job C) (client' : C) (cursor : ResultCursor),
        WarehouseClient.submit client q.statement.sql q.parameters q.billingProject =
          (.ok job, client') ∧
        WarehouseClient.wait job = .ok cursor ∧ frame.Conforms q.statement.schema cursor) ∧
      ∀ (job : WarehouseClient.Job C) (client' : C) (cursor : ResultCursor) (frame : Frame),
        q.state = .parametersBound →
        WarehouseClient.submit client q.statement.sql q.parameters q.billingProject =
          (.ok job, client') →
        WarehouseClient.wait job = .ok cursor → cursor.columns.Nodup →
        (∀ row ∈ cursor.rows, row.length = cursor.columns.length) →
        frame.Conforms q.statement.schema cursor → (q.execute client).1 = .ok frame := by
  constructor
  · intro frame h
    obtain ⟨-, job, client', hsubmit, hframe⟩ := execute_eq_ok_iff.1 h
    obtain ⟨cursor, hwait, f, htoFrame, happly⟩ := frameOf_eq_ok_iff.1 hframe
    exact ⟨job, client', cursor, hsubmit, hwait, conforms_of_applyTo htoFrame happly⟩
  · intro job client' cursor frame hstate hsubmit hwait hnodup hwidths hconforms
    have htoFrame : cursor.toFrame = .ok ⟨Frame.transposed cursor.columns cursor.rows⟩ :=
      Frame.ofRows_eq_ok_iff.2 ⟨hwidths, rfl⟩
    have happly := applyTo_of_conforms hnodup htoFrame hconforms
    exact execute_eq_ok_iff.2 ⟨hstate, job, client', hsubmit,
      frameOf_eq_ok_iff.2 ⟨cursor, hwait, _, htoFrame, happly⟩⟩

/-- The columns are put into the order of the schema, and both forms of a missing value are null. -/
theorem execute_conforms_reordered :
    let s : Schema := .ofDistinct [("total", .double), ("label", .string)] (by decide)
    let answer : ResultCursor := ⟨["label", "part", "total"],
      [[.str "a", .bool true, .int 1], [.null, .bool false, .float Double.nan]]⟩
    let q : Query := ⟨⟨"SELECT", .table "sales" s, s⟩, "billing", [], .parametersBound⟩
    let client := (default : MemoryWarehouse).setResult "SELECT" answer
    let frame : Frame := ⟨[⟨"total", .float64, [.float (Double.ofInt 1), .null]⟩,
      ⟨"label", .object, [.str "a", .null]⟩]⟩
    (q.execute client).1 = .ok frame ∧ frame.Conforms s answer ∧
      ∀ other : Frame, other.Conforms s answer → (q.execute client).1 = .ok other := by
  intro s answer q client frame
  have h : (q.execute client).1 = .ok frame := rfl
  have hsubmit : WarehouseClient.submit client q.statement.sql q.parameters q.billingProject =
      (.ok ⟨0, .rows answer⟩, (client.submit "SELECT" [] "billing").2) := rfl
  obtain ⟨hresult, hunique⟩ := execute_conforms q client
  obtain ⟨job, client', cursor, hsubmit', hwait, hconforms⟩ := hresult frame h
  obtain ⟨hjob, -⟩ := Prod.mk.inj (hsubmit.symm.trans hsubmit')
  obtain rfl := Except.ok.inj hjob
  obtain rfl : answer = cursor := Except.ok.inj hwait
  refine ⟨h, hconforms, fun other hother => ?_⟩
  exact hunique _ _ answer other rfl hsubmit rfl (by decide) (by decide) hother

end Query

end WarehouseAdapter
