import WarehouseAdapter.Proofs.FirstColumns
import WarehouseAdapter.Proofs.Query.BoundNames
import WarehouseAdapter.Proofs.Query.Rows
import WarehouseAdapter.Warehouse.Memory

/-!
# The life of a query

A query may be called any number of times, and others may use the warehouse in between. Its first
call makes one request and settles its state; every later call is refused in that state and leaves
the query and the warehouse alone. `Recorded` adds to a warehouse the requests that the query makes
of it, and `Failure` says where a first call can fail.
-/

namespace WarehouseAdapter

/-- What a query hands to the warehouse. -/
structure Request where
  statement : String
  parameters : List BoundParameter
  billingProject : String

/-- A warehouse with the requests made of it so far. -/
structure Recorded (C : Type) where
  client : C
  requests : List Request

variable {C : Type} [WarehouseClient C]

namespace Recorded

instance : WarehouseClient (Recorded C) where
  Job := WarehouseClient.Job C
  getTable r := WarehouseClient.getTable r.client
  getDataset r := WarehouseClient.getDataset r.client
  listDatasets r := WarehouseClient.listDatasets r.client
  listTables r := WarehouseClient.listTables r.client
  submit r statement parameters billingProject :=
    let (job, client) := WarehouseClient.submit r.client statement parameters billingProject
    (job, ⟨client, r.requests ++ [⟨statement, parameters, billingProject⟩]⟩)
  wait job := WarehouseClient.wait (C := C) job

theorem submit_eq (r : Recorded C) (statement : String) (parameters : List BoundParameter)
    (billingProject : String) :
    WarehouseClient.submit r statement parameters billingProject =
      let (job, client) := WarehouseClient.submit r.client statement parameters billingProject
      (job, ⟨client, r.requests ++ [⟨statement, parameters, billingProject⟩]⟩) := rfl

/-- The warehouse after others have used it. -/
def changed (r : Recorded C) (change : C → C) : Recorded C := { r with client := change r.client }

omit [WarehouseClient C] in
theorem foldl_changed_requests (changes : List (C → C)) (r : Recorded C) :
    (changes.foldl changed r).requests = r.requests := by
  induction changes generalizing r with
  | nil => rfl
  | cons change changes ih => rw [List.foldl_cons, ih, changed]

end Recorded

namespace Query

variable {q : Query} {client : C} {r : Recorded C}

/-- Calls of a query one after another, each after others have changed the warehouse: the result and
the query after each call, and the warehouse at the end. -/
def calls (q : Query) (r : Recorded C) :
    List (C → C) → List (Except QueryError Frame × Query) × Recorded C
  | [] => ([], r)
  | change :: later =>
    let (result, q, r) := q.execute (r.changed change)
    let (results, r) := calls q r later
    ((result, q) :: results, r)

/-- Where the answer of a job does not make a frame: the job fails, a row has not one value for each
column, or a column of the schema is missing or does not convert. -/
inductive AnswerFailure (s : Schema) : Except WarehouseError ResultCursor → QueryError → Prop
  | job (error) : AnswerFailure s (.error error) (.warehouse error)
  | rows {cursor : ResultCursor} {index width}
      (h : cursor.toFrame = .error (.raggedRow index width cursor.columns.length)) :
      AnswerFailure s (.ok cursor) (.schema (.raggedRow index width cursor.columns.length))
  | missing {cursor : ResultCursor} {f name} (hframe : cursor.toFrame = .ok f)
      (h : s.applyTo f = .error (.columnNotFound name)) :
      AnswerFailure s (.ok cursor) (.schema (.columnNotFound name))
  | conversion {cursor : ResultCursor} {f name fault} (hframe : cursor.toFrame = .ok f)
      (h : s.applyTo f = .error (.coercion name fault)) :
      AnswerFailure s (.ok cursor) (.schema (.coercion name fault))

/-- Where a first call fails: the warehouse refuses the request, or its answer makes no frame. -/
inductive Failure (q : Query) (client : C) : QueryError → Prop
  | submission {client' error}
      (h : WarehouseClient.submit client q.statement.sql q.parameters q.billingProject =
        (.error error, client')) : Failure q client (.warehouse error)
  | answer {job client' error}
      (hsubmit : WarehouseClient.submit client q.statement.sql q.parameters q.billingProject =
        (.ok job, client'))
      (h : AnswerFailure q.statement.schema (WarehouseClient.wait job) error) :
      Failure q client error

theorem applyTo_error {s : Schema} {f : Frame} {error : SchemaError}
    (h : s.applyTo f = .error error) :
    (∃ name, error = .columnNotFound name) ∨ ∃ name fault, error = .coercion name fault := by
  obtain ⟨sorted, -, happly⟩ := exists_perm_applyTo s f
  rw [happly, Schema.applyToFirst, map_eq_error_iff] at h
  obtain ⟨p, -, hp⟩ := exists_of_mapM_eq_error h
  rw [Frame.convertFirst] at hp
  cases hc : sorted.column? p.1 with
  | none =>
    rw [hc] at hp
    exact .inl ⟨p.1, (Except.error.inj hp).symm⟩
  | some c =>
    simp only [hc, coerceColumn] at hp
    cases hvalues : c.values.mapM (coerce p.2) with
    | ok values => simp [hvalues] at hp
    | error fault =>
      simp only [hvalues] at hp
      exact .inr ⟨p.1, fault, (Except.error.inj hp).symm⟩

theorem toFrame_error {cursor : ResultCursor} {error : SchemaError}
    (h : cursor.toFrame = .error error) :
    ∃ index width, error = .raggedRow index width cursor.columns.length := by
  rw [ResultCursor.toFrame, Frame.ofRows_eq] at h
  cases hragged : Frame.ragged? cursor.columns.length cursor.rows with
  | none => simp [hragged] at h
  | some r =>
    simp only [hragged] at h
    exact ⟨r.1, r.2, (Except.error.inj h).symm⟩

theorem frameOf_eq_error_iff {s : Schema} {rows : Except WarehouseError ResultCursor}
    {error : QueryError} : frameOf s rows = .error error ↔ AnswerFailure s rows error := by
  simp only [frameOf, bind_eq_error_iff, mapError_eq_error_iff, mapError_eq_ok_iff]
  constructor
  · rintro (⟨e, rfl, rfl⟩ | ⟨cursor, rfl, ⟨e, he, rfl⟩ | ⟨f, hframe, e, he, rfl⟩⟩)
    · exact .job e
    · obtain ⟨index, width, rfl⟩ := toFrame_error he
      exact .rows he
    · obtain ⟨name, rfl⟩ | ⟨name, fault, rfl⟩ := applyTo_error he
      · exact .missing hframe he
      · exact .conversion hframe he
  · intro h
    cases h with
    | job e => exact .inl ⟨e, rfl, rfl⟩
    | rows h => exact .inr ⟨_, rfl, .inl ⟨_, h, rfl⟩⟩
    | missing hframe h => exact .inr ⟨_, rfl, .inr ⟨_, hframe, _, h, rfl⟩⟩
    | conversion hframe h => exact .inr ⟨_, rfl, .inr ⟨_, hframe, _, h, rfl⟩⟩

theorem run_eq_error_iff {error : QueryError} :
    (q.run client).1 = .error error ↔ Failure q client error := by
  rw [run]
  cases hsubmit : WarehouseClient.submit client q.statement.sql q.parameters q.billingProject with
  | mk result client' =>
    cases result with
    | error e =>
      constructor
      · rintro ⟨⟩
        exact .submission hsubmit
      · intro h
        cases h with
        | submission h =>
          rw [hsubmit] at h
          cases h
          rfl
        | answer h =>
          rw [hsubmit] at h
          cases h
    | ok job =>
      refine frameOf_eq_error_iff.trans ⟨.answer hsubmit, fun h => ?_⟩
      cases h with
      | submission h =>
        rw [hsubmit] at h
        cases h
      | answer h hanswer =>
        rw [hsubmit] at h
        cases h
        exact hanswer

theorem stateAfter_eq_completed_iff {result : Except QueryError Frame} :
    stateAfter result = .completed ↔ ∃ f, result = .ok f := by
  cases result with
  | ok f => simp [stateAfter]
  | error e => simp [stateAfter]

theorem stateAfter_eq_failed_iff {result : Except QueryError Frame} :
    stateAfter result = .failed ↔ ∃ e, result = .error e := by
  cases result with
  | ok f => simp [stateAfter]
  | error e => simp [stateAfter]

theorem stateAfter_settled (result : Except QueryError Frame) :
    stateAfter result = .completed ∨ stateAfter result = .failed := by
  cases result with
  | ok f => exact .inl rfl
  | error e => exact .inr rfl

/-- A run makes one request, and its result is that of the warehouse beneath. -/
theorem run_recorded (q : Query) (r : Recorded C) :
    (q.run r).1 = (q.run r.client).1 ∧ (q.run r).2.requests =
      r.requests ++ [⟨q.statement.sql, q.parameters, q.billingProject⟩] := by
  simp only [run]
  cases hsubmit : WarehouseClient.submit r.client q.statement.sql q.parameters q.billingProject with
  | mk result client' =>
    have hrecorded : WarehouseClient.submit r q.statement.sql q.parameters q.billingProject =
        (result, ⟨client', r.requests ++
          [⟨q.statement.sql, q.parameters, q.billingProject⟩]⟩) := by
      rw [Recorded.submit_eq, hsubmit]
    rw [hrecorded]
    cases result with
    | error e => exact ⟨rfl, rfl⟩
    | ok job => exact ⟨rfl, rfl⟩

/-- Once a query has left the state in which its parameters are bound, calls do nothing. -/
theorem calls_of_ne_parametersBound (h : q.state ≠ .parametersBound) (r : Recorded C)
    (later : List (C → C)) : calls q r later =
      (later.map fun _ => (.error (.invalidState q.state), q), later.foldl Recorded.changed r) := by
  induction later generalizing r with
  | nil => rfl
  | cons change later ih =>
    rw [calls, execute_of_ne_parametersBound h]
    simp only [ih]
    rfl

theorem calls_cons (h : q.state = .parametersBound) (r : Recorded C) (change : C → C)
    (later : List (C → C)) :
    let result := (q.run (r.changed change)).1
    let after : Query := { q with state := stateAfter result }
    calls q r (change :: later) =
      ((result, after) :: later.map fun _ => (.error (.invalidState after.state), after),
        later.foldl Recorded.changed (q.run (r.changed change)).2) := by
  intro result after
  have hafter : after.state ≠ .parametersBound := by
    rcases stateAfter_settled result with h | h <;> simp [after, h]
  rw [calls, execute_of_parametersBound h]
  simp only [calls_of_ne_parametersBound hafter, result, after]

/-- Of all calls of a query only the first reaches the warehouse, with one request. It leaves the
query completed if it has a result and failed if it has an error, wherever the error comes from;
every later call is refused in that state, and the query stays as it is. -/
theorem execute_once {statement : Statement} {billing : String}
    {given : List (ScalarParameter × Value)} (h : prepare statement billing given = .ok q)
    (r : Recorded C) (change : C → C) (later : List (C → C)) :
    q.state = .parametersBound ∧
      ∃ result after r', q.execute (r.changed change) = (result, after, r') ∧
        r'.requests = r.requests ++ [⟨statement.sql, q.parameters, billing⟩] ∧
        (after.state = .completed ↔ ∃ f, result = .ok f) ∧
        (after.state = .failed ↔ ∃ e, result = .error e) ∧
        (∀ e, result = .error e ↔ Failure q (change r.client) e) ∧
        calls q r (change :: later) =
          ((result, after) :: later.map fun _ => (.error (.invalidState after.state), after),
            later.foldl Recorded.changed r') ∧
        (calls q r (change :: later)).2.requests =
          r.requests ++ [⟨statement.sql, q.parameters, billing⟩] ∧
        ∀ x ∈ (calls q r (change :: later)).1, x.2.state = .completed ∨ x.2.state = .failed := by
  obtain ⟨bs, -, hq⟩ := prepare_eq_ok_iff.1 h
  have hstate : q.state = .parametersBound := by rw [hq]
  have hrequest : (⟨statement.sql, q.parameters, billing⟩ : Request) =
      ⟨q.statement.sql, q.parameters, q.billingProject⟩ := by rw [hq]
  obtain ⟨hresult, hrequests⟩ := run_recorded q (r.changed change)
  have hcalls := calls_cons hstate r change later
  rw [hrequest]
  refine ⟨hstate, _, _, _, execute_of_parametersBound hstate _, hrequests,
    stateAfter_eq_completed_iff, stateAfter_eq_failed_iff, fun e => ?_, hcalls, ?_, ?_⟩
  · rw [hresult]
    exact run_eq_error_iff
  · rw [hcalls, Recorded.foldl_changed_requests]
    exact hrequests
  · intro x hx
    have hx' : x.2.state = stateAfter (q.run (r.changed change)).1 := by
      rw [hcalls] at hx
      obtain rfl | hx := List.mem_cons.1 hx
      · rfl
      · obtain ⟨_, -, rfl⟩ := List.mem_map.1 hx
        rfl
    rw [hx']
    exact stateAfter_settled _

/-- Others set an answer before the first call and another one after it. -/
theorem execute_once_reset :
    let s : Schema := .ofDistinct [("total", .int64)] (by decide)
    let n : ScalarParameter := ⟨1, .int64⟩
    let statement : Statement := ⟨"SELECT @n", .named (.parameter n) "n", s⟩
    let bound : List BoundParameter := [.scalar "n" .int64 (.int64 5)]
    let q : Query := ⟨statement, "billing", bound, .parametersBound⟩
    let frame : Frame := ⟨[⟨"total", .int64, [.int 5]⟩]⟩
    let r : Recorded MemoryWarehouse := ⟨{}, []⟩
    let answer := fun w : MemoryWarehouse => w.setResult "SELECT @n" ⟨["total"], [[.int 5]]⟩
    let failure := fun w : MemoryWarehouse => w.setFailure "SELECT @n" "late"
    prepare statement "billing" [(n, .int 5)] = .ok q ∧
      (calls q r [answer, failure]).1 = [(.ok frame, { q with state := .completed }),
        (.error (.invalidState .completed), { q with state := .completed })] ∧
      (calls q r [answer, failure]).2.requests = [⟨"SELECT @n", bound, "billing"⟩] := by
  intro s n statement bound q frame r answer failure
  have hq : prepare statement "billing" [(n, .int 5)] = .ok q := by
    refine prepare_eq_ok_iff.2 ⟨_, .cons (bindNamed_eq_ok_iff.2 ⟨"n", ?_, rfl⟩) .nil, rfl⟩
    rw [Expr.parameters_eq_occurrences]
    exact ⟨[], [], rfl, by decide⟩
  obtain ⟨-, result, after, r', hexecute, -, -, -, -, hcalls, hrequests, -⟩ :=
    execute_once hq r answer [failure]
  have hresult : result = .ok frame := (congrArg Prod.fst hexecute).symm
  have hafter : after = { q with state := .completed } :=
    (congrArg (fun x => x.2.1) hexecute).symm
  refine ⟨hq, ?_, hrequests⟩
  rw [hcalls, hresult, hafter]
  rfl

end Query

end WarehouseAdapter
