import WarehouseAdapter.Proofs.Warehouse.StoredTables

/-!
# Histories of a warehouse in memory

What a warehouse in memory answers is decided by the calls made on it: the last registration of a
table, the calls that make a dataset, and for a job the last result set for its statement before it
was submitted.
-/

namespace WarehouseAdapter

/-- The last element with a property. -/
def LastOf {α : Type} (p : α → Prop) (xs : List α) (x : α) : Prop :=
  ∃ before after, xs = before ++ x :: after ∧ p x ∧ ∀ y ∈ after, ¬ p y

section LastOf

variable {α : Type} {p : α → Prop} {xs : List α} {x y : α}

theorem LastOf.holds (h : LastOf p xs x) : p x := by
  obtain ⟨-, -, -, hx, -⟩ := h
  exact hx

theorem not_lastOf_nil : ¬ LastOf p [] x := by
  rintro ⟨before, after, heq, -⟩
  exact List.append_ne_nil_of_right_ne_nil before (List.cons_ne_nil x after) heq.symm

/-- An element at the end is the last one if it has the property, and else it is passed over. -/
theorem lastOf_concat : LastOf p (xs ++ [x]) y ↔ p x ∧ y = x ∨ ¬ p x ∧ LastOf p xs y := by
  constructor
  · rintro ⟨before, after, heq, hy, hafter⟩
    rcases List.eq_nil_or_concat' after with rfl | ⟨rest, z, rfl⟩
    · obtain ⟨-, hx⟩ := List.append_inj' heq rfl
      cases hx
      exact .inl ⟨hy, rfl⟩
    · rw [← List.cons_append, ← List.append_assoc] at heq
      obtain ⟨hxs, hx⟩ := List.append_inj' heq rfl
      cases hx
      refine .inr ⟨hafter x (by simp), before, rest, hxs, hy, fun z hz => ?_⟩
      exact hafter z (List.mem_append_left _ hz)
  · rintro (⟨hx, rfl⟩ | ⟨hx, before, after, rfl, hy, hafter⟩)
    · exact ⟨xs, [], rfl, hx, by simp⟩
    · refine ⟨before, after ++ [x], by simp, hy, fun z hz => ?_⟩
      rcases List.mem_append.1 hz with hz | hz
      · exact hafter z hz
      · rw [List.mem_singleton.1 hz]
        exact hx

theorem exists_lastOf_iff : (∃ y, LastOf p xs y) ↔ ∃ x ∈ xs, p x := by
  induction xs using List.reverseRecOn with
  | nil => simp [not_lastOf_nil]
  | append_singleton xs x ih =>
    simp only [lastOf_concat, exists_or, exists_and_left, exists_eq, and_true, ih, List.mem_append,
      List.mem_singleton, or_and_right, exists_eq_left]
    by_cases hx : p x <;> simp [hx]

/-- What is absent has nothing to make it present. -/
theorem eq_none_iff_of_isSome_iff {β : Type} {o : Option β} (h : o.isSome ↔ ∃ x ∈ xs, p x) :
    o = none ↔ ∀ x ∈ xs, ¬ p x := by
  rw [← Option.isNone_iff_eq_none, ← Option.isSome_eq_false_iff, ← Bool.not_eq_true, h]
  simp only [not_exists, not_and]

end LastOf

namespace MemoryWarehouse

/-- A call that changes a warehouse or its log. -/
inductive Call
  | addDataset (d : DatasetReference)
  | addTable (t : TableDescriptor)
  | setResult (statement : String) (cursor : ResultCursor)
  | setFailure (statement text : String)
  | query (statement : String) (parameters : List BoundParameter) (billingProject : String)

namespace Call

def Registers (r : TableReference) : Call → Prop
  | addTable t => t.reference = r
  | _ => False

/-- The call adds a dataset, or a table to it. -/
def Makes (d : DatasetReference) : Call → Prop
  | addDataset d' => d' = d
  | addTable t => t.reference.inDataset = d
  | _ => False

def Sets (statement : String) : Call → Prop
  | setResult s _ | setFailure s _ => s = statement
  | _ => False

def isQuery : Call → Bool
  | query _ _ _ => true
  | _ => false

/-- The call that an entry of the log is about. -/
def ofSubmission (s : Submission) : Call := .query s.statement s.parameters s.billingProject

theorem exists_of_registers {c : Call} {r : TableReference} (h : c.Registers r) :
    ∃ t, c = .addTable t := by
  cases c with
  | addTable t => exact ⟨t, rfl⟩
  | addDataset | setResult | setFailure | query => cases h

theorem exists_of_isQuery {c : Call} (h : c.isQuery) :
    ∃ statement parameters billingProject, c = .query statement parameters billingProject := by
  cases c with
  | query statement parameters billingProject => exact ⟨_, _, _, rfl⟩
  | addDataset | addTable | setResult | setFailure => cases h

end Call

/-- A warehouse with the jobs that were submitted to it. -/
structure Session where
  warehouse : MemoryWarehouse := {}
  jobs : List MemoryJob := []

def Session.perform (s : Session) : Call → Session
  | .addDataset d => { s with warehouse := s.warehouse.addDataset d }
  | .addTable t => { s with warehouse := s.warehouse.addTable t }
  | .setResult statement cursor =>
    { s with warehouse := s.warehouse.setResult statement cursor }
  | .setFailure statement text => { s with warehouse := s.warehouse.setFailure statement text }
  | .query statement parameters billingProject =>
    let (job, w) := s.warehouse.submit statement parameters billingProject
    ⟨w, s.jobs ++ [job]⟩

/-- A new warehouse after some calls. -/
def session (calls : List Call) : Session := calls.foldl Session.perform {}

/-- The answer of a job to a statement that is submitted after some calls. -/
inductive Answers (calls : List Call) (statement : String) :
    Except WarehouseError ResultCursor → Prop
  | result {cursor} (h : LastOf (Call.Sets statement) calls (.setResult statement cursor)) :
      Answers calls statement (.ok cursor)
  | failure {text} (h : LastOf (Call.Sets statement) calls (.setFailure statement text)) :
      Answers calls statement (.error (.remote text))
  | unset (h : ∀ c ∈ calls, ¬ c.Sets statement) :
      Answers calls statement (.error (.remote ("no result registered for: " ++ statement)))

variable {d : DatasetReference} {t : TableDescriptor} {r : TableReference} {w : MemoryWarehouse}
  {s : Session} {c : Call} {calls : List Call} {statement : String}

namespace Session

/-! ### What a call does -/

theorem table?_perform : (s.perform c).warehouse.table? r = some t ↔
    c.Registers r ∧ .addTable t = c ∨ ¬ c.Registers r ∧ s.warehouse.table? r = some t := by
  cases c with
  | addDataset d =>
    rw [perform, table?_addDataset]
    simp [Call.Registers]
  | addTable t' =>
    rw [perform, table?_addTable, Call.Registers]
    split_ifs with hr <;> simp [hr, eq_comm]
  | setResult | setFailure | query =>
    change s.warehouse.table? r = some t ↔ _
    simp [Call.Registers]

theorem isSome_ite_some_iff {α : Type} {p : Prop} [Decidable p] {x : α} {o : Option α} :
    (if p then some x else o).isSome ↔ p ∨ o.isSome := by
  by_cases hp : p <;> simp [hp]

theorem isSome_tables?_perform : ((s.perform c).warehouse.tables? d).isSome ↔
    c.Makes d ∨ (s.warehouse.tables? d).isSome := by
  cases c with
  | addDataset d' =>
    rw [perform, tables?_addDataset, isSome_ite_some_iff, Call.Makes, eq_comm]
  | addTable t =>
    rw [perform, tables?_addTable, isSome_ite_some_iff, Call.Makes, eq_comm]
  | setResult | setFailure | query => exact (or_iff_right id).symm

theorem inOrder_perform (h : s.warehouse.InOrder) : (s.perform c).warehouse.InOrder := by
  cases c with
  | addDataset d => exact h.addDataset
  | addTable t => exact h.addTable
  | setResult | setFailure | query => exact ⟨h.datasets, h.tables⟩

theorem jobs_perform : ∃ later, (s.perform c).jobs = s.jobs ++ later := by
  cases c with
  | query statement parameters billingProject => exact ⟨[_], rfl⟩
  | addDataset | addTable | setResult | setFailure => exact ⟨[], (List.append_nil _).symm⟩

theorem log_perform_of_not_isQuery (h : c.isQuery = false) : (s.perform c).jobs = s.jobs ∧
    (s.perform c).warehouse.submissions = s.warehouse.submissions := by
  cases c with
  | query => cases h
  | addDataset d =>
    obtain ⟨datasets, hd⟩ := exists_addDataset_eq s.warehouse d
    rw [perform, hd]
    exact ⟨rfl, rfl⟩
  | addTable | setResult | setFailure => exact ⟨rfl, rfl⟩

theorem jobs_foldl_perform (calls : List Call) (s : Session) :
    ∃ later, (calls.foldl perform s).jobs = s.jobs ++ later := by
  induction calls generalizing s with
  | nil => exact ⟨[], (List.append_nil _).symm⟩
  | cons c calls ih =>
    obtain ⟨first, hfirst⟩ := jobs_perform (s := s) (c := c)
    obtain ⟨later, hlater⟩ := ih (s.perform c)
    exact ⟨first ++ later, by rw [List.foldl_cons, hlater, hfirst, List.append_assoc]⟩

end Session

/-! ### What a run of calls does -/

theorem session_concat (calls : List Call) (c : Call) :
    session (calls ++ [c]) = (session calls).perform c := by
  rw [session, List.foldl_concat, session]

theorem table?_session :
    (session calls).warehouse.table? r = some t ↔ LastOf (Call.Registers r) calls (.addTable t) := by
  induction calls using List.reverseRecOn with
  | nil => exact iff_of_false (fun h => nomatch h) not_lastOf_nil
  | append_singleton calls c ih =>
    rw [session_concat, Session.table?_perform, lastOf_concat, ih]

theorem isSome_table?_session :
    ((session calls).warehouse.table? r).isSome ↔ ∃ c ∈ calls, c.Registers r := by
  rw [Option.isSome_iff_exists, ← exists_lastOf_iff]
  simp only [table?_session]
  constructor
  · rintro ⟨t, h⟩
    exact ⟨_, h⟩
  · rintro ⟨c, h⟩
    obtain ⟨t, rfl⟩ := Call.exists_of_registers h.holds
    exact ⟨t, h⟩

theorem isSome_tables?_session :
    ((session calls).warehouse.tables? d).isSome ↔ ∃ c ∈ calls, c.Makes d := by
  induction calls using List.reverseRecOn with
  | nil => exact iff_of_false (fun h => nomatch h) (by simp)
  | append_singleton calls c ih =>
    rw [session_concat, Session.isSome_tables?_perform, ih]
    simp [or_comm, or_and_right, exists_or]

theorem inOrder_session (calls : List Call) : (session calls).warehouse.InOrder := by
  induction calls using List.reverseRecOn with
  | nil => exact ⟨List.Pairwise.nil, fun _ _ h => nomatch h⟩
  | append_singleton calls c ih =>
    rw [session_concat]
    exact Session.inOrder_perform ih

theorem Answers.concat {answer : Except WarehouseError ResultCursor} (hc : ¬ c.Sets statement)
    (h : Answers calls statement answer) : Answers (calls ++ [c]) statement answer := by
  cases h with
  | result h => exact .result (lastOf_concat.2 (.inr ⟨hc, h⟩))
  | failure h => exact .failure (lastOf_concat.2 (.inr ⟨hc, h⟩))
  | unset h =>
    refine .unset fun c' hc' => ?_
    rcases List.mem_append.1 hc' with hc' | hc'
    · exact h c' hc'
    · rw [List.mem_singleton.1 hc']
      exact hc

theorem outcome_cons {key : String} {o : Outcome} :
    outcome { w with outcomes := (key, o) :: w.outcomes } statement =
      if key = statement then o else w.outcome statement := by
  rw [outcome, outcome, List.lookup_cons]
  by_cases hkey : key = statement
  · rw [if_pos hkey, hkey, beq_self_eq_true]
    rfl
  · rw [if_neg hkey, beq_eq_false_iff_ne.2 (Ne.symm hkey)]

/-- The next job for a statement answers by the last result set for it. -/
theorem answers_outcome (calls : List Call) (statement : String) (job : Nat) :
    Answers calls statement (MemoryJob.wait ⟨job, (session calls).warehouse.outcome statement⟩) := by
  induction calls using List.reverseRecOn with
  | nil => exact .unset (by simp)
  | append_singleton calls c ih =>
    rw [session_concat]
    cases c with
    | setResult key cursor =>
      rw [Session.perform, setResult, outcome_cons]
      split_ifs with hkey
      · cases hkey
        exact .result (lastOf_concat.2 (.inl ⟨rfl, rfl⟩))
      · exact ih.concat hkey
    | setFailure key text =>
      rw [Session.perform, setFailure, outcome_cons]
      split_ifs with hkey
      · cases hkey
        exact .failure (lastOf_concat.2 (.inl ⟨rfl, rfl⟩))
      · exact ih.concat hkey
    | addTable | query => exact ih.concat id
    | addDataset d =>
      obtain ⟨datasets, hd⟩ := exists_addDataset_eq (session calls).warehouse d
      rw [Session.perform, hd]
      exact ih.concat id

/-- The log has the calls that are queries, in their order, each under the id of its job. -/
structure Logs (s : Session) (calls : List Call) : Prop where
  queries : s.warehouse.submissions.map Call.ofSubmission = calls.filter Call.isQuery
  jobs : s.jobs.map (·.job) = s.warehouse.submissions.map (·.job)

theorem session_logs (calls : List Call) : Logs (session calls) calls := by
  induction calls using List.reverseRecOn with
  | nil => exact ⟨rfl, rfl⟩
  | append_singleton calls c ih =>
    rw [session_concat]
    cases hc : c.isQuery with
    | false =>
      obtain ⟨hjobs, hsubmissions⟩ := Session.log_perform_of_not_isQuery (s := session calls) hc
      constructor
      · rw [hsubmissions, ih.queries]
        simp [hc]
      · rw [hjobs, hsubmissions, ih.jobs]
    | true =>
      obtain ⟨statement, parameters, billingProject, rfl⟩ := Call.exists_of_isQuery hc
      constructor
      · simp [Session.perform, submit, ih.queries, Call.ofSubmission, hc]
      · simp [Session.perform, submit, ih.jobs]

theorem length_jobs_session (calls : List Call) :
    (session calls).jobs.length = (calls.filter Call.isQuery).length := by
  have hlog := session_logs calls
  rw [← List.length_map (f := (·.job)), hlog.jobs, List.length_map, ← hlog.queries, List.length_map]

/-- The job of a query is kept as it was made when it was submitted. -/
theorem exists_job_session (before after : List Call) (statement : String)
    (parameters : List BoundParameter) (billingProject : String) :
    ∃ job, (session (before ++ .query statement parameters billingProject :: after)).jobs[
        (before.filter Call.isQuery).length]? = some job ∧ Answers before statement job.wait := by
  obtain ⟨later, hlater⟩ := Session.jobs_foldl_perform after
    ((session before).perform (.query statement parameters billingProject))
  refine ⟨_, ?_, answers_outcome before statement (session before).warehouse.submissions.length⟩
  have hsession : session (before ++ .query statement parameters billingProject :: after) =
      after.foldl Session.perform ((session before).perform
        (.query statement parameters billingProject)) := by
    rw [session, List.foldl_append, List.foldl_cons, session]
  rw [hsession, hlater, ← length_jobs_session]
  simp [Session.perform, submit]

/-- All that a session answers is decided by the calls made in it. -/
structure DecidedBy [PatternLibrary] (s : Session) (calls : List Call) : Prop where
  table : ∀ r t, s.warehouse.getTable r = .ok t ↔
    LastOf (Call.Registers r) calls (.addTable t)
  noTable : ∀ r e, s.warehouse.getTable r = .error e ↔
    (∀ c ∈ calls, ¬ c.Registers r) ∧ e = .notFound ("table " ++ r.text)
  reference : ∀ r t, s.warehouse.getTable r = .ok t → t.reference = r
  dataset : ∀ d d', s.warehouse.getDataset d = .ok d' ↔ (∃ c ∈ calls, c.Makes d) ∧ d' = d
  noDataset : ∀ d e, s.warehouse.getDataset d = .error e ↔
    (∀ c ∈ calls, ¬ c.Makes d) ∧ e = missingDataset d
  readded : ∀ d, (∃ c ∈ calls, c.Makes d) → s.perform (.addDataset d) = s
  datasets : ∀ project, Lists (s.warehouse.listDatasets project) fun name =>
    ∃ c ∈ calls, c.Makes ⟨project, name⟩
  tables : ∀ d names, s.warehouse.listTables d = .ok names → Lists names fun name =>
    ∃ c ∈ calls, c.Registers ⟨d.project, d.dataset, name⟩
  noTables : ∀ d e, s.warehouse.listTables d = .error e ↔
    (∀ c ∈ calls, ¬ c.Makes d) ∧ e = missingDataset d
  answers : ∀ before statement parameters billingProject after,
    calls = before ++ .query statement parameters billingProject :: after →
      ∃ job, s.jobs[(before.filter Call.isQuery).length]? = some job ∧
        Answers before statement job.wait
  logs : Logs s calls
  throughBackend : ∀ b : Backend MemoryWarehouse, b.client = s.warehouse → ∀ name database,
    b.existsTable name database = .ok true ∧
        (∃ names, b.listTables none database = .ok names ∧ name ∈ names) ∨
      b.existsTable name database = .ok false ∧
        ¬ ∃ names, b.listTables none database = .ok names ∧ name ∈ names

theorem session_decidedBy [PatternLibrary] (calls : List Call) :
    DecidedBy (session calls) calls where
  table r t := getTable_eq_ok_iff.trans table?_session
  noTable r e := by
    rw [getTable_eq_error_iff, eq_none_iff_of_isSome_iff isSome_table?_session]
  reference r t h := (table?_session.1 (getTable_eq_ok_iff.1 h)).holds
  dataset d d' := by rw [getDataset_eq_ok_iff, isSome_tables?_session]
  noDataset d e := by
    rw [getDataset_eq_error_iff, eq_none_iff_of_isSome_iff isSome_tables?_session]
  readded d h := by
    obtain ⟨tables, htables⟩ := Option.isSome_iff_exists.1 (isSome_tables?_session.2 h)
    rw [Session.perform, addDataset_of_some htables]
  datasets project := by
    simp only [← isSome_tables?_session]
    exact (inOrder_session calls).lists_datasets project
  tables d names h := by
    obtain ⟨tables, htables, rfl⟩ := listTables_eq_ok_iff.1 h
    simp only [← isSome_table?_session]
    exact (inOrder_session calls).lists_tables htables
  noTables d e := by
    rw [listTables_eq_error_iff, eq_none_iff_of_isSome_iff isSome_tables?_session]
  answers before statement parameters billingProject after h := by
    rw [h]
    exact exists_job_session before after statement parameters billingProject
  logs := session_logs calls
  throughBackend b hb name database := by
    rw [Backend.exists_listed_iff, Backend.existsTable_memory]
    cases (b.client.table? (b.tableReference name database)).isSome <;> simp

/-- A job is not touched by what is set after its submission. -/
example : (session [.query "s" [] "p", .setResult "s" ⟨["n"], []⟩, .query "s" [] "p",
      .setFailure "s" "gone"]).jobs.map MemoryJob.wait =
    [.error (.remote "no result registered for: s"), .ok ⟨["n"], []⟩] := by cbv

end MemoryWarehouse

end WarehouseAdapter
