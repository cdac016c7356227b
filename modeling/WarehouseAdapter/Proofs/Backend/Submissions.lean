import WarehouseAdapter.Proofs.Backend.CurrentDataset
import WarehouseAdapter.Proofs.Query.BoundNames

/-!
# Submissions of a backend

A backend on a warehouse in memory leaves its datasets and results as they are, whatever is called.
The log of the warehouse grows by one entry for each synchronous execution whose parameters all
bind, whether or not the job succeeds and its rows make a frame, and by nothing for any other call.
-/

namespace WarehouseAdapter

namespace Backend

/-- A call of a backend. -/
inductive Call
  | on (op : Operation) (database : Option String)
  | existsDatabase (name : String)
  | listDatabases (like : Option String)
  | setDatabase (name : String)
  | query (statement : Statement) (given : List (ScalarParameter × Value))
  | execute (statement : Statement) (given : List (ScalarParameter × Value)) (mode : ExecutionMode)

namespace Call

abbrev Answer : Call → Type
  | on op _ => op.Answer
  | existsDatabase _ => Except QueryError Bool
  | listDatabases _ => Except QueryError (List String)
  | setDatabase _ => Unit
  | query _ _ => Except QueryError Query
  | execute _ _ _ => Except QueryError Frame

def perform {C : Type} [WarehouseClient C] [PatternLibrary] (b : Backend C) :
    (c : Call) → c.Answer × Backend C
  | on op database => (op.run b database, b)
  | existsDatabase name => (b.existsDatabase name, b)
  | listDatabases like => (b.listDatabases like, b)
  | setDatabase name => ((), b.setDatabase name)
  | query statement given => (b.query statement given, b)
  | execute statement given mode => b.execute statement given mode

/-- The entry that a call makes in the log: each given parameter is bound under its name. -/
def Submits (billing : String) : Call → Submission → Prop
  | execute statement given .synchronous, s =>
    s.statement = statement.sql ∧ s.billingProject = billing ∧
      List.Forall₂ (fun g b => ∃ name, LastNamed statement.expr.parameters g.1 name ∧
        bindParameter name g.1.dataType g.2 = .ok b) given s.parameters
  | _, _ => False

end Call

/-- A log with one entry for each call that makes one, in the order of the calls. -/
inductive Logged (billing : String) : List Call → List Submission → Prop
  | nil : Logged billing [] []
  | submitted {c calls s log} (h : c.Submits billing s) (hrest : Logged billing calls log) :
      Logged billing (c :: calls) (s :: log)
  | silent {c calls log} (h : ∀ s, ¬ c.Submits billing s) (hrest : Logged billing calls log) :
      Logged billing (c :: calls) log

/-- One backend comes after another one when only the log of its warehouse has grown. -/
structure Extends (b b' : Backend MemoryWarehouse) (log : List Submission) : Prop where
  datasets_eq : b'.client.datasets = b.client.datasets
  outcomes_eq : b'.client.outcomes = b.client.outcomes
  submissions_eq : b'.client.submissions = b.client.submissions ++ log
  billingProject_eq : b'.billingProject = b.billingProject

variable {b b' b'' : Backend MemoryWarehouse} {c : Call} {statement : Statement} {billing : String}
  {given : List (ScalarParameter × Value)} {s : Submission} {log log' : List Submission} {q : Query}

namespace Extends

theorem refl (b : Backend MemoryWarehouse) : Extends b b [] :=
  ⟨rfl, rfl, (List.append_nil _).symm, rfl⟩

theorem trans (h : Extends b b' log) (h' : Extends b' b'' log') : Extends b b'' (log ++ log') where
  datasets_eq := h'.datasets_eq.trans h.datasets_eq
  outcomes_eq := h'.outcomes_eq.trans h.outcomes_eq
  submissions_eq := by rw [h'.submissions_eq, h.submissions_eq, List.append_assoc]
  billingProject_eq := h'.billingProject_eq.trans h.billingProject_eq

end Extends

theorem submits_execute_iff :
    (Call.execute statement given .synchronous).Submits billing s ↔
      ∃ q, Query.prepare statement billing given = .ok q ∧ s.statement = q.statement.sql ∧
        s.billingProject = q.billingProject ∧ s.parameters = q.parameters := by
  simp only [Query.prepare_eq_ok_iff, Query.bindNamed_eq_ok_iff, Call.Submits]
  constructor
  · rintro ⟨hstatement, hbilling, hparameters⟩
    exact ⟨_, ⟨s.parameters, hparameters, rfl⟩, hstatement, hbilling, rfl⟩
  · rintro ⟨q, ⟨bs, hbs, rfl⟩, hstatement, hbilling, rfl⟩
    exact ⟨hstatement, hbilling, hbs⟩

/-- A parameter binds if it occurs and its value is admissible. -/
theorem exists_bound_iff {e : Expr} {p : ScalarParameter} {v : Value} :
    (∃ b name, LastNamed e.parameters p name ∧ bindParameter name p.dataType v = .ok b) ↔
      (∃ name, (p, name) ∈ e.parameters) ∧ p.dataType.Admits v := by
  constructor
  · rintro ⟨b, name, hlast, hb⟩
    exact ⟨⟨name, hlast.mem⟩, (bindParameter_succeedsIff name p.dataType v).ok_iff.1 ⟨b, hb⟩⟩
  · rintro ⟨⟨name, hmem⟩, hadmits⟩
    obtain ⟨last, hlast⟩ := exists_lastNamed hmem
    obtain ⟨b, hb⟩ := (bindParameter_succeedsIff last p.dataType v).ok_iff.2 hadmits
    exact ⟨b, last, hlast, hb⟩

/-- The calls that make an entry: all given parameters occur and their values are admissible. -/
theorem exists_submits_iff : (∃ s, c.Submits billing s) ↔
    ∃ statement given, c = .execute statement given .synchronous ∧
      ∀ g ∈ given, (∃ name, (g.1, name) ∈ statement.expr.parameters) ∧
        g.1.dataType.Admits g.2 := by
  simp only [← exists_bound_iff, ← exists_forall₂_iff]
  constructor
  · rintro ⟨s, h⟩
    cases c with
    | on | existsDatabase | listDatabases | setDatabase | query => exact h.elim
    | execute statement given mode =>
      cases mode with
      | asynchronous => exact h.elim
      | synchronous => exact ⟨statement, given, rfl, s.parameters, h.2.2⟩
  · rintro ⟨statement, given, rfl, bs, hbs⟩
    exact ⟨⟨0, statement.sql, bs, billing⟩, rfl, rfl, hbs⟩

/-- What a query leaves behind when it runs on a warehouse in memory. -/
theorem run_memory (q : Query) (w : MemoryWarehouse) : (q.run w).2 =
    { w with submissions := w.submissions ++
        [⟨w.submissions.length, q.statement.sql, q.parameters, q.billingProject⟩] } := rfl

theorem extends_execute_of_ok (h : Query.prepare statement b.billingProject given = .ok q) :
    Extends b (b.execute statement given .synchronous).2
      [⟨b.client.submissions.length, q.statement.sql, q.parameters, q.billingProject⟩] := by
  have hstate : q.state = .parametersBound := by
    obtain ⟨bs, -, rfl⟩ := Query.prepare_eq_ok_iff.1 h
    rfl
  have hafter : (b.execute statement given .synchronous).2 =
      { b with client := (q.run b.client).2 } := by
    rw [execute, query, h]
    simp only [runQuery, Query.execute_of_parametersBound hstate]
  rw [hafter, run_memory]
  exact ⟨rfl, rfl, rfl, rfl⟩

theorem execute_of_error {error : QueryError}
    (h : Query.prepare statement b.billingProject given = .error error) :
    (b.execute statement given .synchronous).2 = b := by
  rw [execute, query, h]

theorem perform_extends [PatternLibrary] (b : Backend MemoryWarehouse) (c : Call) :
    (∃ s, c.Submits b.billingProject s ∧ Extends b (c.perform b).2 [s]) ∨
      (∀ s, ¬ c.Submits b.billingProject s) ∧ Extends b (c.perform b).2 [] := by
  cases c with
  | on | existsDatabase | listDatabases | query => exact .inr ⟨fun _ => id, .refl b⟩
  | setDatabase name => exact .inr ⟨fun _ => id, rfl, rfl, (List.append_nil _).symm, rfl⟩
  | execute statement given mode =>
    cases mode with
    | asynchronous => exact .inr ⟨fun _ => id, .refl b⟩
    | synchronous =>
      cases hq : Query.prepare statement b.billingProject given with
      | ok q =>
        exact .inl ⟨_, submits_execute_iff.2 ⟨q, hq, rfl, rfl, rfl⟩, extends_execute_of_ok hq⟩
      | error error =>
        refine .inr ⟨fun s hs => ?_, ?_⟩
        · obtain ⟨q, hok, -⟩ := submits_execute_iff.1 hs
          rw [hq] at hok
          cases hok
        · rw [Call.perform, execute_of_error hq]
          exact .refl b

/-- A backend after some calls, one after another. -/
def afterCalls {C : Type} [WarehouseClient C] [PatternLibrary] (b : Backend C) (calls : List Call) :
    Backend C :=
  calls.foldl (fun b c => (c.perform b).2) b

theorem exists_logged [PatternLibrary] (b : Backend MemoryWarehouse) (calls : List Call) :
    ∃ log, Extends b (b.afterCalls calls) log ∧ Logged b.billingProject calls log := by
  induction calls generalizing b with
  | nil => exact ⟨[], .refl b, .nil⟩
  | cons c calls ih =>
    obtain ⟨log, hlog, hrest⟩ := ih (c.perform b).2
    rcases perform_extends b c with ⟨s, hs, hextends⟩ | ⟨hs, hextends⟩
    · rw [hextends.billingProject_eq] at hrest
      exact ⟨s :: log, hextends.trans hlog, .submitted hs hrest⟩
    · rw [hextends.billingProject_eq] at hrest
      exact ⟨log, hextends.trans hlog, .silent hs hrest⟩

/-- Whatever is called, only the log of the warehouse grows, by the entries of those calls that make
one; these are the synchronous executions whose parameters all occur and have admissible values. -/
theorem submissions_of_calls [PatternLibrary] (b : Backend MemoryWarehouse) (calls : List Call) :
    (∃ log, Extends b (b.afterCalls calls) log ∧ Logged b.billingProject calls log) ∧
      ∀ c : Call, (∃ s, c.Submits b.billingProject s) ↔
        ∃ statement given, c = .execute statement given .synchronous ∧
          ∀ g ∈ given, (∃ name, (g.1, name) ∈ statement.expr.parameters) ∧
            g.1.dataType.Admits g.2 :=
  ⟨exists_logged b calls, fun _ => exists_submits_iff⟩

end Backend

end WarehouseAdapter
