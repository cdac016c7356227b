import WarehouseAdapter.Coercion
import WarehouseAdapter.Parameter.Binding
import WarehouseAdapter.Query.Lineage
import WarehouseAdapter.Warehouse.Client

/-!
# Execution of statements

A query binds its parameters when it is made and runs at most once: it is submitted, awaited, and
its rows are reshaped by the schema of the statement. A second run is refused in the state that the
first one has left.
-/

namespace WarehouseAdapter

inductive QueryState
  | created | parametersBound | submitted | completed | failed
deriving DecidableEq, Repr

def QueryState.name : QueryState → String
  | created => "Created"
  | parametersBound => "ParametersBound"
  | submitted => "Submitted"
  | completed => "Completed"
  | failed => "Failed"

inductive QueryError
  | asynchronous
  | unboundParameter (name : String)
  | invalidState (state : QueryState)
  | invalidPattern
  | schema (error : SchemaError)
  | binding (error : BindingError)
  | warehouse (error : WarehouseError)
deriving DecidableEq, Repr

def QueryError.message : QueryError → String
  | asynchronous => "Unsupported operation: asynchronous queries are not implemented"
  | unboundParameter name => s!"Parameter {name} does not appear in the query expression"
  | invalidState state => s!"Query cannot execute from state {state.name}"
  | invalidPattern => "Invalid name pattern"
  | schema error => error.message
  | binding error => error.message
  | warehouse error => error.message

/-- Compiled text with the expression it comes from and the schema of its result. -/
structure Statement where
  sql : String
  expr : Expr
  schema : Schema
deriving Repr

structure Query where
  statement : Statement
  billingProject : String
  parameters : List BoundParameter
  state : QueryState
deriving Repr

namespace Query

/-- Binds one value under the name that its parameter has in an expression. -/
def bindNamed (expr : Expr) (given : ScalarParameter × Value) :
    Except QueryError BoundParameter :=
  match expr.parameterName? given.1 with
  | some name => (bindParameter name given.1.dataType given.2).mapError .binding
  | none => .error (.unboundParameter given.1.defaultName)

/-- A query with all its parameters bound, in the order given. -/
def prepare (statement : Statement) (billingProject : String)
    (given : List (ScalarParameter × Value)) : Except QueryError Query := do
  let q : Query := ⟨statement, billingProject, [], .created⟩
  let parameters ← given.mapM (bindNamed q.statement.expr)
  return { q with parameters := parameters, state := .parametersBound }

/-- Reshapes the rows of a finished job. -/
def frameOf (schema : Schema) (rows : Except WarehouseError ResultCursor) :
    Except QueryError Frame := do
  let cursor ← rows.mapError .warehouse
  let frame ← cursor.toFrame.mapError .schema
  (schema.applyTo frame).mapError .schema

variable {C : Type} [WarehouseClient C]

def run (q : Query) (client : C) : Except QueryError Frame × C :=
  match WarehouseClient.submit client q.statement.sql q.parameters q.billingProject with
  | (.ok job, client) => (frameOf q.statement.schema (WarehouseClient.wait job), client)
  | (.error error, client) => (.error (.warehouse error), client)

def stateAfter : Except QueryError Frame → QueryState
  | .ok _ => .completed
  | .error _ => .failed

/-- The result of a run with the query and the warehouse after it. -/
def execute (q : Query) (client : C) : Except QueryError Frame × Query × C :=
  if q.state = .parametersBound then
    let q := { q with state := .submitted }
    let (result, client) := q.run client
    (result, { q with state := stateAfter result }, client)
  else (.error (.invalidState q.state), q, client)

theorem execute_of_parametersBound {q : Query} (h : q.state = .parametersBound) (client : C) :
    q.execute client =
      ((q.run client).1, { q with state := stateAfter (q.run client).1 }, (q.run client).2) := by
  rw [execute, if_pos h]
  rfl

theorem execute_of_ne_parametersBound {q : Query} (h : q.state ≠ .parametersBound) (client : C) :
    q.execute client = (.error (.invalidState q.state), q, client) := by
  rw [execute, if_neg h]

end Query

end WarehouseAdapter
