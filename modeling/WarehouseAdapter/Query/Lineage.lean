import WarehouseAdapter.Query.Expr

/-!
# Traversal of expressions

A traversal keeps the expressions still to be visited, the next one first; the children of a visited
expression come before the others unless the visitor prunes them. It gathers what the visitor finds.
-/

namespace WarehouseAdapter

/-- Whether the children of a visited expression are visited. -/
inductive Visit
  | proceed | prune
deriving DecidableEq, Repr

/-- A visitor sees one expression at a time and may carry a state from one to the next. -/
abbrev Visitor (σ α : Type) := σ → Expr → σ × Visit × Option α

namespace Expr

def traversePending {σ α : Type} (visit : Visitor σ α) (s : σ) : List Expr → σ × List α
  | [] => (s, [])
  | e :: rest =>
    match visit s e with
    | (s, .proceed, found) =>
      let (s, out) := traversePending visit s (e.children ++ rest)
      (s, found.toList ++ out)
    | (s, .prune, found) =>
      let (s, out) := traversePending visit s rest
      (s, found.toList ++ out)
termination_by pending => sizeList pending
decreasing_by
  · have := sizeList_children_lt e
    simp only [sizeList_append, sizeList]
    omega
  · have := size_pos e
    simp only [sizeList]
    omega

def traverse {σ α : Type} (visit : Visitor σ α) (s : σ) (root : Expr) : σ × List α :=
  traversePending visit s [root]

/-- What a visitor without a state finds. -/
def collect {α : Type} (visit : Expr → Visit × Option α) (root : Expr) : List α :=
  (root.traverse (fun (_ : Unit) e => ((), visit e)) ()).2

/-- Finds a parameter under the alias directly around it, or else under its default name. -/
def visitParameter : Expr → Visit × Option (ScalarParameter × String)
  | named (parameter p) name => (.prune, some (p, name))
  | parameter p => (.prune, some (p, p.defaultName))
  | _ => (.proceed, none)

/-- Every occurrence of a parameter, left to right, with the name it goes by there. -/
def parameters (root : Expr) : List (ScalarParameter × String) := root.collect visitParameter

/-- The name of a parameter at its last occurrence. -/
def parameterName? (root : Expr) (p : ScalarParameter) : Option String :=
  root.parameters.reverse.lookup p

end Expr

end WarehouseAdapter
