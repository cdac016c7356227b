import WarehouseAdapter.Schema

/-!
# Expressions behind statements

Only the shape of an expression matters here: its names, its types and the parameters in it.
-/

namespace WarehouseAdapter

/-- A value given at execution time; two parameters are the same if number and type agree. -/
structure ScalarParameter where
  id : UInt64
  dataType : DataType
deriving DecidableEq, Repr

/-- The name of a parameter that no alias names. -/
def ScalarParameter.defaultName (p : ScalarParameter) : String := "param_" ++ toString p.id.toNat

inductive Expr
  | column (name : String) (dataType : DataType)
  | literal (value : Value) (dataType : DataType)
  | parameter (p : ScalarParameter)
  | named (expr : Expr) (name : String)
  | call (function : String) (args : List Expr) (dataType : DataType)
  | table (name : String) (schema : Schema)
deriving Repr

namespace Expr

/-- Direct subexpressions, left to right. -/
def children : Expr → List Expr
  | named expr _ => [expr]
  | call _ args _ => args
  | _ => []

/-- The type of an expression; a table has none. -/
def dataType? : Expr → Option DataType
  | column _ t => some t
  | literal _ t => some t
  | parameter p => some p.dataType
  | named expr _ => expr.dataType?
  | call _ _ t => some t
  | table _ _ => none

def name? : Expr → Option String
  | column name _ => some name
  | named _ name => some name
  | table name _ => some name
  | _ => none

mutual

/-- Number of nodes. -/
def size : Expr → Nat
  | named expr _ => size expr + 1
  | call _ args _ => sizeList args + 1
  | _ => 1

def sizeList : List Expr → Nat
  | [] => 0
  | e :: rest => size e + sizeList rest

end

theorem size_pos (e : Expr) : 0 < e.size := by
  cases e <;> simp [size]

theorem sizeList_append (a b : List Expr) : sizeList (a ++ b) = sizeList a + sizeList b := by
  induction a with
  | nil => simp [sizeList]
  | cons e a ih => simp [sizeList, ih, Nat.add_assoc]

theorem sizeList_children_lt (e : Expr) : sizeList e.children < e.size := by
  cases e <;> simp [children, size, sizeList]

mutual

/-- Equality in which float literals are compared as numbers. -/
def equal : Expr → Expr → Bool
  | column m s, column n t => m == n && s == t
  | literal a s, literal b t => a.equal b && s == t
  | parameter p, parameter q => p == q
  | named a m, named b n => equal a b && m == n
  | call f as s, call g bs t => f == g && equalList as bs && s == t
  | table m s, table n t => m == n && s == t
  | _, _ => false

def equalList : List Expr → List Expr → Bool
  | [], [] => true
  | a :: as, b :: bs => equal a b && equalList as bs
  | _, _ => false

end

end Expr

end WarehouseAdapter
