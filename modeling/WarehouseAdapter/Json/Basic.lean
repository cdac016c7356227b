import WarehouseAdapter.Double.Shortest

/-!
# JSON documents

A document as a tree. An integer that fits in 64 bits, with or without a sign, stays an integer; any
other number is a double. A part that has the form of JSON but no value, such as a lone surrogate,
is kept as `unreadable`: it may stand where nothing looks at it.
-/

namespace WarehouseAdapter

inductive JsonNumber
  | integer (n : Int)
  | float (x : Double)
deriving DecidableEq, Repr

inductive Json
  | null
  | bool (b : Bool)
  | number (n : JsonNumber)
  | string (s : String)
  | array (items : List Json)
  | object (members : List (String × Json))
  | unreadable
deriving Repr, Inhabited

namespace Json

def ofNat (n : Nat) : Json := number (.integer n)

def ofInt (n : Int) : Json := number (.integer n)

def ofOption {α : Type} (f : α → Json) : Option α → Json
  | some a => f a
  | none => null

mutual

/-- How deep arrays and objects are nested. -/
def depth : Json → Nat
  | array items => depthOfItems items + 1
  | object members => depthOfMembers members + 1
  | _ => 0

def depthOfItems : List Json → Nat
  | [] => 0
  | j :: rest => max (depth j) (depthOfItems rest)

def depthOfMembers : List (String × Json) → Nat
  | [] => 0
  | (_, j) :: rest => max (depth j) (depthOfMembers rest)

end

/-- The deepest nesting of a document that is read. -/
def maxDepth : Nat := 127

end Json

end WarehouseAdapter
