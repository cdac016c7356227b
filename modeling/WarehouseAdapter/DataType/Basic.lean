import WarehouseAdapter.Text.Basic

/-!
# Logical column types

A type is a primitive kind, an array, a struct of named fields in order, or a warehouse kind that
is kept by its name. A struct is well formed when it has a field and no two fields share a name.
-/

namespace WarehouseAdapter

inductive Primitive
  | null | boolean | int64 | double | string | binary | date | time | timestamp | interval
deriving DecidableEq, Repr, Inhabited

namespace Primitive

def all : List Primitive :=
  [null, boolean, int64, double, string, binary, date, time, timestamp, interval]

def name : Primitive → String
  | null => "null"
  | boolean => "boolean"
  | int64 => "int64"
  | double => "double"
  | string => "string"
  | binary => "binary"
  | date => "date"
  | time => "time"
  | timestamp => "timestamp"
  | interval => "interval"

/-- Other spellings in which a primitive may be asked for. -/
def aliases : Primitive → List String
  | boolean => ["bool"]
  | int64 => ["int", "integer"]
  | double => ["float64", "float"]
  | string => ["str"]
  | binary => ["bytes"]
  | timestamp => ["datetime"]
  | _ => []

/-- Letter case does not matter in a primitive's name. -/
def ofName? (name : String) : Option Primitive :=
  let word := lowerAscii name
  all.find? fun p => p.name == word || p.aliases.contains word

end Primitive

inductive DataType
  | primitive (p : Primitive)
  | array (element : DataType)
  | struct (fields : List (String × DataType))
  | unrecognized (kind : String)
deriving Repr, Inhabited

namespace DataType

/-- Induction over types, with one hypothesis for every field of a struct. -/
@[elab_as_elim, induction_eliminator]
theorem induction {motive : DataType → Prop}
    (primitive : ∀ p, motive (.primitive p))
    (array : ∀ element, motive element → motive (.array element))
    (struct : ∀ fields, (∀ f ∈ fields, motive f.2) → motive (.struct fields))
    (unrecognized : ∀ kind, motive (.unrecognized kind)) (t : DataType) : motive t :=
  @DataType.rec motive (fun fields => ∀ f ∈ fields, motive f.2) (fun f => motive f.2)
    primitive array struct unrecognized (by simp)
    (fun _ _ hf hrest => List.forall_mem_cons.2 ⟨hf, hrest⟩) (fun _ _ h => h) t

abbrev null : DataType := primitive .null
abbrev boolean : DataType := primitive .boolean
abbrev int64 : DataType := primitive .int64
abbrev double : DataType := primitive .double
abbrev string : DataType := primitive .string
abbrev binary : DataType := primitive .binary
abbrev date : DataType := primitive .date
abbrev time : DataType := primitive .time
abbrev timestamp : DataType := primitive .timestamp
abbrev interval : DataType := primitive .interval

mutual

def decEq : (a b : DataType) → Decidable (a = b)
  | primitive p, primitive q => decidable_of_iff (p = q) (by simp)
  | array a, array b =>
    match decEq a b with
    | isTrue h => isTrue (by rw [h])
    | isFalse h => isFalse (by simpa using h)
  | struct a, struct b =>
    match decEqFields a b with
    | isTrue h => isTrue (by rw [h])
    | isFalse h => isFalse (by simpa using h)
  | unrecognized a, unrecognized b => decidable_of_iff (a = b) (by simp)
  | primitive _, array _ => isFalse (by simp)
  | primitive _, struct _ => isFalse (by simp)
  | primitive _, unrecognized _ => isFalse (by simp)
  | array _, primitive _ => isFalse (by simp)
  | array _, struct _ => isFalse (by simp)
  | array _, unrecognized _ => isFalse (by simp)
  | struct _, primitive _ => isFalse (by simp)
  | struct _, array _ => isFalse (by simp)
  | struct _, unrecognized _ => isFalse (by simp)
  | unrecognized _, primitive _ => isFalse (by simp)
  | unrecognized _, array _ => isFalse (by simp)
  | unrecognized _, struct _ => isFalse (by simp)

def decEqFields : (a b : List (String × DataType)) → Decidable (a = b)
  | [], [] => isTrue rfl
  | [], _ :: _ => isFalse (by simp)
  | _ :: _, [] => isFalse (by simp)
  | (m, s) :: a, (n, t) :: b =>
    if h : m = n then
      match decEq s t, decEqFields a b with
      | isTrue h₁, isTrue h₂ => isTrue (by rw [h, h₁, h₂])
      | isFalse h₁, _ => isFalse (by simp [h₁])
      | _, isFalse h₂ => isFalse (by simp [h₂])
    else isFalse (by simp [h])

end

instance : DecidableEq DataType := decEq

mutual

/-- Every struct inside has a field and no repeated field name. -/
def WellFormed : DataType → Prop
  | primitive _ => True
  | array element => element.WellFormed
  | struct fields => fields ≠ [] ∧ (fields.map Prod.fst).Nodup ∧ WellFormedFields fields
  | unrecognized _ => True

def WellFormedFields : List (String × DataType) → Prop
  | [] => True
  | (_, t) :: rest => t.WellFormed ∧ WellFormedFields rest

end

theorem wellFormedFields_iff {fields : List (String × DataType)} :
    WellFormedFields fields ↔ ∀ f ∈ fields, f.2.WellFormed := by
  induction fields with
  | nil => simp [WellFormedFields]
  | cons f rest ih => simp [WellFormedFields, ih]

def isNull (t : DataType) : Bool := t == null

def primitive? : DataType → Option Primitive
  | primitive p => some p
  | _ => none

end DataType

end WarehouseAdapter
