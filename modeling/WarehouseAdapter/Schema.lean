import WarehouseAdapter.Error

/-!
# Schemas

A schema keeps the names and the types of its columns side by side, and an index from names to
places through which a column is found. Names and types are equally many, names are pairwise
distinct, and the index holds every name with its place. Every derivation gives a new schema: it
first asks for the columns that it names and then for distinct names in the result.
-/

namespace WarehouseAdapter

structure Schema where
  names : List String
  types : List DataType
  /-- The index from names to places; of two entries under one name the first one counts. -/
  places : List (String × Nat)
  aligned : names.length = types.length
  distinct : names.Nodup
  places_eq : places = names.zipIdx.reverse
deriving DecidableEq, Repr

namespace Schema

def empty : Schema := ⟨[], [], [], rfl, List.nodup_nil, rfl⟩

instance : Inhabited Schema := ⟨empty⟩

/-- The index is collected name by name, with the latest entry in front. -/
def ofLists (names : List String) (types : List DataType) : Except SchemaError Schema :=
  if aligned : names.length = types.length then
    if distinct : names.Nodup then
      .ok ⟨names, types, names.zipIdx.reverse, aligned, distinct, rfl⟩
    else .error (.repeatedNames (repeatedNames names))
  else .error (.countMismatch names.length types.length)

def ofColumns (columns : List (String × DataType)) : Except SchemaError Schema :=
  ofLists (columns.map Prod.fst) (columns.map Prod.snd)

variable (s : Schema)

def columns : List (String × DataType) := s.names.zip s.types

def length : Nat := s.names.length

def isEmpty : Bool := s.names.isEmpty

def indexOf? (name : String) : Option Nat := s.places.lookup name

def contains (name : String) : Bool := (s.indexOf? name).isSome

def get? (name : String) : Option DataType := (s.indexOf? name).bind fun i => s.types[i]?

def nameAt (index : Nat) : Except SchemaError String :=
  if s.isEmpty then .error (.noColumns index)
  else
    match s.names[index]? with
    | some name => .ok name
    | none => .error (.indexOutOfBounds index (s.length - 1))

/-- The first of some names that the schema lacks. -/
def missing? (names : List String) : Option String := names.find? fun n => !s.contains n

/-- The columns other than the named ones. -/
def delete (names : List String) : Except SchemaError Schema :=
  match s.missing? names with
  | some name => .error (.columnNotFound name)
  | none => ofColumns (s.columns.filter fun c => !names.contains c.1)

def append (t : Schema) : Except SchemaError Schema := ofColumns (s.columns ++ t.columns)

def column (name : String) : Except SchemaError (String × DataType) :=
  match s.get? name with
  | some t => .ok (name, t)
  | none => .error (.columnNotFound name)

/-- The named columns in the given order. -/
def project (names : List String) : Except SchemaError Schema := do
  ofColumns (← names.mapM s.column)

/-- The name that a column takes under a mapping: that of the first pair with its name. -/
def renamed (mapping : List (String × String)) (name : String) : String :=
  (mapping.lookup name).getD name

/-- Relabels columns where they stand. -/
def rename (mapping : List (String × String)) : Except SchemaError Schema :=
  match s.missing? (mapping.map Prod.fst) with
  | some name => .error (.columnNotFound name)
  | none => ofLists (s.names.map (renamed mapping)) s.types

/-- Width of the column of names: two more than the bytes of the longest name. -/
def nameWidth : Nat := 2 + (s.names.map String.utf8ByteSize).foldl max 0

def columnText (width : Nat) (c : String × DataType) : String :=
  "\n  " ++ c.1 ++ String.ofList (List.replicate (width - c.1.length) ' ') ++ c.2.text

def text : String :=
  "Schema \x7b" ++ String.join (s.columns.map (columnText s.nameWidth)) ++ "\n\x7d"

instance : ToString Schema := ⟨text⟩

end Schema

end WarehouseAdapter
