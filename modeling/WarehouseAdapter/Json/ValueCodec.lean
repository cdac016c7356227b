import WarehouseAdapter.Calendar.Text
import WarehouseAdapter.Json.Reading
import WarehouseAdapter.Value.Basic

/-!
# Values in JSON

Plain documents become values: integers beyond 64 bits with a sign become floats, objects become
records with their keys in order, the last of repeated keys counting. Values are also stored as
documents of their own, tagged by kind, and read back from that form.
-/

namespace WarehouseAdapter

def insertMember {α : Type} (members : List (String × α)) (key : String) (value : α) :
    List (String × α) :=
  match members with
  | [] => [(key, value)]
  | (k, v) :: rest =>
    match compare key k with
    | .lt => (key, value) :: (k, v) :: rest
    | .eq => (key, value) :: rest
    | .gt => (k, v) :: insertMember rest key value

/-- Members by key in order; of repeated keys the last one counts. -/
def orderedMembers {α : Type} (members : List (String × α)) : List (String × α) :=
  members.foldl (fun m p => insertMember m p.1 p.2) []

namespace Value

def ofNumber : JsonNumber → Value
  | .integer n => (int64? n).elim (float (Double.ofInt n)) int
  | .float x => float x

mutual

def ofJson? : Json → Option Value
  | .null => some null
  | .bool b => some (bool b)
  | .number n => some (ofNumber n)
  | .string s => some (str s)
  | .array items => (ofItems? items).map list
  | .object members => (ofMembers? members).map fun m => record (orderedMembers m)
  | .unreadable => none

def ofItems? : List Json → Option (List Value)
  | [] => some []
  | j :: rest => do return (← ofJson? j) :: (← ofItems? rest)

def ofMembers? : List (String × Json) → Option (List (String × Value))
  | [] => some []
  | (key, j) :: rest => do return (key, ← ofJson? j) :: (← ofMembers? rest)

end

/-- The value that a text of a plain document spells. -/
def ofText? (source : String) : Option Value := (Json.ofShallowText? source).bind ofJson?

end Value

def Double.toJson (x : Double) : Json := .number (.float x)

def tagged (tag : String) (j : Json) : Json := .object [(tag, j)]

namespace Value

mutual

def toJson : Value → Json
  | null => .string "Null"
  | bool b => tagged "Bool" (.bool b)
  | int n => tagged "Int" (.ofInt n.toInt)
  | float x => tagged "Float" x.toJson
  | str s => tagged "Str" (.string s)
  | bytes data => tagged "Bytes" (.array (data.map fun b => .ofNat b.toNat))
  | date d => tagged "Date" (.string d.text)
  | time t => tagged "Time" (.string t.text)
  | dateTime dt => tagged "DateTime" (.string dt.text)
  | timestamp ts => tagged "Timestamp" (.string ts.text)
  | timedelta d => tagged "Timedelta" (.ofInt d.toInt)
  | list items => tagged "List" (.array (itemsToJson items))
  | record fields => tagged "Record" (.array (fieldsToJson fields))

def itemsToJson : List Value → List Json
  | [] => []
  | v :: rest => toJson v :: itemsToJson rest

def fieldsToJson : List (String × Value) → List Json
  | [] => []
  | (key, v) :: rest => .array [.string key, toJson v] :: fieldsToJson rest

end

def byte? : Json → Option UInt8
  | .number (.integer n) => if 0 ≤ n ∧ n < 256 then some (.ofNat n.toNat) else none
  | _ => none

def double? : Json → Option Double
  | .number (.integer n) => some (Double.ofInt n)
  | .number (.float x) => some x
  | _ => none

def integer? : Json → Option Int64
  | .number (.integer n) => int64? n
  | _ => none

mutual

/-- Reads back the stored form of a value. -/
def ofStored? : Json → Option Value
  | .string s => if s = "Null" then some null else none
  | .object [(tag, .bool b)] => if tag = "Bool" then some (bool b) else none
  | .object [(tag, .string s)] =>
    match tag with
    | "Str" => some (str s)
    | "Date" => (Date.ofChars? s.toList).map date
    | "Time" => (TimeOfDay.ofChars? s.toList).map time
    | "DateTime" => (DateTime.ofChars? s.toList).map dateTime
    | "Timestamp" => (Timestamp.ofChars? s.toList).map timestamp
    | _ => none
  | .object [(tag, .number n)] =>
    match tag with
    | "Int" => (integer? (.number n)).map int
    | "Float" => (double? (.number n)).map float
    | "Timedelta" => (integer? (.number n)).map timedelta
    | _ => none
  | .object [(tag, .array items)] =>
    match tag with
    | "Bytes" => (items.mapM byte?).map bytes
    | "List" => (ofStoredItems? items).map list
    | "Record" => (ofStoredFields? items).map record
    | _ => none
  | _ => none

def ofStoredItems? : List Json → Option (List Value)
  | [] => some []
  | j :: rest => do return (← ofStored? j) :: (← ofStoredItems? rest)

def ofStoredFields? : List Json → Option (List (String × Value))
  | [] => some []
  | .array [.string key, j] :: rest => do return (key, ← ofStored? j) :: (← ofStoredFields? rest)
  | _ => none

end

end Value

end WarehouseAdapter
