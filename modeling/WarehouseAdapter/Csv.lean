import WarehouseAdapter.Calendar.Reading
import WarehouseAdapter.Double.Decimal
import WarehouseAdapter.Frame

/-!
# Comma-separated records

Records end at line breaks, and blank lines are passed over. A field that begins with a quote runs
to its closing quote, two quotes standing for one; quotes elsewhere are ordinary characters. Every
record has as many fields as the first one, which names the columns.
-/

namespace WarehouseAdapter.Csv

/-- Where the reader stands: at the start of a record or of a field, or inside a field. -/
inductive Place
  | record | field | plain | quoted | quoteSeen
deriving DecidableEq, Repr

/-- The text read so far: finished records, fields of the current record and the current field. -/
structure Reader where
  place : Place := .record
  records : List (List String) := []
  fields : List String := []
  text : List Char := []
deriving Repr

namespace Reader

variable (r : Reader)

def put (c : Char) (place : Place) : Reader := { r with text := r.text ++ [c], place := place }

def endField (place : Place) : Reader :=
  { r with fields := r.fields ++ [String.ofList r.text], text := [], place := place }

def endRecord : Reader :=
  let r := r.endField .record
  { r with records := r.records ++ [r.fields], fields := [] }

def isBreak (c : Char) : Bool := c == '\n' || c == '\r'

/-- A character outside quotes. -/
def readPlain (c : Char) : Reader :=
  if c = ',' then r.endField .field
  else if isBreak c then r.endRecord
  else r.put c .plain

def read (c : Char) : Reader :=
  match r.place with
  | .record =>
    if isBreak c then r
    else if c = '"' then { r with place := .quoted }
    else r.readPlain c
  | .field => if c = '"' then { r with place := .quoted } else r.readPlain c
  | .plain => r.readPlain c
  | .quoted => if c = '"' then { r with place := .quoteSeen } else r.put c .quoted
  | .quoteSeen => if c = '"' then r.put c .quoted else r.readPlain c

def finish : List (List String) :=
  if r.place = .record then r.records else r.endRecord.records

end Reader

def skipMark : List Char → List Char
  | '\ufeff' :: r => r
  | r => r

def records (source : String) : List (List String) :=
  ((skipMark source.toList).foldl Reader.read {}).finish

def integer? (s : String) : Option Int64 :=
  let (negative, ds) := Double.splitSign s.toList
  if ds.isEmpty || !ds.all Char.isDigit then none
  else
    let n : Int := if negative then -(digitsValue ds : Int) else digitsValue ds
    int64? n

def isDateOnly (s : String) : Bool := (Layout.date.dateTime? s.toList).isSome

/-- A cell as the narrowest value that it spells; a date without a time stays a text. -/
def cell (source : String) : Value :=
  let s := trimmed source
  let word := lowerAscii s
  if s.isEmpty || word = "nan" then .null
  else
    match integer? s, Double.ofText? s with
    | some n, _ => .int n
    | none, some x => .float x
    | none, none =>
      if word = "true" then .bool true
      else if word = "false" then .bool false
      else if isDateOnly s then .str s
      else (DateTime.ofText? s).elim (.str s) .dateTime

/-- A record with another number of fields than the first one. -/
structure Uneven where
  index : Nat
  found : Nat
  expected : Nat
deriving DecidableEq, Repr

def uneven? (width : Nat) (rows : List (List String)) : Option Uneven :=
  (rows.findIdx? fun row => row.length != width).map fun i =>
    ⟨i, (rows.getD i []).length, width⟩

/-- Names and rows of a text. -/
def table (source : String) : Except Uneven (List String × List (List Value)) :=
  match records source with
  | [] => .ok ([], [])
  | names :: rows =>
    match uneven? names.length rows with
    | some fault => .error fault
    | none => .ok (names, rows.map fun row => row.map cell)

end WarehouseAdapter.Csv
