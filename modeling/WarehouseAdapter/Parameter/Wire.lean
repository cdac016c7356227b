import WarehouseAdapter.DataType.Basic
import WarehouseAdapter.Value.Basic

/-!
# Parameters on the wire

The scalar types and values that the warehouse accepts as query parameters, and named parameters
built from them.
-/

namespace WarehouseAdapter

inductive WireType
  | string | int64 | float64 | bool | timestamp | date
deriving DecidableEq, Repr

namespace WireType

def tag : WireType → String
  | string => "STRING"
  | int64 => "INT64"
  | float64 => "FLOAT64"
  | bool => "BOOL"
  | timestamp => "TIMESTAMP"
  | date => "DATE"

def all : List WireType := [string, int64, float64, bool, timestamp, date]

def ofTag? (tag : String) : Option WireType := all.find? fun w => w.tag == tag

/-- The wire type of a scalar type, where there is one. -/
def ofType? : DataType → Option WireType
  | .primitive .string => some string
  | .primitive .int64 => some int64
  | .primitive .double => some float64
  | .primitive .boolean => some bool
  | .primitive .timestamp => some timestamp
  | .primitive .date => some date
  | _ => none

end WireType

inductive WireValue
  | string (s : String)
  | int64 (n : Int64)
  | float64 (x : Double)
  | bool (b : Bool)
  | timestamp (ts : Timestamp)
  | date (d : Date)
deriving DecidableEq, Repr

namespace WireValue

def wireType : WireValue → WireType
  | string _ => .string
  | int64 _ => .int64
  | float64 _ => .float64
  | bool _ => .bool
  | timestamp _ => .timestamp
  | date _ => .date

def equal : WireValue → WireValue → Bool
  | float64 a, float64 b => a.equal b
  | a, b => a == b

def toValue : WireValue → Value
  | string s => .str s
  | int64 n => .int n
  | float64 x => .float x
  | bool b => .bool b
  | timestamp ts => .timestamp ts
  | date d => .date d

end WireValue

inductive BoundParameter
  | scalar (name : String) (wireType : WireType) (value : WireValue)
  | array (name : String) (elementType : WireType) (values : List WireValue)
  | struct (name : String) (fields : List BoundParameter)
deriving Repr

namespace BoundParameter

def name : BoundParameter → String
  | scalar name _ _ => name
  | array name _ _ => name
  | struct name _ => name

mutual

/-- Equality in which floats are compared as numbers. -/
def equal : BoundParameter → BoundParameter → Bool
  | scalar m s a, scalar n t b => m == n && s == t && a.equal b
  | array m s as, array n t bs =>
    m == n && s == t && as.length == bs.length && (as.zip bs).all fun (a, b) => a.equal b
  | struct m as, struct n bs => m == n && equalFields as bs
  | _, _ => false

def equalFields : List BoundParameter → List BoundParameter → Bool
  | [], [] => true
  | a :: as, b :: bs => equal a b && equalFields as bs
  | _, _ => false

end

end BoundParameter

end WarehouseAdapter
