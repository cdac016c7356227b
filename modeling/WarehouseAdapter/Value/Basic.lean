import WarehouseAdapter.Calendar.Basic
import WarehouseAdapter.Double.Basic

/-!
# Runtime values

The values that result rows and parameters hold. A record is an ordered list of pairs whose keys may
repeat. A missing value is `null` or a NaN.
-/

namespace WarehouseAdapter

/-- A whole number as an integer of 64 bits, where it fits. -/
def int64? (n : Int) : Option Int64 :=
  if Int64.minValue.toInt ≤ n ∧ n ≤ Int64.maxValue.toInt then some (Int64.ofInt n) else none

inductive Value
  | null
  | bool (b : Bool)
  | int (n : Int64)
  | float (x : Double)
  | str (s : String)
  | bytes (data : List UInt8)
  | date (d : Date)
  | time (t : TimeOfDay)
  | dateTime (dt : DateTime)
  | timestamp (ts : Timestamp)
  | timedelta (microseconds : Int64)
  | list (items : List Value)
  | record (fields : List (String × Value))
deriving Repr, Inhabited

/-- The native kind of a value. -/
inductive ValueKind
  | null | bool | int | float | str | bytes | date | time | dateTime | timestamp | timedelta | list
  | record
deriving DecidableEq, Repr

def ValueKind.name : ValueKind → String
  | null => "null"
  | bool => "bool"
  | int => "int"
  | float => "float"
  | str => "str"
  | bytes => "bytes"
  | date => "date"
  | time => "time"
  | dateTime => "datetime"
  | timestamp => "timestamp"
  | timedelta => "timedelta"
  | list => "list"
  | record => "record"

namespace Value

/-- Induction over values, with one hypothesis for every item of a list and field of a record. -/
@[elab_as_elim, induction_eliminator]
theorem induction {motive : Value → Prop}
    (null : motive .null) (bool : ∀ b, motive (.bool b)) (int : ∀ n, motive (.int n))
    (float : ∀ x, motive (.float x)) (str : ∀ s, motive (.str s))
    (bytes : ∀ data, motive (.bytes data)) (date : ∀ d, motive (.date d))
    (time : ∀ t, motive (.time t)) (dateTime : ∀ dt, motive (.dateTime dt))
    (timestamp : ∀ ts, motive (.timestamp ts)) (timedelta : ∀ n, motive (.timedelta n))
    (list : ∀ items, (∀ v ∈ items, motive v) → motive (.list items))
    (record : ∀ fields, (∀ f ∈ fields, motive f.2) → motive (.record fields)) (v : Value) :
    motive v :=
  @Value.rec motive (fun items => ∀ v ∈ items, motive v)
    (fun fields => ∀ f ∈ fields, motive f.2) (fun f => motive f.2)
    null bool int float str bytes date time dateTime timestamp timedelta list record (by simp)
    (fun _ _ hv hrest => List.forall_mem_cons.2 ⟨hv, hrest⟩) (by simp)
    (fun _ _ hf hrest => List.forall_mem_cons.2 ⟨hf, hrest⟩) (fun _ _ h => h) v

def kind : Value → ValueKind
  | null => .null
  | bool _ => .bool
  | int _ => .int
  | float _ => .float
  | str _ => .str
  | bytes _ => .bytes
  | date _ => .date
  | time _ => .time
  | dateTime _ => .dateTime
  | timestamp _ => .timestamp
  | timedelta _ => .timedelta
  | list _ => .list
  | record _ => .record

def isNull : Value → Bool
  | null => true
  | float x => x.isNaN
  | _ => false

def present (values : List Value) : List Value := values.filter fun v => !v.isNull

mutual

/-- Equality in which floats are compared as numbers. -/
def equal : Value → Value → Bool
  | null, null => true
  | bool a, bool b => a == b
  | int a, int b => a == b
  | float a, float b => a.equal b
  | str a, str b => a == b
  | bytes a, bytes b => a == b
  | date a, date b => a == b
  | time a, time b => a == b
  | dateTime a, dateTime b => a == b
  | timestamp a, timestamp b => a == b
  | timedelta a, timedelta b => a == b
  | list a, list b => equalItems a b
  | record a, record b => equalFields a b
  | _, _ => false

def equalItems : List Value → List Value → Bool
  | [], [] => true
  | a :: as, b :: bs => equal a b && equalItems as bs
  | _, _ => false

def equalFields : List (String × Value) → List (String × Value) → Bool
  | [], [] => true
  | (m, a) :: as, (n, b) :: bs => m == n && equal a b && equalFields as bs
  | _, _ => false

end

end Value

end WarehouseAdapter
