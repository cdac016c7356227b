import WarehouseAdapter.Calendar.Text
import WarehouseAdapter.Text.Basic

/-!
# Date-times in free text

A text is read as an RFC 3339 date-time, or else by the first of five layouts that uses it whole. In
a layout each number may follow blanks and takes a bounded run of digits; only the year may have a
sign, which lifts its bound. The local reading drops an offset, the instant applies it.
-/

namespace WarehouseAdapter

/-- An element of a layout. -/
inductive LayoutItem
  | year | month | day | hour | minute | second
  | fraction
  | blanks
  | exactly (c : Char)
deriving DecidableEq, Repr

/-- The numbers read so far; what a layout does not name is zero. -/
structure Reading where
  year : Int := 0
  month : Nat := 0
  day : Nat := 0
  hour : Nat := 0
  minute : Nat := 0
  second : Nat := 0
  nano : Nat := 0
deriving DecidableEq, Repr

def Reading.dateTime? (r : Reading) : Option DateTime := do
  return ⟨← Date.of? r.year r.month r.day, ← TimeOfDay.of? r.hour r.minute r.second r.nano⟩

/-- At most `limit` digits, at least one, as many as there are. -/
def readDigits? (limit : Nat) (cs : List Char) : Option (Nat × List Char) :=
  let ds := (cs.take limit).takeWhile Char.isDigit
  if ds.isEmpty then none else some (digitsValue ds, cs.drop ds.length)

def readNumber? (limit : Nat) (cs : List Char) : Option (Nat × List Char) :=
  readDigits? limit (skipBlank cs)

def readYear? (cs : List Char) : Option (Int × List Char) :=
  match skipBlank cs with
  | '-' :: r => (readDigits? r.length r).map fun p => (-(p.1 : Int), p.2)
  | '+' :: r => (readDigits? r.length r).map fun p => ((p.1 : Int), p.2)
  | r => (readDigits? 4 r).map fun p => ((p.1 : Int), p.2)

/-- Nanoseconds after a point, if there is one. -/
def readFraction? : List Char → Option (Nat × List Char)
  | '.' :: r =>
    let (ds, r) := spanDigits r
    if ds.isEmpty then none else some (fractionNano ds, r)
  | r => some (0, r)

def LayoutItem.read? (r : Reading) (cs : List Char) : LayoutItem → Option (Reading × List Char)
  | year => (readYear? cs).map fun (n, rest) => ({ r with year := n }, rest)
  | month => (readNumber? 2 cs).map fun (n, rest) => ({ r with month := n }, rest)
  | day => (readNumber? 2 cs).map fun (n, rest) => ({ r with day := n }, rest)
  | hour => (readNumber? 2 cs).map fun (n, rest) => ({ r with hour := n }, rest)
  | minute => (readNumber? 2 cs).map fun (n, rest) => ({ r with minute := n }, rest)
  | second => (readNumber? 2 cs).map fun (n, rest) => ({ r with second := n }, rest)
  | fraction => (readFraction? cs).map fun (n, rest) => ({ r with nano := n }, rest)
  | blanks => some (r, skipBlank cs)
  | exactly c =>
    match cs with
    | d :: rest => if d = c then some (r, rest) else none
    | [] => none

abbrev Layout := List LayoutItem

namespace Layout

open LayoutItem

def read? (r : Reading) (cs : List Char) : Layout → Option (Reading × List Char)
  | [] => some (r, cs)
  | item :: layout => do
    let (r, cs) ← item.read? r cs
    read? r cs layout

/-- Reads a whole text. -/
def dateTime? (layout : Layout) (cs : List Char) : Option DateTime :=
  match layout.read? {} cs with
  | some (r, []) => r.dateTime?
  | _ => none

def date : Layout := [year, exactly '-', month, exactly '-', day]

def clock : Layout := [hour, exactly ':', minute]

def seconds : Layout := [exactly ':', second, fraction]

/-- Date and time to the second or to the minute, after a `T` or blanks, and a date alone. -/
def all : List Layout :=
  [date ++ exactly 'T' :: (clock ++ seconds), date ++ blanks :: (clock ++ seconds),
    date ++ exactly 'T' :: clock, date ++ blanks :: clock, date]

end Layout

/-- Exactly `count` digits. -/
def readExactly? (count : Nat) (cs : List Char) : Option (Nat × List Char) :=
  let ds := cs.take count
  if ds.length = count && ds.all Char.isDigit then some (digitsValue ds, cs.drop count) else none

def readChar? (accepts : Char → Bool) : List Char → Option (Char × List Char)
  | c :: r => if accepts c then some (c, r) else none
  | [] => none

/-- Minutes east of UTC that end a text. -/
def readOffset? : List Char → Option Int
  | [c] => if c = 'Z' || c = 'z' then some 0 else none
  | cs => do
    let (sign, r) ← readChar? (fun c => c = '+' || c = '-' || c = '\u2212') cs
    let (hours, r) ← readExactly? 2 r
    let (_, r) ← readChar? (· = ':') r
    let (minutes, r) ← readExactly? 2 r
    if r.isEmpty && hours < 24 && minutes < 60 then
      let offset : Int := 60 * hours + minutes
      return if sign = '+' then offset else -offset
    else none

/-- The local reading and the offset of an RFC 3339 date-time. -/
def readRfc3339? (cs : List Char) : Option (DateTime × Int) := do
  let (year, r) ← readExactly? 4 cs
  let (_, r) ← readChar? (· = '-') r
  let (month, r) ← readExactly? 2 r
  let (_, r) ← readChar? (· = '-') r
  let (day, r) ← readExactly? 2 r
  let (_, r) ← readChar? (fun c => c = 'T' || c = 't' || c = ' ') r
  let (hour, r) ← readExactly? 2 r
  let (_, r) ← readChar? (· = ':') r
  let (minute, r) ← readExactly? 2 r
  let (_, r) ← readChar? (· = ':') r
  let (second, r) ← readExactly? 2 r
  let (nano, r) ← readFraction? r
  let offset ← readOffset? r
  return (← Reading.dateTime? ⟨year, month, day, hour, minute, second, nano⟩, offset)

/-- The reading of a text by the layouts, the first that fits. -/
def readLayouts? (cs : List Char) : Option DateTime :=
  Layout.all.findSome? fun layout => layout.dateTime? cs

def DateTime.ofText? (s : String) : Option DateTime :=
  let cs := trim s.toList
  match readRfc3339? cs with
  | some (localTime, _) => some localTime
  | none => readLayouts? cs

def Timestamp.ofText? (s : String) : Option Timestamp :=
  let cs := trim s.toList
  match readRfc3339? cs with
  | some (localTime, offset) => (localTime.minus? offset).map Timestamp.mk
  | none => (readLayouts? cs).map Timestamp.mk

end WarehouseAdapter
