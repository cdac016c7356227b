import WarehouseAdapter.Calendar.Basic
import WarehouseAdapter.Double.Decimal

/-!
# Written dates and times

Years from 0 to 9999 have four digits; other years have a sign and at least four. The fraction of a
second is absent when it is zero, else it has three, six or nine digits, the fewest that are exact.
A timestamp ends in `Z`.
-/

namespace WarehouseAdapter

/-- Decimal digits with zeros in front up to the given width. -/
def padded (width n : Nat) : List Char :=
  let ds := Nat.toDigits 10 n
  List.replicate (width - ds.length) '0' ++ ds

def yearChars (year : Int) : List Char :=
  if 0 ≤ year ∧ year ≤ 9999 then padded 4 year.toNat
  else (if year < 0 then '-' else '+') :: padded 4 year.natAbs

def fractionChars (nano : Nat) : List Char :=
  if nano = 0 then []
  else if nano % 1000000 = 0 then '.' :: padded 3 (nano / 1000000)
  else if nano % 1000 = 0 then '.' :: padded 6 (nano / 1000)
  else '.' :: padded 9 nano

def Date.chars (d : Date) : List Char :=
  yearChars d.year ++ '-' :: (padded 2 d.month ++ '-' :: padded 2 d.day)

def TimeOfDay.chars (t : TimeOfDay) : List Char :=
  padded 2 t.hour ++ ':' :: (padded 2 t.minute ++ ':' ::
    (padded 2 t.second ++ fractionChars t.nano))

def DateTime.chars (dt : DateTime) : List Char := dt.date.chars ++ 'T' :: dt.time.chars

def Date.text (d : Date) : String := String.ofList d.chars

def TimeOfDay.text (t : TimeOfDay) : String := String.ofList t.chars

def DateTime.text (dt : DateTime) : String := String.ofList dt.chars

def Timestamp.text (ts : Timestamp) : String := String.ofList (ts.utc.chars ++ ['Z'])

/-- The nanoseconds that the digits of a fraction stand for; digits after the ninth do not count. -/
def fractionNano (ds : List Char) : Nat :=
  digitsValue (ds.take 9) * Nat.pow 10 (9 - ds.length)

/-- A number of at least one digit, passed over with the character after it. -/
def readNumberBefore? (c : Char) (cs : List Char) : Option (Nat × List Char) :=
  match spanDigits cs with
  | ([], _) => none
  | (ds, d :: r) => if d = c then some (digitsValue ds, r) else none
  | (_, []) => none

def Date.ofChars? (cs : List Char) : Option Date := do
  let (negative, r) := Double.splitSign cs
  let (year, r) ← readNumberBefore? '-' r
  let (month, r) ← readNumberBefore? '-' r
  match spanDigits r with
  | (_ :: _, []) => of? (if negative then -(year : Int) else year) month (digitsValue r)
  | _ => none

def TimeOfDay.ofChars? (cs : List Char) : Option TimeOfDay := do
  let (hour, r) ← readNumberBefore? ':' cs
  let (minute, r) ← readNumberBefore? ':' r
  match spanDigits r with
  | ([], _) => none
  | (second, []) => of? hour minute (digitsValue second) 0
  | (second, '.' :: r) =>
    match spanDigits r with
    | (_ :: _, []) => of? hour minute (digitsValue second) (fractionNano r)
    | _ => none
  | _ => none

def DateTime.ofChars? (cs : List Char) : Option DateTime :=
  match cs.dropWhile (· != 'T') with
  | _ :: r => do return ⟨← Date.ofChars? (cs.takeWhile (· != 'T')), ← TimeOfDay.ofChars? r⟩
  | [] => none

def Timestamp.ofChars? (cs : List Char) : Option Timestamp :=
  match cs.reverse with
  | 'Z' :: r => (DateTime.ofChars? r.reverse).map Timestamp.mk
  | _ => none

end WarehouseAdapter
