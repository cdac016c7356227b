/-!
# Calendar dates and times of day

Dates of the proleptic Gregorian calendar from the year -262143 to 262142, times of day with a
nanosecond part, and their pairs. Second 60 is a leap second. A timestamp is a pair read as UTC.
-/

namespace WarehouseAdapter

def isLeapYear (year : Int) : Bool :=
  year % 4 == 0 && (year % 100 != 0 || year % 400 == 0)

def daysInMonth (year : Int) (month : Nat) : Nat :=
  if month = 2 then if isLeapYear year then 29 else 28
  else if month = 4 || month = 6 || month = 9 || month = 11 then 30
  else 31

abbrev IsDate (year : Int) (month day : Nat) : Prop :=
  -262143 ≤ year ∧ year ≤ 262142 ∧ 1 ≤ month ∧ month ≤ 12 ∧ 1 ≤ day ∧ day ≤ daysInMonth year month

structure Date where
  year : Int
  month : Nat
  day : Nat
  valid : IsDate year month day
deriving DecidableEq, Repr

abbrev IsTime (hour minute second nano : Nat) : Prop :=
  hour < 24 ∧ minute < 60 ∧ second ≤ 60 ∧ nano < 1000000000

structure TimeOfDay where
  hour : Nat
  minute : Nat
  second : Nat
  nano : Nat
  valid : IsTime hour minute second nano
deriving DecidableEq, Repr

structure DateTime where
  date : Date
  time : TimeOfDay
deriving DecidableEq, Repr

/-- An instant, by its reading in UTC. -/
structure Timestamp where
  utc : DateTime
deriving DecidableEq, Repr

namespace Date

def of? (year : Int) (month day : Nat) : Option Date :=
  if h : IsDate year month day then some ⟨year, month, day, h⟩ else none

variable (d : Date)

def next? : Option Date :=
  if d.day < daysInMonth d.year d.month then of? d.year d.month (d.day + 1)
  else if d.month < 12 then of? d.year (d.month + 1) 1
  else of? (d.year + 1) 1 1

def previous? : Option Date :=
  if 1 < d.day then of? d.year d.month (d.day - 1)
  else if 1 < d.month then of? d.year (d.month - 1) (daysInMonth d.year (d.month - 1))
  else of? (d.year - 1) 12 31

end Date

namespace TimeOfDay

def of? (hour minute second nano : Nat) : Option TimeOfDay :=
  if h : IsTime hour minute second nano then some ⟨hour, minute, second, nano, h⟩ else none

def midnight : TimeOfDay := ⟨0, 0, 0, 0, by decide⟩

def minuteOfDay (t : TimeOfDay) : Nat := 60 * t.hour + t.minute

/-- The same second of another minute of the day. -/
def atMinute? (t : TimeOfDay) (minute : Nat) : Option TimeOfDay :=
  of? (minute / 60) (minute % 60) t.second t.nano

end TimeOfDay

namespace DateTime

def atMidnight (d : Date) : DateTime := ⟨d, .midnight⟩

/-- The reading some minutes earlier, where the shift is less than a day either way. -/
def minus? (dt : DateTime) (minutes : Int) : Option DateTime := do
  let shifted := (dt.time.minuteOfDay : Int) - minutes
  if shifted < 0 then
    return ⟨← dt.date.previous?, ← dt.time.atMinute? (shifted + 1440).toNat⟩
  else if shifted < 1440 then
    return ⟨dt.date, ← dt.time.atMinute? shifted.toNat⟩
  else
    return ⟨← dt.date.next?, ← dt.time.atMinute? (shifted - 1440).toNat⟩

end DateTime

end WarehouseAdapter
