import WarehouseAdapter.Double.Decimal
import WarehouseAdapter.Json.Basic

/-!
# Numbers in JSON text

The digits of a number are gathered in a significand of 64 bits; digits that no longer fit only
count for the exponent. The double of the significand is then scaled by a single power of ten, so
that a long number may be read as a neighbour of the closest double. A number beyond the largest
double has no value.
-/

namespace WarehouseAdapter.JsonNumber

/-- The largest significand. -/
def maxSignificand : Nat := UInt64.size - 1

/-- Appends digits while they fit, and counts the digits taken. -/
def gather (significand : Nat) : List Char → Nat × Nat
  | [] => (significand, 0)
  | c :: rest =>
    let next := 10 * significand + (c.toNat - 48)
    if next ≤ maxSignificand then
      let (s, n) := gather next rest
      (s, n + 1)
    else (significand, 0)

def powerOfTen (n : Nat) : Double := Double.nearest false (Nat.pow 10 n) 1

/-- Division by ten to the 308, at most the given number of times, while not zero. -/
def shrink : Nat → Double → Double
  | 0, x => x
  | n + 1, x => if x.isZero then x else shrink n (x.div (powerOfTen 308))

/-- A significand times a power of ten, unless it lies beyond the largest double. -/
def scale? (significand : Nat) (exponent : Int) : Option Double :=
  let x := Double.ofInt significand
  if exponent < 0 then
    let n := (-exponent).toNat
    let steps := (n - 1) / 308
    let y := shrink steps x
    if y.isZero then some y else some (y.div (powerOfTen (n - 308 * steps)))
  else if exponent ≤ 308 then
    let y := x.mul (powerOfTen exponent.toNat)
    if y.isInfinite then none else some y
  else if x.isZero then some x
  else none

def signed (negative : Bool) (x : Double) : Double := if negative then x.neg else x

/-- The exponent that digits spell, unless it does not fit in 32 bits. -/
def exponentOf? (negative : Bool) (ds : List Char) : Option Int :=
  let n := digitsValue ds
  if n < Nat.pow 2 31 then some (if negative then -(n : Int) else n) else none

/-- A number with a fraction or an exponent, or one too long for an integer. -/
def floatOf? (negative : Bool) (significand : Nat) (exponent : Int)
    (power : Option (Bool × List Char)) : Option Double :=
  (signed negative ·) <$>
    match power with
    | none => scale? significand exponent
    | some (minus, ds) =>
      match exponentOf? minus ds with
      | some e => scale? significand (exponent + e)
      | none => if significand = 0 || minus then some (.zero false) else none

/-- The value of a number from its sign, its digits and its power of ten. -/
def ofParts? (negative : Bool) (whole : List Char) (fraction : Option (List Char))
    (power : Option (Bool × List Char)) : Option JsonNumber :=
  let (s, taken) := gather 0 whole
  let left := whole.length - taken
  match fraction, power, left with
  | none, none, 0 =>
    if !negative then some (.integer s)
    else if s = 0 || Nat.pow 2 63 < s then some (.float (Double.ofInt s).neg)
    else some (.integer (-(s : Int)))
  | fraction, power, left =>
    let (s, taken) := gather s (fraction.getD [])
    (floatOf? negative s (left - taken) power).map .float

end WarehouseAdapter.JsonNumber
