import WarehouseAdapter.Double.Basic

/-!
# The fewest digits that read back

Of all decimals `digits * 10 ^ exponent` between the two midpoints around a positive double,
`shortest` takes one with the fewest digits, of those the closest, and of two equally close ones the
even one. A midpoint itself belongs to the double when its significand is even.
-/

namespace WarehouseAdapter.Double

/-- A decimal `digits * 10 ^ exponent`. -/
structure Decimal where
  digits : Nat
  exponent : Int
deriving DecidableEq, Repr

/-- Compares `a * 10 ^ e * d` with `n`, for natural numbers `a`, `n` and `d`. -/
def compareScaled (a : Nat) (e : Int) (n d : Nat) : Ordering :=
  compare (a * Nat.pow 10 e.toNat * d) (n * Nat.pow 10 (-e).toNat)

variable (x : Double)

/-- Numerators of the lower midpoint, the value and the upper midpoint, over `4 * x.ratio.2`. -/
def midpoints : Nat × Nat × Nat :=
  let unit := Nat.pow 2 x.exponent.toNat
  let below := if x.significand = Nat.pow 2 52 && x.exponent != -1074 then 1 else 2
  ((4 * x.significand - below) * unit, 4 * x.significand * unit, (4 * x.significand + 2) * unit)

/-- Tells whether `a * 10 ^ e` lies between the midpoints around the double. -/
def covers (a : Nat) (e : Int) : Bool :=
  let (low, _, high) := x.midpoints
  let den := 4 * x.ratio.2
  let even := x.significand % 2 == 0
  match compareScaled a e low den, compareScaled a e high den with
  | .gt, .lt => true
  | .eq, _ => even
  | _, .eq => even
  | _, _ => false

/-- The exponent of the leading decimal digit of `num / den`. -/
def leadingPlace (num den : Nat) : Int :=
  if den ≤ num then (Nat.toDigits 10 (num / den)).length - 1
  else -((Nat.toDigits 10 ((den - 1) / num)).length : Int)

/-- The multiples of `10 ^ e` on the two sides of the double. -/
def neighbours (e : Int) : Nat × Nat :=
  let (num, den) := x.ratio
  let low := num * Nat.pow 10 (-e).toNat / (den * Nat.pow 10 e.toNat)
  (low, low + 1)

/-- Tells whether the double is closer to `a * 10 ^ e` than to the next multiple of `10 ^ e`. -/
def closerBelow (a : Nat) (e : Int) : Bool :=
  match compareScaled (2 * a + 1) e (2 * x.ratio.1) x.ratio.2 with
  | .gt => true
  | .eq => a % 2 == 0
  | .lt => false

/-- The decimal of the given number of digits that reads back, if there is one. -/
def withDigits? (count : Nat) : Option Decimal :=
  let e := leadingPlace x.ratio.1 x.ratio.2 + 1 - count
  let (low, high) := x.neighbours e
  match x.covers low e, x.covers high e with
  | true, true => some ⟨if x.closerBelow low e then low else high, e⟩
  | true, false => some ⟨low, e⟩
  | false, true => some ⟨high, e⟩
  | false, false => none

/-- Moves a final zero of the digits into the exponent. -/
def Decimal.strip (d : Decimal) : Decimal :=
  if d.digits % 10 = 0 then ⟨d.digits / 10, d.exponent + 1⟩ else d

/-- The shortest decimal of a positive finite double; seventeen digits always suffice. -/
def shortest : Decimal :=
  ((List.range 17).findSome? fun n => x.withDigits? (n + 1)).elim
    ⟨x.significand, x.exponent⟩ Decimal.strip

end WarehouseAdapter.Double
