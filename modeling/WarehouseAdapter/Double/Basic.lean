/-!
# Double-precision numbers

A double is kept as its 64 bits and computed with exactly: a finite one is `m * 2 ^ q` up to its
sign. `nearest` rounds a quotient of natural numbers to the closest double, a half to the even
neighbour; integers, products and quotients are rounded through it.
-/

namespace WarehouseAdapter

structure Double where
  bits : UInt64
deriving DecidableEq, Repr, Inhabited

namespace Double

variable (x y : Double)

def negative : Bool := Nat.pow 2 63 ≤ x.bits.toNat

def exponentField : Nat := x.bits.toNat / Nat.pow 2 52 % 2048

def fractionField : Nat := x.bits.toNat % Nat.pow 2 52

def isNaN : Bool := x.exponentField == 2047 && x.fractionField != 0

def isInfinite : Bool := x.exponentField == 2047 && x.fractionField == 0

def isFinite : Bool := x.exponentField != 2047

def isZero : Bool := x.exponentField == 0 && x.fractionField == 0

/-- The significand `m` of the value `m * 2 ^ q` of a finite double. -/
def significand : Nat :=
  if x.exponentField = 0 then x.fractionField else Nat.pow 2 52 + x.fractionField

/-- The exponent `q` of the value `m * 2 ^ q` of a finite double. -/
def exponent : Int :=
  if x.exponentField = 0 then -1074 else (x.exponentField : Int) - 1075

/-- Numerator and denominator of the magnitude of a finite double. -/
def ratio : Nat × Nat :=
  (x.significand * Nat.pow 2 x.exponent.toNat, Nat.pow 2 (-x.exponent).toNat)

def ofMagnitude (negative : Bool) (magnitude : Nat) : Double :=
  ⟨.ofNat ((if negative then Nat.pow 2 63 else 0) + magnitude)⟩

def infinityBits : Nat := 2047 * Nat.pow 2 52

def infinity (negative : Bool) : Double := ofMagnitude negative infinityBits

def nan : Double := ⟨0x7ff8000000000000⟩

def zero (negative : Bool) : Double := ofMagnitude negative 0

/-- The whole number closest to `num / den`, a half going to the even neighbour. -/
def roundQuotient (num den : Nat) : Nat :=
  let q := num / den
  let r := num % den
  if 2 * r < den then q
  else if den < 2 * r then q + 1
  else q + q % 2

/-- The exponent of the last place of the doubles around `num / den`. -/
def lastPlace (num den : Nat) : Int :=
  let q := max ((num.log2 : Int) - den.log2 - 53) (-1074)
  if num * Nat.pow 2 (-q).toNat / (den * Nat.pow 2 q.toNat) < Nat.pow 2 53 then q else q + 1

/-- The double closest to `num / den`, a half going to the even neighbour. -/
def nearest (negative : Bool) (num den : Nat) : Double :=
  if num = 0 then zero negative
  else
    let q := lastPlace num den
    let m := roundQuotient (num * Nat.pow 2 (-q).toNat) (den * Nat.pow 2 q.toNat)
    ofMagnitude negative (min ((q + 1074).toNat * Nat.pow 2 52 + m) infinityBits)

def ofInt (n : Int) : Double := nearest (n < 0) n.natAbs 1

/-- The value of a double that is a whole number. -/
def toInt? : Option Int :=
  let (num, den) := x.ratio
  if x.isFinite && num % den == 0 then
    some (if x.negative then -((num / den : Nat) : Int) else (num / den : Nat))
  else none

/-- Product of two finite doubles. -/
def mul : Double :=
  nearest (x.negative != y.negative) (x.ratio.1 * y.ratio.1) (x.ratio.2 * y.ratio.2)

/-- Quotient of two finite doubles, the second one not zero. -/
def div : Double :=
  nearest (x.negative != y.negative) (x.ratio.1 * y.ratio.2) (x.ratio.2 * y.ratio.1)

def neg : Double := ⟨x.bits ^^^ 0x8000000000000000⟩

/-- Equality as numbers: a NaN equals nothing, and the two zeros are equal. -/
def equal : Bool := !x.isNaN && !y.isNaN && (x == y || x.isZero && y.isZero)

end Double

end WarehouseAdapter
