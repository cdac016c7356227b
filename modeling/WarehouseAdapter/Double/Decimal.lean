import WarehouseAdapter.Double.Basic

/-!
# Decimal text of doubles

`ofDecimal` is the double closest to `digits * 10 ^ exponent`, and `ofText?` reads a number written
with a sign, a point and an exponent, or spelled as infinity or not-a-number.
-/

namespace WarehouseAdapter

/-- The number that a list of decimal digits spells. -/
def digitsValue (ds : List Char) : Nat := ds.foldl (fun n c => 10 * n + (c.toNat - 48)) 0

/-- Digits at the start of a text, and what follows them. -/
def spanDigits (cs : List Char) : List Char × List Char :=
  (cs.takeWhile Char.isDigit, cs.dropWhile Char.isDigit)

namespace Double

def tooSmall (digits : Nat) (exponent : Int) : Bool :=
  (Nat.toDigits 10 digits).length + exponent < -330

def tooLarge (digits : Nat) (exponent : Int) : Bool :=
  310 < (Nat.toDigits 10 digits).length + exponent

def ofDecimal (negative : Bool) (digits : Nat) (exponent : Int) : Double :=
  if digits = 0 || tooSmall digits exponent then zero negative
  else if tooLarge digits exponent then infinity negative
  else nearest negative (digits * Nat.pow 10 exponent.toNat) (Nat.pow 10 (-exponent).toNat)

def splitSign : List Char → Bool × List Char
  | '-' :: r => (true, r)
  | '+' :: r => (false, r)
  | r => (false, r)

/-- An exponent that ends the text; no exponent counts as zero. -/
def readExponent? : List Char → Option Int
  | [] => some 0
  | c :: r =>
    if c = 'e' || c = 'E' then
      let (negative, ds) := splitSign r
      if ds.isEmpty || !ds.all Char.isDigit then none
      else some (if negative then -(digitsValue ds : Int) else digitsValue ds)
    else none

def readUnsigned? (negative : Bool) (cs : List Char) : Option Double :=
  let (whole, r) := spanDigits cs
  let (fraction, r) :=
    match r with
    | '.' :: r => spanDigits r
    | _ => ([], r)
  if whole.isEmpty && fraction.isEmpty then none
  else
    (readExponent? r).map fun e =>
      ofDecimal negative (digitsValue (whole ++ fraction)) (e - fraction.length)

/-- Reads a number with digits on either side of an optional point; letter case does not matter. -/
def ofText? (s : String) : Option Double :=
  let (negative, cs) := splitSign s.toList
  let word := String.ofList (cs.map Char.toLower)
  if word = "nan" then some nan
  else if word = "inf" || word = "infinity" then some (infinity negative)
  else readUnsigned? negative cs

end Double

end WarehouseAdapter
