import WarehouseAdapter.Calendar.Text
import WarehouseAdapter.Json.Basic

/-!
# Writing JSON text

Documents without blanks, or over several lines with two spaces for each level. Floats have the
fewest digits that read back, as plain decimals from the fifth decimal place up to sixteen digits
before the point, else with an exponent.
-/

namespace WarehouseAdapter

/-- Digits with the point at the given place, or with an exponent where that would be too long. -/
def decimalChars (digits : List Char) (point : Int) : List Char :=
  let length := digits.length
  if (length : Int) ≤ point ∧ point ≤ 16 then
    digits ++ List.replicate (point.toNat - length) '0' ++ ['.', '0']
  else if 0 < point ∧ point ≤ 16 then
    digits.take point.toNat ++ '.' :: digits.drop point.toNat
  else if -5 < point ∧ point ≤ 0 then
    ['0', '.'] ++ List.replicate (-point).toNat '0' ++ digits
  else
    let power := point - 1
    digits.take 1 ++ (if 1 < length then '.' :: digits.drop 1 else []) ++
      ['e', if power < 0 then '-' else '+'] ++ Nat.toDigits 10 power.natAbs

def Double.magnitudeChars (x : Double) : List Char :=
  if x.isZero then ['0', '.', '0']
  else
    let d := x.shortest
    let digits := Nat.toDigits 10 d.digits
    decimalChars digits (digits.length + d.exponent)

/-- The text of a finite double; others are written as null. -/
def Double.jsonChars (x : Double) : List Char :=
  if x.isFinite then (if x.negative then ['-'] else []) ++ x.magnitudeChars
  else "null".toList

namespace Json

def escapeControl (c : Char) : List Char := "\\u".toList ++ padHex (Nat.toDigits 16 c.toNat)
where
  padHex (ds : List Char) : List Char := List.replicate (4 - ds.length) '0' ++ ds

def escape (c : Char) : List Char :=
  match c with
  | '"' => ['\\', '"']
  | '\\' => ['\\', '\\']
  | '\n' => ['\\', 'n']
  | '\r' => ['\\', 'r']
  | '\t' => ['\\', 't']
  | '\x08' => ['\\', 'b']
  | '\x0c' => ['\\', 'f']
  | c => if c.toNat < 32 then escapeControl c else [c]

def stringChars (s : String) : List Char := '"' :: (s.toList.flatMap escape ++ ['"'])

def numberChars : JsonNumber → List Char
  | .integer n => (toString n).toList
  | .float x => x.jsonChars

/-- The lines of a level begin with a line break and its indentation; a compact text has neither. -/
def lineBreak : Option Nat → List Char
  | some level => '\n' :: List.replicate (2 * level) ' '
  | none => []

def colon : Option Nat → List Char
  | some _ => [':', ' ']
  | none => [':']

mutual

/-- The text of a document at a level of indentation, or compact without one. -/
def chars (level : Option Nat) : Json → List Char
  | null => "null".toList
  | bool true => "true".toList
  | bool false => "false".toList
  | number n => numberChars n
  | string s => stringChars s
  | array [] => ['[', ']']
  | array (item :: items) =>
    let inner := level.map (· + 1)
    '[' :: (lineBreak inner ++ chars inner item ++ itemsChars inner items ++
      lineBreak level ++ [']'])
  | object [] => ['\x7b', '\x7d']
  | object ((key, value) :: members) =>
    let inner := level.map (· + 1)
    '\x7b' :: (lineBreak inner ++ stringChars key ++ colon level ++ chars inner value ++
      membersChars inner members ++ lineBreak level ++ ['\x7d'])
  | unreadable => "null".toList

def itemsChars (level : Option Nat) : List Json → List Char
  | [] => []
  | item :: items => ',' :: (lineBreak level ++ chars level item ++ itemsChars level items)

def membersChars (level : Option Nat) : List (String × Json) → List Char
  | [] => []
  | (key, value) :: members =>
    ',' :: (lineBreak level ++ stringChars key ++ colon level ++ chars level value ++
      membersChars level members)

end

def text (j : Json) : String := String.ofList (j.chars none)

def prettyText (j : Json) : String := String.ofList (j.chars (some 0))

end Json

end WarehouseAdapter
