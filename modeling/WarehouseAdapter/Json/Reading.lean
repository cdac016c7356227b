import WarehouseAdapter.Json.Number
import WarehouseAdapter.Text.Basic

/-!
# Reading JSON text

The grammar of RFC 8259, with nothing before or after the document but its four blank characters.
-/

namespace WarehouseAdapter.Json

def isSpace (c : Char) : Bool := c == ' ' || c == '\n' || c == '\t' || c == '\r'

def skipSpace (s : List Char) : List Char := s.dropWhile isSpace

def hexValue? (c : Char) : Option Nat :=
  if c.isDigit then some (c.toNat - 48)
  else if 'a' ≤ c ∧ c ≤ 'f' then some (c.toNat - 87)
  else if 'A' ≤ c ∧ c ≤ 'F' then some (c.toNat - 55)
  else none

/-- The code unit of four hexadecimal digits. -/
def readUnit? : List Char → Option (Nat × List Char)
  | a :: b :: c :: d :: r => do
    let n := 4096 * (← hexValue? a) + 256 * (← hexValue? b) + 16 * (← hexValue? c) + (← hexValue? d)
    return (n, r)
  | _ => none

def shortEscape? : Char → Option Char
  | '"' => some '"'
  | '\\' => some '\\'
  | '/' => some '/'
  | 'b' => some '\x08'
  | 'f' => some '\x0c'
  | 'n' => some '\n'
  | 'r' => some '\r'
  | 't' => some '\t'
  | _ => none

/-- A piece of a string: a character, or a code unit that an escape gives. -/
inductive Piece
  | char (c : Char)
  | unit (n : Nat)
deriving DecidableEq, Repr

/-- The pieces of a string up to its closing quote; `fuel` bounds the characters read. -/
def readPieces? (fuel : Nat) (s : List Char) : Option (List Piece × List Char) :=
  match fuel with
  | 0 => none
  | fuel + 1 =>
    match s with
    | [] => none
    | '"' :: r => some ([], r)
    | '\\' :: 'u' :: r => do
      let (n, r) ← readUnit? r
      let (pieces, r) ← readPieces? fuel r
      return (.unit n :: pieces, r)
    | '\\' :: c :: r => do
      let d ← shortEscape? c
      let (pieces, r) ← readPieces? fuel r
      return (.char d :: pieces, r)
    | c :: r =>
      if c.toNat < 32 || c = '\\' then none
      else do
        let (pieces, r) ← readPieces? fuel r
        return (.char c :: pieces, r)

/-- The characters of a string, where each code unit finds its partner. -/
def decodePieces? : List Piece → Option (List Char)
  | [] => some []
  | .char c :: rest => (decodePieces? rest).map (c :: ·)
  | .unit m :: rest =>
    if 0xDC00 ≤ m && m < 0xE000 then none
    else if 0xD800 ≤ m && m < 0xDC00 then
      match rest with
      | .unit n :: rest =>
        if 0xDC00 ≤ n && n < 0xE000 then
          (decodePieces? rest).map (Char.ofNat (0x10000 + 0x400 * (m - 0xD800) + (n - 0xDC00)) :: ·)
        else none
      | _ => none
    else (decodePieces? rest).map (Char.ofNat m :: ·)

def textOf? (pieces : List Piece) : Option String := (decodePieces? pieces).map String.ofList

def readString? (s : List Char) : Option (Option String × List Char) :=
  (readPieces? (s.length + 1) s).map fun (pieces, r) => (textOf? pieces, r)

/-- The digits after a point, at least one. -/
def readFraction? : List Char → Option (Option (List Char) × List Char)
  | '.' :: r =>
    match spanDigits r with
    | ([], _) => none
    | (ds, r) => some (some ds, r)
  | r => some (none, r)

/-- The sign and the digits of an exponent, at least one digit. -/
def readPower? : List Char → Option (Option (Bool × List Char) × List Char)
  | [] => some (none, [])
  | c :: r =>
    if c = 'e' || c = 'E' then
      let (minus, r) := Double.splitSign r
      match spanDigits r with
      | ([], _) => none
      | (ds, r) => some (some (minus, ds), r)
    else some (none, c :: r)

def ofNumber? : Option JsonNumber → Json
  | some n => number n
  | none => unreadable

/-- A number that begins with a digit; a zero is not followed by another digit. -/
def readNumber? (negative : Bool) (s : List Char) : Option (Json × List Char) := do
  let (whole, r) := spanDigits s
  if whole.isEmpty || whole.head? = some '0' && 1 < whole.length then none
  else
    let (fraction, r) ← readFraction? r
    let (power, r) ← readPower? r
    return (ofNumber? (JsonNumber.ofParts? negative whole fraction power), r)

def passWord? (word : String) (s : List Char) : Option (List Char) :=
  if word.toList.isPrefixOf s then some (s.drop word.length) else none

/-- A member list with a key that has no value has none either. -/
def ofMembers (members : List (Option String × Json)) : Json :=
  match members.mapM fun m => m.1.map fun key => (key, m.2) with
  | some members => object members
  | none => unreadable

mutual

/-- A value after blanks; `fuel` bounds the characters read. -/
def readValue? (fuel : Nat) (s : List Char) : Option (Json × List Char) :=
  match fuel with
  | 0 => none
  | fuel + 1 =>
    match skipSpace s with
    | '"' :: r => (readString? r).map fun (text, r) => (text.elim unreadable string, r)
    | '[' :: r =>
      match skipSpace r with
      | ']' :: r => some (array [], r)
      | r => (readItems? fuel r).map fun (items, r) => (array items, r)
    | '\x7b' :: r =>
      match skipSpace r with
      | '\x7d' :: r => some (object [], r)
      | r => (readMembers? fuel r).map fun (members, r) => (ofMembers members, r)
    | 'n' :: r => (passWord? "ull" r).map fun r => (null, r)
    | 't' :: r => (passWord? "rue" r).map fun r => (bool true, r)
    | 'f' :: r => (passWord? "alse" r).map fun r => (bool false, r)
    | '-' :: r => readNumber? true r
    | r => readNumber? false r

/-- The items of an array, at least one, up to and with its closing bracket. -/
def readItems? (fuel : Nat) (s : List Char) : Option (List Json × List Char) :=
  match fuel with
  | 0 => none
  | fuel + 1 => do
    let (item, r) ← readValue? fuel s
    match skipSpace r with
    | ',' :: r => do
      let (items, r) ← readItems? fuel r
      return (item :: items, r)
    | ']' :: r => return ([item], r)
    | _ => none

/-- The members of an object, at least one, up to and with its closing brace. -/
def readMembers? (fuel : Nat) (s : List Char) :
    Option (List (Option String × Json) × List Char) :=
  match fuel with
  | 0 => none
  | fuel + 1 =>
    match skipSpace s with
    | '"' :: r => do
      let (key, r) ← readString? r
      match skipSpace r with
      | ':' :: r => do
        let (value, r) ← readValue? fuel r
        match skipSpace r with
        | ',' :: r => do
          let (members, r) ← readMembers? fuel r
          return ((key, value) :: members, r)
        | '\x7d' :: r => return ([(key, value)], r)
        | _ => none
      | _ => none
    | _ => none

end

def ofText? (source : String) : Option Json :=
  let s := source.toList
  match readValue? (2 * s.length + 2) s with
  | some (value, r) => if (skipSpace r).isEmpty then some value else none
  | none => none

/-- A document that is not nested too deeply for every part of it to be read. -/
def ofShallowText? (source : String) : Option Json :=
  (ofText? source).filter fun j => j.depth ≤ maxDepth

end WarehouseAdapter.Json
