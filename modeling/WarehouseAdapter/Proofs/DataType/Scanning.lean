import WarehouseAdapter.Error
import WarehouseAdapter.Proofs.BytePlaces
import WarehouseAdapter.Proofs.DataType.Reading

/-!
# Scanning types by byte places

The scanner reads a type from a source with a place in it, counted in bytes, as its only state. It
cuts the source at that place to see what comes next and moves the place by the bytes of what it has
passed. Here all the places that it comes to are kept, and a cut inside a character or behind the
end stops it for good. So does a chain of calls, one inside the other, that is longer than a limit.
-/

namespace WarehouseAdapter.DataType

/-- The place of a scanner and those that it has been at before, the last one first. -/
structure Trail where
  place : Nat
  earlier : List Nat

namespace Trail

def start : Trail := ⟨0, []⟩

def places (t : Trail) : List Nat := t.place :: t.earlier

def moveTo (t : Trail) (n : Nat) : Trail := ⟨n, t.places⟩

end Trail

/-- Why a scan stops short. -/
inductive Halt
  | cutAmiss
  | tooDeep
  | refused (e : SchemaError)

abbrev Scan := ExceptT Halt (StateM Trail)

namespace Scan

variable (source : String)

def runFrom {α : Type} (x : Scan α) (t : Trail) : Except Halt α × Trail := x.run.run t

def moveBy (bytes : Nat) : Scan Unit := modify fun t => t.moveTo (t.place + bytes)

def moveToEnd : Scan Unit := modify fun t => t.moveTo source.utf8ByteSize

def refuse {α : Type} (fault : Fault) : Scan α := do
  throw (.refused (.typeText source (← get).place fault))

/-- The text in front of the place `n` of `s` and the text behind it. -/
def cut (n : Nat) (s : List Char) : Scan (List Char × List Char) :=
  match cut? n s with
  | some p => pure p
  | none => throw .cutAmiss

def remaining : Scan (List Char) := do
  return (← cut (← get).place source.toList).2

def passBlanks : Scan Unit := do
  let r ← remaining source
  moveBy (utf8Length r - utf8Length (skipBlank r))

def peek : Scan (Option Char) := do
  return (← remaining source).head?

def mark (c : Char) : Scan Unit := do
  passBlanks source
  if (← peek source) = some c then moveBy c.utf8Size else refuse source (.expected c)

def word : Scan (List Char) := do
  passBlanks source
  let r ← remaining source
  let bytes := (placeOf? (!isNameChar ·) r).getD (utf8Length r)
  if bytes = 0 then refuse source .expectedIdentifier
  else
    moveBy bytes
    return (← cut bytes r).1

/-- The name up to the closing backtick, and the place of that backtick; `n` is the place of `s`. -/
def ticked? (n : Nat) : List Char → Option (List Char × Nat)
  | [] => none
  | '\x60' :: '\x60' :: s => (ticked? (n + 2) s).map fun p => ('\x60' :: p.1, p.2)
  | '\x60' :: _ => some ([], n)
  | c :: s => (ticked? (n + c.utf8Size) s).map fun p => (c :: p.1, p.2)

def fieldName : Scan (List Char) := do
  passBlanks source
  if (← peek source) = some '\x60' then
    moveBy 1
    match ticked? 0 (← remaining source) with
    | some (name, n) =>
      moveBy (n + 1)
      return name
    | none =>
      moveToEnd source
      refuse source .unterminatedName
  else word source

def kind : Scan (List Char) := do
  let r ← remaining source
  match placeOf? (· == '>') r with
  | some n =>
    let text := (← cut n r).1
    moveBy (n + 1)
    return text
  | none => refuse source (.expected '>')

mutual

/-- Types inside one another and fields behind one another count against the limit. -/
def type : Nat → Scan DataType
  | 0 => throw .tooDeep
  | limit + 1 => do
    let keyword := lowerAscii (String.ofList (← word source))
    if keyword = "array" then
      mark source '<'
      let element ← type limit
      mark source '>'
      return array element
    else if keyword = "struct" then
      mark source '<'
      match ofFields (← fields limit) with
      | .ok t => return t
      | .error e => throw (.refused e)
    else if keyword = "unrecognized" then
      mark source '<'
      return unrecognized (String.ofList (trim (← kind source)))
    else
      match Primitive.ofName? keyword with
      | some p => return primitive p
      | none => refuse source (.unknownType keyword)

/-- One field or more, up to and with the closing `>`. -/
def fields : Nat → Scan (List (String × DataType))
  | 0 => throw .tooDeep
  | limit + 1 => do
    let name ← fieldName source
    mark source ':'
    let t ← type limit
    passBlanks source
    match ← peek source with
    | some ',' =>
      moveBy 1
      return (String.ofList name, t) :: (← fields limit)
    | some '>' =>
      moveBy 1
      return [(String.ofList name, t)]
    | _ => refuse source .expectedSeparator

end

def whole (limit : Nat) : Scan DataType := do
  let t ← type source limit
  passBlanks source
  if (← get).place = source.utf8ByteSize then return t else refuse source .trailing

end Scan

/-- What a scan of the whole source comes to, and the places on the way. -/
def scan (limit : Nat) (source : String) : Except Halt DataType × Trail :=
  (Scan.whole source limit).runFrom Trail.start

end WarehouseAdapter.DataType
