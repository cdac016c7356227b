import WarehouseAdapter.DataType.Basic

/-!
# Types as text

The canonical text of a type, such as `struct<id: int64, tags: array<string>>`. A field name that
is not made of ASCII letters, digits and underscores stands in backticks, and a backtick inside it
is written twice.
-/

namespace WarehouseAdapter.DataType

def isNameChar (c : Char) : Bool := c.isAlphanum || c == '_'

def isPlainName (name : List Char) : Bool := !name.isEmpty && name.all isNameChar

def doubleTick (c : Char) : List Char := if c = '\x60' then ['\x60', '\x60'] else [c]

def nameChars (name : List Char) : List Char :=
  if isPlainName name then name else '\x60' :: (name.flatMap doubleTick ++ ['\x60'])

/-- A keyword and what it stands before, in angle brackets. -/
def bracketed (keyword : String) (inside : List Char) : List Char :=
  keyword.toList ++ '<' :: (inside ++ ['>'])

mutual

def chars : DataType → List Char
  | primitive p => p.name.toList
  | array element => bracketed "array" (chars element)
  | struct fields => bracketed "struct" (fieldsChars fields)
  | unrecognized kind => bracketed "unrecognized" kind.toList

def fieldsChars : List (String × DataType) → List Char
  | [] => []
  | (name, t) :: rest =>
    nameChars name.toList ++ [':', ' '] ++ chars t ++
      if rest.isEmpty then [] else [',', ' '] ++ fieldsChars rest

end

def text (t : DataType) : String := String.ofList t.chars

instance : ToString DataType := ⟨text⟩

end WarehouseAdapter.DataType
