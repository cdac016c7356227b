import WarehouseAdapter.Text.Hidden

/-!
# Quoted texts

A text between double quotes, with escapes for quotes, backslashes and all that would not be seen,
and lists of such texts.
-/

namespace WarehouseAdapter

def hexDigits (n : Nat) : List Char := Nat.toDigits 16 n

def escapeHidden (c : Char) : List Char :=
  ['\\', 'u', '\x7b'] ++ hexDigits c.toNat ++ ['\x7d']

def escapeQuoted (c : Char) : List Char :=
  match c with
  | '"' => ['\\', '"']
  | '\\' => ['\\', '\\']
  | '\n' => ['\\', 'n']
  | '\r' => ['\\', 'r']
  | '\t' => ['\\', 't']
  | '\x00' => ['\\', '0']
  | c => if isHidden c then escapeHidden c else [c]

def quoted (s : String) : String :=
  String.ofList (['"'] ++ s.toList.flatMap escapeQuoted ++ ['"'])

def quotedList (names : List String) : String :=
  "[" ++ ", ".intercalate (names.map quoted) ++ "]"

end WarehouseAdapter
