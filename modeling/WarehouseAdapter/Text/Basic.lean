import WarehouseAdapter.Text.CharRange

/-!
# Texts

The characters of the Unicode property White_Space, texts freed of them at their ends, and the
length of a text in bytes. The zero-width space and the byte order mark are not blank.
-/

namespace WarehouseAdapter

/-- The Unicode property White_Space. -/
def blankRanges : List (Nat × Nat) :=
  [(0x9, 0xD), (0x20, 0x20), (0x85, 0x85), (0xA0, 0xA0), (0x1680, 0x1680), (0x2000, 0x200A),
   (0x2028, 0x2029), (0x202F, 0x202F), (0x205F, 0x205F), (0x3000, 0x3000)]

def isBlank (c : Char) : Bool := inRanges blankRanges c

def skipBlank (cs : List Char) : List Char := cs.dropWhile isBlank

def trimEnd (cs : List Char) : List Char := (cs.reverse.dropWhile isBlank).reverse

def trim (cs : List Char) : List Char := trimEnd (skipBlank cs)

/-- A text without the blank characters at its two ends. -/
def trimmed (s : String) : String := String.ofList (trim s.toList)

/-- ASCII letters become small; all other characters stay. -/
def lowerAscii (s : String) : String := String.ofList (s.toList.map Char.toLower)

def total (ns : List Nat) : Nat := ns.foldr (· + ·) 0

/-- Number of bytes of the UTF-8 form. -/
def utf8Length (cs : List Char) : Nat := total (cs.map Char.utf8Size)

theorem length_skipBlank_le (cs : List Char) : (skipBlank cs).length ≤ cs.length :=
  (List.dropWhile_sublist isBlank).length_le

end WarehouseAdapter
