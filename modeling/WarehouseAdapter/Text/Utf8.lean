import WarehouseAdapter.Text.CharRange

/-!
# The bytes of a range of code points

The UTF-8 forms of the code points of a range are the byte sequences that lie, byte by byte, in one
of a few sequences of byte ranges. `utf8Forms` lists these in order of the code points.
-/

namespace WarehouseAdapter

/-- A range of byte values for each byte of a form. -/
abbrev ByteRanges := List (Nat × Nat)

/-- The forms of a leading value and some continuation bytes, where the leading values from `low` on
carry the mark `lead` of their place. -/
def formsBehind (lead : Nat) : Nat → Nat → Nat → List ByteRanges
  | 0, low, high => [[(lead + low, lead + high)]]
  | k + 1, low, high =>
    let block := Nat.pow 64 (k + 1)
    let first := low / block
    let last := high / block
    let under (n : Nat) (forms : List ByteRanges) : List ByteRanges :=
      forms.map ((lead + n, lead + n) :: ·)
    if first = last then under first (formsBehind 0x80 k (low % block) (high % block))
    else
      let start := if low % block = 0 then first else first + 1
      let stop := if high % block = block - 1 then last + 1 else last
      (if first < start then under first (formsBehind 0x80 k (low % block) (block - 1)) else []) ++
        (if start < stop then
          [(lead + start, lead + stop - 1) :: List.replicate (k + 1) (0x80, 0xBF)] else []) ++
        if stop = last then under last (formsBehind 0x80 k 0 (high % block)) else []

/-- Code points by the length of their form: first and last one, mark of the first byte and number
of continuation bytes. Surrogates have no form. -/
def formLengths : List (Nat × Nat × Nat × Nat) :=
  [(0, 0x7F, 0, 0), (0x80, 0x7FF, 0xC0, 1), (0x800, 0xD7FF, 0xE0, 2), (0xE000, 0xFFFF, 0xE0, 2),
   (0x10000, 0x10FFFF, 0xF0, 3)]

def utf8Forms (low high : Nat) : List ByteRanges :=
  formLengths.flatMap fun (first, last, lead, k) =>
    if max low first ≤ min high last then formsBehind lead k (max low first) (min high last) else []

def utf8Bytes (cs : List Char) : List UInt8 := cs.flatMap String.utf8EncodeChar

end WarehouseAdapter
