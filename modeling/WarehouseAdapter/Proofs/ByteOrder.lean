import Mathlib
import WarehouseAdapter.Text.Utf8

/-!
# The order of texts by their bytes

Texts are ordered by their code points. A form of a code point in UTF-8 is its value written to the
base of 64, behind a mark that grows with the number of digits. So the order of the forms is that of
the values, and texts stand in the order of their bytes.
-/

namespace WarehouseAdapter

def bytes (s : String) : List UInt8 := s.toUTF8.data.toList

/-- The form of a value with some continuation bytes, where `lead` marks the first byte. -/
def byteForm (lead : Nat) : Nat → Nat → List UInt8
  | 0, n => [UInt8.ofNat (n + lead)]
  | k + 1, n => byteForm lead k (n / 64) ++ [UInt8.ofNat (n % 64 + 0x80)]

/-- The number of continuation bytes of a code point. -/
def continuations (n : Nat) : Nat :=
  if n ≤ 0x7F then 0 else if n ≤ 0x7FF then 1 else if n ≤ 0xFFFF then 2 else 3

/-- The mark of the first byte of a form with `k` continuation bytes. -/
def leadMark : Nat → Nat
  | 0 => 0
  | 1 => 0xC0
  | 2 => 0xE0
  | _ => 0xF0

variable {m n lead k : Nat} {c d : Char} {s t : String} {xs ys : List UInt8}

theorem ofNat_lt_ofNat (h : m < n) (hn : n < 256) : UInt8.ofNat m < UInt8.ofNat n := by
  rw [UInt8.lt_iff_toNat_lt, UInt8.toNat_ofNat_of_lt' hn, UInt8.toNat_ofNat_of_lt' (h.trans hn)]
  exact h

theorem exists_byteForm_eq_cons (lead k n : Nat) :
    ∃ rest, byteForm lead k n = UInt8.ofNat (n / 64 ^ k + lead) :: rest := by
  induction k generalizing n with
  | zero => exact ⟨[], by rw [byteForm, pow_zero, Nat.div_one]⟩
  | succ k ih =>
    obtain ⟨rest, hrest⟩ := ih (n / 64)
    rw [Nat.div_div_eq_div_mul, ← pow_succ'] at hrest
    exact ⟨_, by rw [byteForm, hrest, List.cons_append]⟩

/-- Forms with the same mark and the same number of bytes stand in the order of their values. -/
theorem byteForm_lt (h : m < n) (hn : n / 64 ^ k + lead < 256) :
    byteForm lead k m ++ xs < byteForm lead k n ++ ys := by
  induction k generalizing m n xs ys with
  | zero =>
    rw [pow_zero, Nat.div_one] at hn
    exact List.cons_lt_cons_iff.2 (.inl (ofNat_lt_ofNat (by omega) hn))
  | succ k ih =>
    simp only [byteForm, List.append_assoc, List.singleton_append]
    rcases (show m / 64 ≤ n / 64 by omega).lt_or_eq with hlt | heq
    · refine ih hlt ?_
      rwa [Nat.div_div_eq_div_mul, ← pow_succ']
    · rw [heq]
      refine List.append_left_lt (List.cons_lt_cons_iff.2 (.inl (ofNat_lt_ofNat ?_ ?_))) <;> omega

theorem continuations_mono (h : m ≤ n) : continuations m ≤ continuations n := by
  unfold continuations
  split_ifs <;> omega

theorem add_leadMark_lt (hn : n < 0x110000) :
    n / 64 ^ continuations n + leadMark (continuations n) < 256 := by
  unfold continuations
  split_ifs <;> simp only [leadMark] <;> omega

/-- The first byte of a shorter form is below the mark of a longer one. -/
theorem add_leadMark_lt_leadMark (h : continuations m < continuations n) :
    m / 64 ^ continuations m + leadMark (continuations m) < leadMark (continuations n) := by
  unfold continuations at h ⊢
  split_ifs at h ⊢ <;> simp only [leadMark] <;> omega

theorem toNat_lt_codeSpace (c : Char) : c.toNat < 0x110000 := by
  rcases c.valid with h | ⟨-, h⟩
  · exact h.trans (by decide)
  · exact h

/-- The modulus on a first byte cuts nothing off. -/
theorem utf8EncodeChar_eq_byteForm (c : Char) : String.utf8EncodeChar c =
    byteForm (leadMark (continuations c.toNat)) (continuations c.toNat) c.toNat := by
  have hbound : c.toNat < 0x110000 := toNat_lt_codeSpace c
  have hvalue : c.val.toNat = c.toNat := rfl
  simp only [String.utf8EncodeChar, continuations, hvalue]
  generalize c.toNat = n at hbound
  split_ifs
  · rfl
  · rw [Nat.mod_eq_of_lt (show n / 64 < 32 by omega)]
    rfl
  · rw [Nat.mod_eq_of_lt (show n / 4096 < 16 by omega)]
    simp only [byteForm, Nat.div_div_eq_div_mul]
    rfl
  · rw [Nat.mod_eq_of_lt (show n / 262144 < 8 by omega)]
    simp only [byteForm, Nat.div_div_eq_div_mul]
    rfl

theorem exists_utf8EncodeChar_eq_cons (c : Char) : ∃ rest, String.utf8EncodeChar c =
    UInt8.ofNat (c.toNat / 64 ^ continuations c.toNat + leadMark (continuations c.toNat)) ::
      rest := by
  rw [utf8EncodeChar_eq_byteForm]
  exact exists_byteForm_eq_cons _ _ _

theorem utf8EncodeChar_append_lt (h : c < d) :
    String.utf8EncodeChar c ++ xs < String.utf8EncodeChar d ++ ys := by
  have hvalue : c.toNat < d.toNat := h
  have hbound := add_leadMark_lt (toNat_lt_codeSpace d)
  -- Where the lengths differ, the first bytes decide.
  rcases (continuations_mono hvalue.le).lt_or_eq with hlt | heq
  · obtain ⟨cs, hcs⟩ := exists_utf8EncodeChar_eq_cons c
    obtain ⟨ds, hds⟩ := exists_utf8EncodeChar_eq_cons d
    rw [hcs, hds]
    refine List.cons_lt_cons_iff.2 (.inl (ofNat_lt_ofNat ?_ hbound))
    exact (add_leadMark_lt_leadMark hlt).trans_le (Nat.le_add_left _ _)
  · rw [utf8EncodeChar_eq_byteForm, utf8EncodeChar_eq_byteForm, heq]
    exact byteForm_lt hvalue hbound

theorem utf8Bytes_lt {cs ds : List Char} (h : cs < ds) : utf8Bytes cs < utf8Bytes ds := by
  induction h with
  | @nil d ds =>
    obtain ⟨rest, hrest⟩ := exists_utf8EncodeChar_eq_cons d
    rw [utf8Bytes, utf8Bytes, List.flatMap_cons, hrest]
    exact List.nil_lt_cons _ _
  | rel h => exact utf8EncodeChar_append_lt h
  | cons _ ih => exact List.append_left_lt ih

theorem bytes_eq_utf8Bytes (s : String) : bytes s = utf8Bytes s.toList := by
  rw [bytes, String.toUTF8_eq_toByteArray, ← String.utf8Encode_toList, List.utf8Encode,
    List.data_toByteArray, List.toList_toArray, utf8Bytes]

theorem bytes_lt_of_lt (h : s < t) : bytes s < bytes t := by
  rw [bytes_eq_utf8Bytes, bytes_eq_utf8Bytes]
  exact utf8Bytes_lt (String.lt_iff_toList_lt.1 h)

/-- The order of texts is that of their bytes. -/
theorem bytes_lt_iff : bytes s < bytes t ↔ s < t := by
  refine ⟨fun h => ?_, bytes_lt_of_lt⟩
  rcases lt_trichotomy s t with hlt | rfl | hgt
  · exact hlt
  · exact absurd h (List.lt_irrefl _)
  · exact absurd h (List.lt_asymm (bytes_lt_of_lt hgt))

theorem compare_eq_lt_iff_bytes_lt : compare s t = .lt ↔ bytes s < bytes t := by
  rw [compare_lt_iff_lt, bytes_lt_iff]

end WarehouseAdapter
