import Mathlib
import WarehouseAdapter.Text.Basic

/-!
# Reading texts character by character

Texts divided at the first of a character or behind their blanks, texts freed of blanks, and texts
in small letters.
-/

namespace WarehouseAdapter

theorem takeWhile_dropWhile_ne {c : Char} {cs : List Char} (h : c ∉ cs) (rest : List Char) :
    (cs ++ c :: rest).takeWhile (· != c) = cs ∧
      (cs ++ c :: rest).dropWhile (· != c) = c :: rest := by
  have hall : ∀ d ∈ cs, (d != c) = true := by
    intro d hd
    rw [bne_iff_ne]
    rintro rfl
    exact h hd
  rw [List.takeWhile_append_of_pos hall, List.dropWhile_append_of_pos hall]
  simp

theorem eq_of_dropWhile_ne {c d : Char} {cs rest : List Char}
    (h : cs.dropWhile (· != c) = d :: rest) :
    cs = cs.takeWhile (· != c) ++ c :: rest ∧ c ∉ cs.takeWhile (· != c) := by
  have hd := List.head?_dropWhile_not (· != c) cs
  rw [h] at hd
  obtain rfl : d = c := by simpa using hd
  refine ⟨?_, fun hmem => ?_⟩
  · rw [← h, List.takeWhile_append_dropWhile]
  · simpa using List.all_eq_true.1 List.all_takeWhile _ hmem

theorem skipBlank_cons {c : Char} (h : isBlank c = false) (s : List Char) :
    skipBlank (c :: s) = c :: s := by
  simp [skipBlank, h]

theorem skipBlank_append {blanks : List Char} (h : ∀ b ∈ blanks, isBlank b = true) (s : List Char) :
    skipBlank (blanks ++ s) = skipBlank s := List.dropWhile_append_of_pos h

theorem exists_blanks_append_skipBlank (s : List Char) :
    ∃ blanks, (∀ b ∈ blanks, isBlank b = true) ∧ s = blanks ++ skipBlank s :=
  ⟨s.takeWhile isBlank, fun _ hb => List.all_eq_true.1 List.all_takeWhile _ hb,
    List.takeWhile_append_dropWhile.symm⟩

theorem toLower_toLower (c : Char) : c.toLower.toLower = c.toLower := by
  by_cases h : c.val ≥ 'A'.val ∧ c.val ≤ 'Z'.val
  · have hlower : c.toLower.val = c.val + 32 := by
      rw [Char.toLower, dif_pos h]
      rfl
    refine dif_neg fun hagain => ?_
    rw [hlower] at hagain
    simp only [ge_iff_le, UInt32.le_iff_toNat_le, UInt32.toNat_add, Char.reduceVal,
      UInt32.reduceToNat] at h hagain
    omega
  · have hsame : c.toLower = c := dif_neg h
    rw [hsame, hsame]

theorem lowerAscii_lowerAscii (s : String) : lowerAscii (lowerAscii s) = lowerAscii s := by
  rw [lowerAscii, lowerAscii, String.toList_ofList, List.map_map]
  exact congrArg String.ofList (List.map_congr_left fun c _ => toLower_toLower c)

theorem mem_of_mem_trim {c : Char} {cs : List Char} (h : c ∈ trim cs) : c ∈ cs := by
  unfold trim trimEnd skipBlank at h
  rw [List.mem_reverse] at h
  have h' := (List.dropWhile_sublist isBlank).mem h
  exact (List.dropWhile_sublist isBlank).mem (List.mem_reverse.1 h')

theorem trimEnd_prefix (cs : List Char) : trimEnd cs <+: cs := List.rdropWhile_prefix isBlank cs

theorem trimEnd_trimEnd (cs : List Char) : trimEnd (trimEnd cs) = trimEnd cs :=
  List.rdropWhile_idempotent isBlank cs

theorem skipBlank_skipBlank (cs : List Char) : skipBlank (skipBlank cs) = skipBlank cs :=
  List.dropWhile_idempotent isBlank cs

theorem not_isBlank_of_skipBlank {c : Char} {cs : List Char} (h : skipBlank (c :: cs) = c :: cs) :
    isBlank c = false := by
  simpa using List.dropWhile_eq_self_iff.1 h (List.length_pos_of_mem List.mem_cons_self)

/-- No blank comes to the front when blanks are cut off at the end. -/
theorem skipBlank_trimEnd {cs : List Char} (h : skipBlank cs = cs) :
    skipBlank (trimEnd cs) = trimEnd cs := by
  have hprefix := trimEnd_prefix cs
  cases htrim : trimEnd cs with
  | nil => rfl
  | cons c rest =>
    rw [htrim] at hprefix
    obtain ⟨behind, rfl⟩ := hprefix
    exact skipBlank_cons (not_isBlank_of_skipBlank h) rest

theorem trim_trim (cs : List Char) : trim (trim cs) = trim cs := by
  rw [trim, trim, skipBlank_trimEnd (skipBlank_skipBlank cs), trimEnd_trimEnd]

theorem trimmed_ofList_trim (cs : List Char) :
    trimmed (String.ofList (trim cs)) = String.ofList (trim cs) := by
  rw [trimmed, String.toList_ofList, trim_trim]

end WarehouseAdapter
