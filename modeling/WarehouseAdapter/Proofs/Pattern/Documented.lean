import WarehouseAdapter.Pattern.Library
import WarehouseAdapter.Proofs.Pattern.Anchoring
import WarehouseAdapter.Proofs.PatternLibrary

/-!
# The patterns behave as documented

The leftmost match of a pattern begins at the first place at which the matcher has any length. With
it the patterns, as a library, are searched, grouped and anchored as is documented of one.
-/

namespace WarehouseAdapter.Pattern

variable {s : List Char} {p q : Pattern}

/-- The place at which the leftmost match begins. -/
def leftmost? (p : Pattern) (text : List Char) : Option ℕ :=
  (p.spans (outlooks none text)).findIdx? (· ≠ 0)

theorem isSome_leftmost? (p : Pattern) (text : List Char) :
    (p.leftmost? text).isSome = p.isMatch text := by
  rw [leftmost?, List.findIdx?_isSome, isMatch]

/-- The first element found is the one in front. -/
theorem findIdx?_eq_some_zero_iff {found : ℕ → Bool} {xs : List ℕ} :
    xs.findIdx? found = some 0 ↔ ∃ x ∈ xs.head?, found x = true := by
  cases xs with
  | nil => simp
  | cons x xs =>
    rw [List.findIdx?_cons]
    by_cases hx : found x
    · simp [hx]
    · simp [hx]

theorem leftmost?_eq_some_zero_iff (p : Pattern) (text : List Char) :
    p.leftmost? text = some 0 ↔ p.Begins text := by
  rw [leftmost?, findIdx?_eq_some_zero_iff, begins_iff]
  simp

theorem leftmost?_enclosed_eq_some_zero_iff (hp : ofChars? s = some p)
    (hq : ofChars? (enclosed s) = some q) (text : List Char) :
    q.leftmost? text = some 0 ↔ p.leftmost? text = some 0 := by
  obtain ⟨n, rfl, rfl⟩ := exists_nested_of_enclosed hp hq
  rw [leftmost?_eq_some_zero_iff, leftmost?_eq_some_zero_iff, begins_anchored_iff]

theorem eq_zero_of_leftmost?_enclosed {text : List Char} {i : ℕ} (hp : ofChars? s = some p)
    (hq : ofChars? (enclosed s) = some q) (h : q.leftmost? text = some i) : i = 0 := by
  have hmatch : q.isMatch text = true := by rw [← isSome_leftmost?, h, Option.isSome_some]
  have hstart : q.leftmost? text = some 0 := by
    obtain ⟨n, rfl, rfl⟩ := exists_nested_of_enclosed hp hq
    rw [leftmost?_eq_some_zero_iff, begins_anchored_iff, ← occurs_anchored_iff,
      ← isMatch_iff_occurs]
    exact hmatch
  rw [hstart] at h
  exact (Option.some.inj h).symm

theorem toList_anchored (source : String) :
    (PatternLibrary.anchored source).toList = enclosed source.toList := by
  simp [PatternLibrary.anchored, enclosed]

theorem documented :
    PatternLibrary.Documented fun (p : Pattern) text => p.leftmost? text.toList where
  search p text := (isSome_leftmost? p text.toList).symm
  anchor source p q text i hp hq h := by
    refine eq_zero_of_leftmost?_enclosed (s := source.toList) hp ?_ h
    rw [← toList_anchored]
    exact hq
  group source p q text hp hq := by
    refine leftmost?_enclosed_eq_some_zero_iff (s := source.toList) hp ?_ text.toList
    rw [← toList_anchored]
    exact hq

theorem isSome_compile?_anchored_eq_iff {text : String} :
    (PatternLibrary.compile? (PatternLibrary.anchored text)).isSome =
        (PatternLibrary.compile? text).isSome ↔ ¬ Misread text.toList := by
  change (ofText? _).isSome = (ofText? text).isSome ↔ _
  rw [ofText?, ofText?, toList_anchored]
  constructor
  · intro h hmisread
    exact hmisread.isSome_ne h
  · exact isSome_eq_of_not_misread

end WarehouseAdapter.Pattern
