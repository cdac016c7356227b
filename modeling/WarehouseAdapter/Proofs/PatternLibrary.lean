import Mathlib
import WarehouseAdapter.PatternLibrary

/-!
# What is documented of a library of patterns

Beside the search for any match there is one for the leftmost match, which tells where it begins. So
a pattern has a match at the first character of a text exactly when its leftmost match begins there.
What a listing relies on is said of a pattern in a group behind the sign for the start of the text.
-/

namespace WarehouseAdapter.PatternLibrary

/-- The text of a pattern in a group behind the sign for the start of the text. -/
def anchored (text : String) : String := "^(?:" ++ text ++ ")"

variable [PatternLibrary]

/-- What is documented of the patterns, where `leftmost?` gives the place at which the leftmost
match of a pattern in a text begins. -/
structure Documented (leftmost? : Compiled → String → Option ℕ) : Prop where
  /-- The search for a match finds one exactly if there is a leftmost one. -/
  search : ∀ p text, isMatch p text = (leftmost? p text).isSome
  /-- The sign `^` stands for the start of the text, so a match that begins with it begins there. -/
  anchor : ∀ source p q text i, compile? source = some p → compile? (anchored source) = some q →
    leftmost? q text = some i → i = 0
  /-- The group matches what stands in it, and `^` takes no character at the start of the text. -/
  group : ∀ source p q text, compile? source = some p → compile? (anchored source) = some q →
    (leftmost? q text = some 0 ↔ leftmost? p text = some 0)

variable {leftmost? : Compiled → String → Option ℕ} {source : String} {p q : Compiled}

/-- In a group behind the anchor a pattern is found in the texts that begin with a match of it. -/
theorem Documented.isMatch_anchored (h : Documented leftmost?) (hp : compile? source = some p)
    (hq : compile? (anchored source) = some q) (text : String) :
    isMatch q text = true ↔ leftmost? p text = some 0 := by
  rw [h.search, Option.isSome_iff_exists, ← h.group source p q text hp hq]
  constructor
  · rintro ⟨i, hi⟩
    rw [hi, h.anchor source p q text i hp hq hi]
  · intro hstart
    exact ⟨0, hstart⟩

end WarehouseAdapter.PatternLibrary
