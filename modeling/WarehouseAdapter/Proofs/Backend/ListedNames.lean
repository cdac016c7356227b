import WarehouseAdapter.Proofs.Except
import WarehouseAdapter.Proofs.Pattern.Documented
import WarehouseAdapter.Backend
import WarehouseAdapter.Warehouse.Memory

/-!
# Names listed by a pattern

A listing with a pattern should give the names that have a match of the pattern from their first
character on, and should refuse a text that is no pattern. The text is put into a group behind an
anchor. With any library of patterns that behaves as documented the listing does what it should
exactly if the text and the text in the group are both patterns or both none. In particular a text
that is a pattern by itself never lists a wrong name, but one that is not may list the names in
which something occurs anywhere.
-/

namespace WarehouseAdapter

open PatternLibrary

section

variable [PatternLibrary] {leftmost? : Compiled → String → Option ℕ} {text : String}
  {names : List String}

/-- The names that have a match of the pattern from their first character on. -/
def startingLike (leftmost? : Compiled → String → Option ℕ) (text : String)
    (names : List String) : Except QueryError (List String) :=
  match compile? text with
  | some p => .ok (names.filter fun name => leftmost? p name = some 0)
  | none => .error .invalidPattern

theorem filterLike_some (htext : text ≠ "") : filterLike names (some text) =
    match compile? (anchored text) with
    | some p => .ok (names.filter (isMatch p))
    | none => .error .invalidPattern := by
  have hempty : text.isEmpty = false := by simpa using htext
  rw [filterLike, hempty]
  rfl

theorem filter_isMatch_eq (hdoc : Documented leftmost?) {p q : Compiled}
    (hp : compile? text = some p) (hq : compile? (anchored text) = some q) :
    names.filter (isMatch q) = names.filter fun name => leftmost? p name = some 0 := by
  apply List.filter_congr
  intro name _
  rw [Bool.eq_iff_iff, decide_eq_true_iff]
  exact hdoc.isMatch_anchored hp hq name

/-- A text that is a pattern by itself is refused at worst. -/
theorem filterLike_of_isPattern (hdoc : Documented leftmost?) (htext : text ≠ "")
    (hp : (compile? text).isSome) :
    filterLike names (some text) = startingLike leftmost? text names ∨
      filterLike names (some text) = .error .invalidPattern := by
  obtain ⟨p, hp⟩ := Option.isSome_iff_exists.1 hp
  rw [filterLike_some htext, startingLike, hp]
  cases hq : compile? (anchored text) with
  | none => exact .inr rfl
  | some q => exact .inl (congrArg _ (filter_isMatch_eq hdoc hp hq))

theorem filterLike_eq_iff_isSome_eq (hdoc : Documented leftmost?) (htext : text ≠ "") :
    filterLike names (some text) = startingLike leftmost? text names ↔
      (compile? (anchored text)).isSome = (compile? text).isSome := by
  rw [filterLike_some htext, startingLike]
  cases hp : compile? text with
  | none => cases compile? (anchored text) <;> simp
  | some p =>
    cases hq : compile? (anchored text) with
    | none => simp
    | some q => simp [filter_isMatch_eq hdoc hp hq]

end

/-- With the patterns of this library a listing does what it should unless the text is misread. -/
theorem filterLike_eq_iff_not_misread {text : String} {names : List String} (htext : text ≠ "") :
    filterLike names (some text) =
        startingLike (fun (p : Pattern) name => p.leftmost? name.toList) text names ↔
      ¬ Pattern.Misread text.toList := by
  rw [filterLike_eq_iff_isSome_eq Pattern.documented htext]
  exact Pattern.isSome_compile?_anchored_eq_iff

namespace Backend

section

variable [PatternLibrary] {leftmost? : Compiled → String → Option ℕ} {C : Type}
  [WarehouseClient C] {b : Backend C} {like : Option String} {text : String} {names : List String}

theorem listDatabases_of_ok (h : b.listDatabases none = .ok names) :
    b.listDatabases like = filterLike names like := by
  obtain ⟨listed, hlisted, h⟩ := bind_eq_ok_iff.1 h
  cases h
  rw [listDatabases, hlisted]
  rfl

theorem listTables_of_ok {database : Option String}
    (h : b.listTables none database = .ok names) :
    b.listTables like database = filterLike names like := by
  obtain ⟨listed, hlisted, h⟩ := bind_eq_ok_iff.1 h
  cases h
  rw [listTables, hlisted]
  rfl

/-- The exact condition for a listing to give the names that match from their first character. -/
theorem list_eq_startingLike_iff (hdoc : Documented leftmost?) (htext : text ≠ "")
    (database : Option String) :
    (b.listDatabases none = .ok names →
      (b.listDatabases (some text) = startingLike leftmost? text names ↔
        (compile? (anchored text)).isSome = (compile? text).isSome)) ∧
    (b.listTables none database = .ok names →
      (b.listTables (some text) database = startingLike leftmost? text names ↔
        (compile? (anchored text)).isSome = (compile? text).isSome)) := by
  constructor
  · intro h
    rw [listDatabases_of_ok h]
    exact filterLike_eq_iff_isSome_eq hdoc htext
  · intro h
    rw [listTables_of_ok h]
    exact filterLike_eq_iff_isSome_eq hdoc htext

end

/-- A choice whose first branch stands inside a name only. -/
theorem list_eq_startingLike_iff_choice :
    let reorder : TableDescriptor := ⟨⟨"p", "order", "reorder"⟩, [], none⟩
    let warehouse := (MemoryWarehouse.addTable {} reorder).addDataset ⟨"p", "preorder"⟩
    let b := connect warehouse "p" "order" {}
    let leftmost? := fun (p : Pattern) (name : String) => p.leftmost? name.toList
    b.listDatabases none = .ok ["order", "preorder"] ∧ b.listTables none none = .ok ["reorder"] ∧
      b.listDatabases (some "re|ord") = startingLike leftmost? "re|ord" ["order", "preorder"] ∧
      b.listTables (some "re|ord") none = startingLike leftmost? "re|ord" ["reorder"] ∧
      startingLike leftmost? "re|ord" ["order", "preorder"] = .ok ["order"] ∧
      startingLike leftmost? "re|ord" ["reorder"] = .ok ["reorder"] := by
  intro reorder warehouse b leftmost?
  have htext : "re|ord" ≠ "" := by decide
  have hread : (compile? (anchored "re|ord")).isSome = (compile? "re|ord").isSome := by
    decide +kernel
  have hdatabases : b.listDatabases none = .ok ["order", "preorder"] := by decide +kernel
  have htables : b.listTables none none = .ok ["reorder"] := by decide +kernel
  refine ⟨hdatabases, htables, ?_, ?_, by decide +kernel, by decide +kernel⟩
  · exact ((list_eq_startingLike_iff Pattern.documented htext none).1 hdatabases).2 hread
  · exact ((list_eq_startingLike_iff Pattern.documented htext none).2 htables).2 hread

/-- A text that is no pattern closes the group and lists a name that ends in what follows. -/
theorem not_list_eq_startingLike :
    ¬ ∀ (b : Backend MemoryWarehouse) (text : String) (names : List String), text ≠ "" →
      b.listDatabases none = .ok names →
        b.listDatabases (some text) =
          startingLike (fun (p : Pattern) name => p.leftmost? name.toList) text names := by
  intro h
  have hlist := h (connect (MemoryWarehouse.addDataset {} ⟨"p", "preorder"⟩) "p" "preorder" {})
    "x)|(?:order" ["preorder"] (by decide) (by decide +kernel)
  revert hlist
  decide +kernel

end Backend

end WarehouseAdapter
