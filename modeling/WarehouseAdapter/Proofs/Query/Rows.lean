import WarehouseAdapter.Proofs.FirstColumns
import WarehouseAdapter.Warehouse.Client

/-!
# Columns of a result

Rows make a frame if each has one value for each name. The column of a name then holds, row by row,
the values at the place of the name. The columns are filled row by row: after some rows each holds
the values at its place of just these, and so at the end of all.
-/

namespace WarehouseAdapter

variable {α β γ : Type} {names : List String} {rows : List (List Value)} {f : Frame} {c : Column}
  {name : String} {j : ℕ}

/-- The values at a place of the rows, top down. -/
def placeValues (rows : List (List Value)) (j : ℕ) : List Value :=
  rows.filterMap fun row => row[j]?

theorem forall₂_filterMap_iff {g : α → Option β} {S : β → γ → Prop} {as : List α} {cs : List γ}
    (h : ∀ a ∈ as, (g a).isSome = true) :
    List.Forall₂ S (as.filterMap g) cs ↔
      List.Forall₂ (fun a c => ∃ b, g a = some b ∧ S b c) as cs := by
  induction as generalizing cs with
  | nil => simp
  | cons a as ih =>
    obtain ⟨ha, has⟩ := List.forall_mem_cons.1 h
    obtain ⟨b, hb⟩ := Option.isSome_iff_exists.1 ha
    rw [List.filterMap_cons_some hb, List.forall₂_cons_left_iff, List.forall₂_cons_left_iff]
    simp [hb, ih has]

/-- Where no row is too short, the values at a place stand one beside each row. -/
theorem forall₂_placeValues_iff {S : Value → γ → Prop} {cs : List γ}
    (hwidths : ∀ row ∈ rows, row.length = names.length) (hj : names[j]? = some name) :
    List.Forall₂ S (placeValues rows j) cs ↔
      List.Forall₂ (fun (row : List Value) c => ∃ v, row[j]? = some v ∧ S v c) rows cs := by
  obtain ⟨hlt, -⟩ := List.getElem?_eq_some_iff.1 hj
  refine forall₂_filterMap_iff fun row hrow => ?_
  rw [← hwidths row hrow] at hlt
  rw [List.getElem?_eq_getElem hlt]
  rfl

namespace Frame

/-- The first row whose width is not the expected one, as its index and its width. -/
def ragged? (width : ℕ) (rows : List (List Value)) : Option (ℕ × ℕ) :=
  (rows.findIdx? fun row => row.length != width).map fun i => (i, (rows.getD i []).length)

/-- One column for each name: the first column holds the first value of every row. -/
def transposed : List String → List (List Value) → List Column
  | [], _ => []
  | name :: names, rows =>
    Column.ofValues name (rows.filterMap List.head?) :: transposed names (rows.map List.tail)

/-- What the columns of as many places hold after some rows. -/
def filled (width : ℕ) (rows : List (List Value)) : List (Array Value) :=
  (List.range width).map fun j => (placeValues rows j).toArray

theorem pushRow_getElem? (columns : List (Array Value)) (row : List Value) (j : ℕ) :
    (pushRow columns row)[j]? = columns[j]?.map fun column => row[j]?.elim column column.push := by
  fun_induction pushRow columns row generalizing j with
  | case1 column columns v row ih =>
    cases j with
    | zero => rfl
    | succ j => exact ih j
  | case2 columns row h =>
    cases columns with
    | nil => rfl
    | cons column columns =>
      cases row with
      | nil => simp
      | cons v row => exact (h column columns v row rfl rfl).elim

/-- One more row behind those with which the columns are filled. -/
theorem pushRow_filled {width : ℕ} {row : List Value} (h : row.length = width) :
    pushRow (filled width rows) row = filled width (rows ++ [row]) := by
  apply List.ext_getElem?
  intro j
  rw [pushRow_getElem?, filled, filled, List.getElem?_map, List.getElem?_map, Option.map_map]
  by_cases hj : j < width
  · have hrow : row[j]? = some row[j] := List.getElem?_eq_getElem (h ▸ hj)
    have hvalues : placeValues (rows ++ [row]) j = placeValues rows j ++ [row[j]] := by
      simp only [placeValues, List.filterMap_append, List.filterMap_cons, hrow, List.filterMap_nil]
    rw [List.getElem?_range hj, Option.map_some, Option.map_some, Function.comp_apply, hrow,
      Option.elim_some, List.push_toArray, hvalues]
  · have hnone : (List.range width)[j]? = none := by simpa using hj
    rw [hnone, Option.map_none, Option.map_none]

theorem ragged?_cons (width : ℕ) (row : List Value) (rows : List (List Value)) :
    ragged? width (row :: rows) = if row.length = width then
      (ragged? width rows).map fun r => (r.1 + 1, r.2) else some (0, row.length) := by
  rw [ragged?, List.findIdx?_cons]
  by_cases h : row.length = width
  · rw [if_pos h, if_neg (by simpa using h), ragged?, Option.map_map, Option.map_map]
    rfl
  · rw [if_neg h, if_pos (by simpa using h)]
    rfl

/-- From columns filled with the rows before, the loop fills in all the others or stops at the first
of another width. -/
theorem foldlM_addRow (width k : ℕ) (before rows : List (List Value)) :
    (rows.zipIdx k).foldlM (addRow width) (filled width before) =
      match ragged? width rows with
      | some (i, w) => .error (.raggedRow (k + i) w width)
      | none => .ok (filled width (before ++ rows)) := by
  induction rows generalizing before k with
  | nil =>
    rw [List.append_nil]
    rfl
  | cons row rows ih =>
    rw [List.zipIdx_cons, List.foldlM_cons, addRow, ragged?_cons]
    by_cases h : row.length = width
    · rw [if_pos h, if_pos h, pushRow_filled h]
      refine (ih (k + 1) (before ++ [row])).trans ?_
      rw [List.append_assoc, List.singleton_append]
      cases ragged? width rows with
      | none => rfl
      | some r => simp only [Option.map_some, Nat.add_assoc, Nat.add_comm 1]
    · rw [if_neg h, if_neg h]
      rfl

theorem filled_nil (names : List String) :
    (names.map fun _ => #[]) = filled names.length [] := by
  have hempty : ∀ j, (placeValues [] j).toArray = #[] := fun _ => rfl
  simp only [filled, hempty, List.map_const', List.length_range]

theorem transposed_getElem? (names : List String) (rows : List (List Value)) (j : ℕ) :
    (transposed names rows)[j]? =
      names[j]?.map fun name => Column.ofValues name (placeValues rows j) := by
  induction names generalizing rows j with
  | nil => rfl
  | cons name names ih =>
    rw [transposed]
    cases j with
    | zero => simp [placeValues, List.head?_eq_getElem?]
    | succ j =>
      rw [List.getElem?_cons_succ, List.getElem?_cons_succ, ih, placeValues, List.filterMap_map]
      simp [placeValues]

theorem map_zip_filled (names : List String) (rows : List (List Value)) :
    ((names.zip (filled names.length rows)).map fun c => Column.ofValues c.1 c.2.toList) =
      transposed names rows := by
  apply List.ext_getElem?
  intro j
  rw [transposed_getElem?, List.getElem?_map]
  by_cases hj : j < names.length
  · simp [filled, hj]
  · simp [filled, hj]

theorem ofRows_eq (names : List String) (rows : List (List Value)) : ofRows names rows =
    match ragged? names.length rows with
    | some (i, w) => .error (.raggedRow i w names.length)
    | none => .ok ⟨transposed names rows⟩ := by
  rw [ofRows, filled_nil, foldlM_addRow, List.nil_append]
  cases ragged? names.length rows with
  | none => exact congrArg (fun columns => Except.ok (Frame.mk columns)) (map_zip_filled names rows)
  | some r =>
    simp only [Nat.zero_add]
    rfl

theorem ofRows_eq_ok_iff : ofRows names rows = .ok f ↔
    (∀ row ∈ rows, row.length = names.length) ∧ f = ⟨transposed names rows⟩ := by
  have hragged : ragged? names.length rows = none ↔ ∀ row ∈ rows, row.length = names.length := by
    simp [ragged?]
  rw [ofRows_eq, ← hragged]
  cases ragged? names.length rows with
  | some r => simp
  | none => simp [eq_comm]

theorem mem_transposed_iff : c ∈ transposed names rows ↔
    ∃ (j : ℕ) (name : String), names[j]? = some name ∧
      c = Column.ofValues name (placeValues rows j) := by
  rw [List.mem_iff_getElem?]
  apply exists_congr
  intro j
  rw [transposed_getElem?, Option.map_eq_some_iff]
  simp only [eq_comm]

theorem names_transposed (names : List String) (rows : List (List Value)) :
    (Frame.mk (transposed names rows)).names = names := by
  apply List.ext_getElem?
  intro j
  rw [Frame.names, List.getElem?_map, transposed_getElem?, Option.map_map]
  exact Option.map_id'

theorem column?_transposed (hnodup : names.Nodup) (hj : names[j]? = some name) :
    column? ⟨transposed names rows⟩ name = some (Column.ofValues name (placeValues rows j)) := by
  have hmem : Column.ofValues name (placeValues rows j) ∈ transposed names rows :=
    mem_transposed_iff.2 ⟨j, name, hj, rfl⟩
  have hdistinct : (Frame.mk (transposed names rows)).names.Nodup := by rwa [names_transposed]
  exact column?_of_mem hdistinct hmem

end Frame

end WarehouseAdapter
