import WarehouseAdapter.Proofs.Query.Lifecycle

/-!
# The order of result columns

The columns of a result may come in any order, each taking its entries of the rows along. The frame
of the rows then has the same columns in that order, and a schema applied to columns of distinct
names asks for each by its name only, although it takes them out of a list that it rearranges.
-/

namespace WarehouseAdapter

variable {α β : Type} {places : List ℕ} {xs : List α}

/-- The elements at some places, in the order in which the places are given. -/
def pick (places : List ℕ) (xs : List α) : List α := places.filterMap fun i => xs[i]?

/-- A result with its columns in another order, and every row with them. -/
def ResultCursor.rearranged (c : ResultCursor) (places : List ℕ) : ResultCursor :=
  ⟨pick places c.columns, c.rows.map (pick places)⟩

theorem getElem?_pick (h : ∀ i ∈ places, i < xs.length) (j : ℕ) :
    (pick places xs)[j]? = places[j]?.bind fun i => xs[i]? := by
  induction places generalizing j with
  | nil => rfl
  | cons i places ih =>
    obtain ⟨hi, hplaces⟩ := List.forall_mem_cons.1 h
    rw [pick, List.filterMap_cons_some (List.getElem?_eq_getElem hi)]
    cases j with
    | zero => simp [hi]
    | succ j => exact ih hplaces j

theorem pick_range (xs : List α) : pick (List.range xs.length) xs = xs := by
  apply List.ext_getElem?
  intro j
  rw [getElem?_pick (fun i hi => List.mem_range.1 hi)]
  by_cases hj : j < xs.length
  · rw [List.getElem?_range hj, Option.bind_some]
  · have hnone : xs[j]? = none := List.getElem?_eq_none (Nat.le_of_not_lt hj)
    rw [List.getElem?_eq_none (by simpa using hj), Option.bind_none, hnone]

theorem pick_perm (h : places.Perm (List.range xs.length)) : (pick places xs).Perm xs := by
  have hpick : (pick places xs).Perm (pick (List.range xs.length) xs) := h.filterMap _
  rwa [pick_range] at hpick

theorem length_pick (h : places.Perm (List.range xs.length)) :
    (pick places xs).length = xs.length := (pick_perm h).length_eq

theorem lt_of_mem_places {n : ℕ} (h : places.Perm (List.range n)) : ∀ i ∈ places, i < n :=
  fun _ hi => List.mem_range.1 (h.mem_iff.1 hi)

variable {names : List String} {rows : List (List Value)} {s : Schema} {f g : Frame}

/-- A place of rearranged rows holds what the rows hold at the place that it is taken from. -/
theorem placeValues_map_pick {i j : ℕ} {n : ℕ} (hplaces : ∀ i ∈ places, i < n)
    (hwidths : ∀ row ∈ rows, row.length = n) (hj : places[j]? = some i) :
    placeValues (rows.map (pick places)) j = placeValues rows i := by
  rw [placeValues, List.filterMap_map, placeValues]
  refine List.filterMap_congr fun row hrow => ?_
  rw [Function.comp_apply, getElem?_pick (hwidths row hrow ▸ hplaces), hj, Option.bind_some]

theorem length_transposed (names : List String) (rows : List (List Value)) :
    (Frame.transposed names rows).length = names.length := by
  rw [← List.length_map Column.name]
  exact congrArg List.length (Frame.names_transposed names rows)

/-- Rearranged rows make the same columns in the new order. -/
theorem transposed_pick (hwidths : ∀ row ∈ rows, row.length = names.length)
    (hplaces : ∀ i ∈ places, i < names.length) :
    Frame.transposed (pick places names) (rows.map (pick places)) =
      pick places (Frame.transposed names rows) := by
  have hlength := length_transposed names rows
  apply List.ext_getElem?
  intro j
  rw [Frame.transposed_getElem?, getElem?_pick hplaces, getElem?_pick (hlength ▸ hplaces)]
  cases hj : places[j]? with
  | none => rfl
  | some i =>
    rw [Option.bind_some, Option.bind_some, Frame.transposed_getElem?,
      placeValues_map_pick hplaces hwidths hj]

/-- A result whose columns have distinct names gives the same frame in any order of the columns, or
fails in the same way. -/
theorem applyTo_rearranged {c : ResultCursor} (hnames : c.columns.Nodup)
    (hwidths : ∀ row ∈ c.rows, row.length = c.columns.length)
    (hplaces : places.Perm (List.range c.columns.length)) :
    ∃ f g, c.toFrame = .ok f ∧ (c.rearranged places).toFrame = .ok g ∧
      s.applyTo g = s.applyTo f ∧ ∀ e, s.applyTo f = .error e →
        (∃ name, e = .columnNotFound name) ∨ ∃ name fault, e = .coercion name fault := by
  have hwidths' : ∀ row ∈ (c.rearranged places).rows,
      row.length = (c.rearranged places).columns.length := by
    refine List.forall_mem_map.2 fun row hrow => ?_
    rw [ResultCursor.rearranged, length_pick hplaces, ← hwidths row hrow]
    exact length_pick (hwidths row hrow ▸ hplaces)
  refine ⟨_, _, Frame.ofRows_eq_ok_iff.2 ⟨hwidths, rfl⟩, Frame.ofRows_eq_ok_iff.2 ⟨hwidths', rfl⟩,
    applyTo_of_perm ?_ ?_, fun e => Query.applyTo_error⟩
  · rw [ResultCursor.rearranged, transposed_pick hwidths (lt_of_mem_places hplaces)]
    refine pick_perm ?_
    rwa [length_transposed]
  · rwa [Frame.names_transposed]

/-- The column that the schema leaves out comes first in the other order. -/
theorem applyTo_rearranged_middle_first :
    let c : ResultCursor := ⟨["id", "note", "at"],
      [[.float ⟨0x401C000000000000⟩, .null, .str "2020-01-02"], [.null, .bool true, .null]]⟩
    let s : Schema := .ofDistinct [("at", .timestamp), ("id", .int64)] (by decide)
    ∃ f g, c.toFrame = .ok f ∧ (c.rearranged [1, 2, 0]).toFrame = .ok g ∧
      s.applyTo g = s.applyTo f ∧ ∀ e, s.applyTo f = .error e →
        (∃ name, e = .columnNotFound name) ∨ ∃ name fault, e = .coercion name fault :=
  applyTo_rearranged (by decide) (by simp) (by decide)

end WarehouseAdapter
