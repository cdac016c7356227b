import WarehouseAdapter.Proofs.Query.Rows

/-!
# Rows made into a frame

Rows make a frame exactly when each has one value for each name. The frame then has a column for
each name, in order, and the value of a row at a place stands in the column of that place, beside
the row. Otherwise the first row of another width is reported, with its index.
-/

namespace WarehouseAdapter

variable {names : List String} {rows : List (List Value)} {f : Frame} {i j width : ℕ}
  {row : List Value}

theorem length_placeValues (h : ∀ row ∈ rows, j < row.length) :
    (placeValues rows j).length = rows.length := by
  apply List.filterMap_length_eq_length.2
  intro row hrow
  simp [h row hrow]

/-- Of rows that all reach a place, each gives the value at that place. -/
theorem getElem?_placeValues (h : ∀ row ∈ rows, j < row.length) (i : ℕ) :
    (placeValues rows j)[i]? = rows[i]?.bind fun row => row[j]? := by
  induction rows generalizing i with
  | nil => simp [placeValues]
  | cons row rows ih =>
    obtain ⟨hrow, hrows⟩ := List.forall_mem_cons.1 h
    have hcons : placeValues (row :: rows) j = row[j] :: placeValues rows j :=
      List.filterMap_cons_some (List.getElem?_eq_getElem hrow)
    rw [hcons]
    cases i with
    | zero => simp [hrow]
    | succ i => simpa using ih hrows i

namespace Frame

/-- The columns have the names, in order, and column by column the values of the rows. -/
structure Transposes (f : Frame) (names : List String) (rows : List (List Value)) : Prop where
  names_eq : f.names = names
  dtype_eq : ∀ c ∈ f.columns, c.dtype = Dtype.ofValues c.values
  length_eq : ∀ c ∈ f.columns, c.values.length = rows.length
  entry_eq : ∀ (i : ℕ) (row : List Value), rows[i]? = some row →
    ∀ (j : ℕ) (c : Column), f.columns[j]? = some c → c.values[i]? = row[j]?

/-- The row of this index is the first that is not as wide as asked for. -/
structure FirstRagged (width : ℕ) (rows : List (List Value)) (i : ℕ) (row : List Value) : Prop where
  row_eq : rows[i]? = some row
  length_ne : row.length ≠ width
  before : ∀ k < i, ∀ row', rows[k]? = some row' → row'.length = width

theorem ragged?_eq_some_iff {w : ℕ} : ragged? width rows = some (i, w) ↔
    ∃ row, FirstRagged width rows i row ∧ row.length = w := by
  rw [ragged?, Option.map_eq_some_iff]
  constructor
  · rintro ⟨k, hk, he⟩
    obtain ⟨rfl, rfl⟩ := Prod.mk.inj he
    obtain ⟨hlt, hp, hbefore⟩ := List.findIdx?_eq_some_iff_getElem.1 hk
    refine ⟨rows[k], ⟨List.getElem?_eq_getElem hlt, by simpa using hp, ?_⟩, by simp [hlt]⟩
    intro l hl row' hrow'
    obtain ⟨hlt', rfl⟩ := List.getElem?_eq_some_iff.1 hrow'
    simpa using hbefore l hl
  · rintro ⟨row, h, rfl⟩
    obtain ⟨hlt, hrow⟩ := List.getElem?_eq_some_iff.1 h.row_eq
    refine ⟨i, List.findIdx?_eq_some_iff_getElem.2 ⟨hlt, ?_, ?_⟩, ?_⟩
    · rw [hrow]
      exact bne_iff_ne.2 h.length_ne
    · intro l hl
      simpa using h.before l hl _ (List.getElem?_eq_getElem (hl.trans hlt))
    · rw [List.getD_eq_getElem?_getD, h.row_eq]
      rfl

theorem ofRows_eq_error_iff {e : SchemaError} : ofRows names rows = .error e ↔
    ∃ i row, FirstRagged names.length rows i row ∧ e = .raggedRow i row.length names.length := by
  rw [ofRows_eq]
  cases h : ragged? names.length rows with
  | none =>
    have hno : ∀ i row, ¬ FirstRagged names.length rows i row := fun i row hragged =>
      Option.some_ne_none _ ((ragged?_eq_some_iff.2 ⟨row, hragged, rfl⟩).symm.trans h)
    simp [hno]
  | some r =>
    obtain ⟨i, w⟩ := r
    constructor
    · intro he
      obtain ⟨row, hragged, rfl⟩ := ragged?_eq_some_iff.1 h
      exact ⟨i, row, hragged, (Except.error.inj he).symm⟩
    · rintro ⟨k, row, hragged, rfl⟩
      have hsame := h.symm.trans (ragged?_eq_some_iff.2 ⟨row, hragged, rfl⟩)
      obtain ⟨rfl, rfl⟩ := Prod.mk.inj (Option.some.inj hsame)
      rfl

theorem transposes_transposed (h : ∀ row ∈ rows, row.length = names.length) :
    Transposes ⟨transposed names rows⟩ names rows where
  names_eq := names_transposed names rows
  dtype_eq c hc := by
    obtain ⟨j, name, -, rfl⟩ := mem_transposed_iff.1 hc
    rfl
  length_eq c hc := by
    obtain ⟨j, name, hj, rfl⟩ := mem_transposed_iff.1 hc
    obtain ⟨hlt, -⟩ := List.getElem?_eq_some_iff.1 hj
    exact length_placeValues fun row hrow => h row hrow ▸ hlt
  entry_eq i row hrow j c hc := by
    rw [transposed_getElem?] at hc
    obtain ⟨name, hj, rfl⟩ := Option.map_eq_some_iff.1 hc
    obtain ⟨hlt, -⟩ := List.getElem?_eq_some_iff.1 hj
    have hreach : ∀ row ∈ rows, j < row.length := fun row hrow => h row hrow ▸ hlt
    exact (getElem?_placeValues hreach i).trans (by rw [hrow]; rfl)

/-- The names and the rows leave nothing open. -/
theorem Transposes.unique {g : Frame} (hf : Transposes f names rows)
    (hg : Transposes g names rows) : f = g := by
  obtain ⟨columns⟩ := f
  obtain ⟨columns'⟩ := g
  have hnames : columns.map Column.name = columns'.map Column.name :=
    hf.names_eq.trans hg.names_eq.symm
  have hlength : columns.length = columns'.length := by
    simpa using congrArg List.length hnames
  refine congrArg Frame.mk (List.ext_getElem hlength fun j hj hj' => ?_)
  have hc := List.getElem?_eq_getElem hj
  have hc' := List.getElem?_eq_getElem hj'
  have hmem := List.mem_of_getElem? hc
  have hmem' := List.mem_of_getElem? hc'
  have hname : columns[j].name = columns'[j].name := by
    simpa [hj, hj'] using congrArg (fun l => l[j]?) hnames
  have hvalues : columns[j].values = columns'[j].values := by
    apply List.ext_getElem?
    intro i
    by_cases hi : i < rows.length
    · have hrow := List.getElem?_eq_getElem hi
      exact (hf.entry_eq i _ hrow j _ hc).trans (hg.entry_eq i _ hrow j _ hc').symm
    · have hbeyond : columns[j].values.length ≤ i := by rw [hf.length_eq _ hmem]; omega
      have hbeyond' : columns'[j].values.length ≤ i := by rw [hg.length_eq _ hmem']; omega
      rw [List.getElem?_eq_none hbeyond, List.getElem?_eq_none hbeyond']
  have hdtype : columns[j].dtype = columns'[j].dtype := by
    rw [hf.dtype_eq _ hmem, hg.dtype_eq _ hmem', hvalues]
  rcases hcol : columns[j] with ⟨name, dtype, values⟩
  rcases hcol' : columns'[j] with ⟨name', dtype', values'⟩
  simp_all

theorem ofRows_eq_ok_iff_transposes : ofRows names rows = .ok f ↔
    (∀ row ∈ rows, row.length = names.length) ∧ f.Transposes names rows := by
  rw [ofRows_eq_ok_iff]
  apply and_congr_right
  intro hwidths
  have htransposes := transposes_transposed hwidths
  constructor
  · rintro rfl
    exact htransposes
  · intro hf
    exact hf.unique htransposes

theorem ofRows_transposes (names : List String) (rows : List (List Value)) :
    ((∃ f, ofRows names rows = .ok f) ↔ ∀ row ∈ rows, row.length = names.length) ∧
      (∀ f, ofRows names rows = .ok f ↔
        (∀ row ∈ rows, row.length = names.length) ∧ f.Transposes names rows) ∧
      ∀ e, ofRows names rows = .error e ↔ ∃ i row, FirstRagged names.length rows i row ∧
        e = .raggedRow i row.length names.length ∧
        e.message = s!"Schema error: row {i} has {row.length} values, expected {names.length}" := by
  refine ⟨by simp [ofRows_eq_ok_iff], fun f => ofRows_eq_ok_iff_transposes, fun e => ?_⟩
  rw [ofRows_eq_error_iff]
  apply exists_congr
  intro i
  apply exists_congr
  intro row
  apply and_congr_right
  intro _
  exact (and_iff_left_of_imp fun he => he ▸ rfl).symm

end Frame

end WarehouseAdapter
