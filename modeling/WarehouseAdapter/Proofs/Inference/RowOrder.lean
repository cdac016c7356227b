import WarehouseAdapter.Proofs.Inference.Columns
import WarehouseAdapter.Proofs.Query.Rows

/-!
# Inference and the order of rows

A strict inference sees the values of a column without their order. The machine type and the kind of
a column are settled by which kinds occur, and the candidate types by which types do: these are
unified to their least upper bound, which is a matter of the set, and only where there is none does
the order show, in the order of the candidates. So rows in another order give the same schema or the
same complaint, up to the order of the candidates of each ambiguous column.
-/

namespace WarehouseAdapter

open DataType (highest)

theorem nodup_eraseDups {α : Type} [DecidableEq α] (xs : List α) : xs.eraseDups.Nodup := by
  cases xs with
  | nil => simp
  | cons x xs =>
    rw [List.eraseDups_cons, List.nodup_cons]
    exact ⟨by simp, nodup_eraseDups _⟩
termination_by xs.length
decreasing_by exact Nat.lt_succ_of_le (List.length_filter_le _ _)

theorem eraseDups_perm {α : Type} [DecidableEq α] {xs ys : List α} (h : xs.Perm ys) :
    xs.eraseDups.Perm ys.eraseDups := by
  rw [List.perm_ext_iff_of_nodup (nodup_eraseDups xs) (nodup_eraseDups ys)]
  intro x
  rw [List.mem_eraseDups, List.mem_eraseDups, h.mem_iff]

variable {values values' items items' : List Value} {types types' : List DataType} {u : DataType}

theorem present_perm (h : values.Perm values') :
    (Value.present values).Perm (Value.present values') := h.filter _

theorem Dtype.ofKinds_perm {kinds kinds' : List ValueKind} (hasNull : Bool)
    (h : kinds.Perm kinds') : ofKinds hasNull kinds = ofKinds hasNull kinds' := by
  simp only [ofKinds, h.isEmpty_eq, h.all_eq]

theorem Dtype.ofValues_perm (h : values.Perm values') : ofValues values = ofValues values' := by
  rw [ofValues, ofValues, h.any_eq]
  exact ofKinds_perm _ ((present_perm h).map _)

namespace SniffKind

theorem ofScalars_of_all {kinds : List ScalarKind} {k : ScalarKind} (hne : kinds ≠ [])
    (h : ∀ j ∈ kinds, j = k) : ofScalars kinds = ofScalar k := by
  cases kinds with
  | nil => exact absurd rfl hne
  | cons j rest =>
    obtain ⟨rfl, hrest⟩ := List.forall_mem_cons.1 h
    have hall : rest.all (· == j) = true := by simpa using hrest
    simp only [ofScalars, hall, if_true]

theorem ofScalars_of_not_all {kinds : List ScalarKind} (hne : kinds ≠ [])
    (h : ¬ ∃ k, ∀ j ∈ kinds, j = k) : ofScalars kinds =
      if kinds.all fun k => k == .int || k == .float then mixedIntegerFloat
      else if kinds.contains .int then mixedInteger else mixed := by
  cases kinds with
  | nil => exact absurd rfl hne
  | cons k rest =>
    have hall : ¬ rest.all (· == k) = true := by
      intro hall
      refine h ⟨k, List.forall_mem_cons.2 ⟨rfl, fun j hj => ?_⟩⟩
      simpa using List.all_eq_true.1 hall j hj
    rw [ofScalars, if_neg hall]

theorem ofScalars_perm {kinds kinds' : List ScalarKind} (h : kinds.Perm kinds') :
    ofScalars kinds = ofScalars kinds' := by
  by_cases hnil : kinds = []
  · subst hnil
    rw [h.symm.eq_nil]
  have hnil' : kinds' ≠ [] := fun he => hnil (he ▸ h).eq_nil
  by_cases hall : ∃ k, ∀ j ∈ kinds, j = k
  · obtain ⟨k, hk⟩ := hall
    rw [ofScalars_of_all hnil hk, ofScalars_of_all hnil' fun j hj => hk j (h.mem_iff.2 hj)]
  · have hall' : ¬ ∃ k, ∀ j ∈ kinds', j = k := by simpa only [h.mem_iff] using hall
    rw [ofScalars_of_not_all hnil hall, ofScalars_of_not_all hnil' hall', h.all_eq, h.contains_eq]

theorem ofValues_perm (h : values.Perm values') : ofValues values = ofValues values' :=
  ofScalars_perm ((present_perm h).map _)

end SniffKind

/-- Which type a list unifies to is a matter of its members. -/
theorem highest_eq_ok_of_perm (h : types.Perm types') (hwf : ∀ t ∈ types, t.WellFormed)
    (hu : highest types = .ok u) : highest types' = .ok u := by
  have hne : types' ≠ [] := by
    rintro rfl
    cases h.eq_nil
    cases DataType.highest_nil.symm.trans hu
  have hwf' : ∀ t ∈ types', t.WellFormed := fun t ht => hwf t (h.mem_iff.2 ht)
  have hle := DataType.highest_unifies (fun he => hne (he ▸ h).symm.eq_nil) hwf
  rcases hle with ⟨v, hv, -, hle⟩ | ⟨⟨e, he, -⟩, -⟩
  · cases hu.symm.trans hv
    rcases DataType.highest_unifies hne hwf' with ⟨w, hw, -, hle'⟩ | ⟨-, hno⟩
    · have heq : ∀ x, u ≤ x ↔ w ≤ x := by
        intro x
        rw [hle, hle']
        simp only [h.mem_iff]
      rw [hw, le_antisymm ((heq w).2 le_rfl) ((heq u).1 le_rfl)]
    · refine absurd (fun t ht => ?_) (hno u)
      exact (hle u).1 le_rfl t (h.mem_iff.2 ht)
  · cases hu.symm.trans he

theorem inferItems_eq_ok_iff :
    inferItems items = .ok types ↔ List.Forall₂ (fun v t => inferValue v = .ok t) items types := by
  induction items generalizing types with
  | nil => simp [inferItems, eq_comm]
  | cons v items ih =>
    rw [inferItems_cons_eq_ok_iff, List.forall₂_cons_left_iff]
    simp only [ih, exists_and_left]

theorem exists_perm_of_inferItems (h : items.Perm items') (hi : inferItems items = .ok types) :
    ∃ types', inferItems items' = .ok types' ∧ types'.Perm types := by
  obtain ⟨types', hi', hperm⟩ := List.perm_comp_forall₂ h.symm (inferItems_eq_ok_iff.1 hi)
  exact ⟨types', inferItems_eq_ok_iff.2 hi', hperm⟩

theorem strictCandidates_perm (h : values.Perm values') :
    (strictCandidates values).Perm (strictCandidates values') := by
  unfold strictCandidates
  cases hi : inferItems values with
  | error e =>
    cases hi' : inferItems values' with
    | error e' => exact .nil
    | ok types' =>
      obtain ⟨types, hok, -⟩ := exists_perm_of_inferItems h.symm hi'
      cases hi.symm.trans hok
  | ok types =>
    obtain ⟨types', hi', hperm⟩ := exists_perm_of_inferItems h hi
    rw [hi']
    have hwf := inferItems_wellFormed hi
    have hwf' := inferItems_wellFormed hi'
    dsimp only
    -- both lists unify, or neither does
    cases hu : highest types with
    | ok u =>
      rw [highest_eq_ok_of_perm hperm.symm hwf hu]
    | error e =>
      cases hu' : highest types' with
      | ok u => cases hu.symm.trans (highest_eq_ok_of_perm hperm hwf' hu')
      | error e' => exact eraseDups_perm hperm.symm

theorem inferColumn_perm {name : String} {aggressiveNull : Bool} (h : values.Perm values') :
    (inferColumn (.ofValues name values) true aggressiveNull).Perm
      (inferColumn (.ofValues name values') true aggressiveNull) := by
  have hpresent := present_perm h
  simp only [inferColumn, Column.ofValues, Dtype.ofValues_perm h, SniffKind.ofValues_perm hpresent,
    hpresent.isEmpty_eq, if_true]
  split
  · rfl
  · split
    · rfl
    · split
      · rfl
      · exact strictCandidates_perm hpresent

/-- The same unresolved columns, and the same ambiguous ones with the same candidates in some
order. -/
structure InferenceReport.Agrees (r r' : InferenceReport) : Prop where
  unresolved : r.unresolved = r'.unresolved
  ambiguous : List.Forall₂ (fun a b => a.1 = b.1 ∧ a.2.Perm b.2) r.ambiguous r'.ambiguous

theorem InferenceReport.Agrees.isEmpty_eq {r r' : InferenceReport} (h : r.Agrees r') :
    r.isEmpty = r'.isEmpty := by
  have hambiguous : r.ambiguous = [] ↔ r'.ambiguous = [] := by
    rw [← List.length_eq_zero_iff, ← List.length_eq_zero_iff, h.ambiguous.length_eq]
  rw [isEmpty, isEmpty, h.unresolved, Bool.eq_iff_iff]
  simp [hambiguous]

namespace Inferred

structure Agrees (r r' : Inferred) : Prop where
  columns : r.columns = r'.columns
  report : r.report.Agrees r'.report

variable {o : InferOptions} {r r' : Inferred} {c c' : Column}

/-- Columns of one name with the same candidates in some order. -/
def SameCandidates (o : InferOptions) (c c' : Column) : Prop :=
  c.name = c'.name ∧
    (inferColumn c o.strict o.aggressiveNull).Perm (inferColumn c' o.strict o.aggressiveNull)

theorem agrees_add (h : r.Agrees r') (hc : SameCandidates o c c') :
    (add o r c).Agrees (add o r' c') := by
  obtain ⟨hname, hperm⟩ := hc
  obtain ⟨hcolumns, hunresolved, hambiguous⟩ := h
  unfold add
  rw [hname, hcolumns, hunresolved]
  cases o.overrides.lookup c'.name with
  | some t => exact ⟨rfl, hunresolved, hambiguous⟩
  | none =>
    dsimp only
    match hcandidates : inferColumn c o.strict o.aggressiveNull with
    | [] =>
      rw [hcandidates] at hperm
      rw [hperm.symm.eq_nil]
      exact ⟨rfl, rfl, hambiguous⟩
    | [t] =>
      rw [hcandidates] at hperm
      rw [List.perm_singleton.1 hperm.symm]
      exact ⟨rfl, hunresolved, hambiguous⟩
    | t :: s :: rest =>
      rw [hcandidates] at hperm
      match hcandidates' : inferColumn c' o.strict o.aggressiveNull with
      | [] => exact absurd (hcandidates' ▸ hperm).length_eq (by simp)
      | [t'] => exact absurd (hcandidates' ▸ hperm).length_eq (by simp)
      | t' :: s' :: rest' =>
        refine ⟨rfl, hunresolved, ?_⟩
        exact List.rel_append hambiguous (.cons ⟨rfl, hcandidates' ▸ hperm⟩ .nil)

theorem agrees_foldl_add {columns columns' : List Column} (h : r.Agrees r')
    (hcolumns : List.Forall₂ (SameCandidates o) columns columns') :
    (columns.foldl (add o) r).Agrees (columns'.foldl (add o) r') := by
  induction hcolumns generalizing r r' with
  | nil => exact h
  | cons hc _ ih => exact ih (agrees_add h hc)

end Inferred

/-- The same schema, the same complaint about repeated names, or reports that agree. -/
inductive SameOutcome : Except SchemaError Schema → Except SchemaError Schema → Prop
  | schema (s : Schema) : SameOutcome (.ok s) (.ok s)
  | repeatedNames (names : List String) :
      SameOutcome (.error (.repeatedNames names)) (.error (.repeatedNames names))
  | undetermined {r r' : InferenceReport} (h : r.Agrees r') :
      SameOutcome (.error (.undetermined r)) (.error (.undetermined r'))

theorem inferSchema_sameOutcome {o : InferOptions} {f g : Frame}
    (h : List.Forall₂ (Inferred.SameCandidates o) f.columns g.columns) :
    SameOutcome (inferSchema f o) (inferSchema g o) := by
  have hstart : Inferred.Agrees {} {} := ⟨rfl, rfl, .nil⟩
  have hagrees : (inferFrame o f.columns).Agrees (inferFrame o g.columns) :=
    Inferred.agrees_foldl_add hstart h
  simp only [inferSchema, hagrees.report.isEmpty_eq]
  split
  · rw [hagrees.columns]
    by_cases hdistinct : ((inferFrame o g.columns).columns.map Prod.fst).Nodup
    · rw [Schema.ofColumns_of_nodup hdistinct]
      exact .schema _
    · rw [Schema.ofColumns_of_not_nodup hdistinct]
      exact .repeatedNames _
  · exact .undetermined hagrees.report

variable {names : List String} {rows rows' : List (List Value)}

theorem transposed_sameCandidates {o : InferOptions} (ho : o.strict = true)
    (h : rows.Perm rows') :
    List.Forall₂ (Inferred.SameCandidates o) (Frame.transposed names rows)
      (Frame.transposed names rows') := by
  induction names generalizing rows rows' with
  | nil => exact .nil
  | cons name names ih =>
    refine .cons ⟨rfl, ?_⟩ (ih (h.map _))
    rw [ho]
    exact inferColumn_perm (h.filterMap _)

/-- Rows in another order make a frame of which a strict inference says the same. -/
theorem inferSchema_rows_perm {o : InferOptions} (ho : o.strict = true)
    (hwidth : ∀ row ∈ rows, row.length = names.length) (h : rows.Perm rows') :
    ∃ f g, Frame.ofRows names rows = .ok f ∧ Frame.ofRows names rows' = .ok g ∧
      SameOutcome (inferSchema f o) (inferSchema g o) := by
  have hwidth' : ∀ row ∈ rows', row.length = names.length :=
    fun row hrow => hwidth row (h.mem_iff.2 hrow)
  refine ⟨_, _, Frame.ofRows_eq_ok_iff.2 ⟨hwidth, rfl⟩, Frame.ofRows_eq_ok_iff.2 ⟨hwidth', rfl⟩, ?_⟩
  exact inferSchema_sameOutcome (transposed_sameCandidates ho h)

theorem inferSchema_rows_perm_ambiguous :
    ∃ f g, Frame.ofRows ["c"] [[.int 1], [.null], [.str "x"]] = .ok f ∧
      Frame.ofRows ["c"] [[.str "x"], [.int 1], [.null]] = .ok g ∧
      SameOutcome (inferSchema f {}) (inferSchema g {}) := by
  have hperm : [[Value.int 1], [.null], [.str "x"]].Perm [[.str "x"], [.int 1], [.null]] :=
    List.perm_append_singleton [Value.str "x"] [[.int 1], [.null]]
  exact inferSchema_rows_perm rfl (by simp) hperm

end WarehouseAdapter
