import WarehouseAdapter.Proofs.DistinctKeys
import WarehouseAdapter.Proofs.Except
import WarehouseAdapter.Proofs.Schema.Derivations

/-!
# Derivations undone

A renaming is undone by the renaming back: no column may come under the name of another one that
keeps its name, so each new name leads back to one column. What was appended can be taken out again,
and either part of the result can be picked. To delete columns is to keep the others.
-/

namespace WarehouseAdapter.Schema

variable {s t u : Schema} {d : Derivation} {name source target : String} {names : List String}
  {c : String × DataType} {mapping : List (String × String)}

/-- Since the names in a schema differ, a derivation is carried out if what it asks for exists and
a schema of the resulting columns does. -/
theorem apply_eq_ok_iff_known (hcounts : d.CountsMatch) :
    d.apply s = .ok t ↔ d.Known s.columns ∧ t.columns = d.onColumns s.columns := by
  rw [Derivation.apply_eq_ok_iff]
  constructor
  · rintro ⟨⟨-, hknown, -⟩, hcolumns⟩
    exact ⟨hknown, hcolumns⟩
  · rintro ⟨hknown, hcolumns⟩
    refine ⟨⟨hcounts, hknown, ?_⟩, hcolumns⟩
    rw [Derivation.Unrepeated, ← hcolumns]
    exact t.nodup_columns

theorem append_eq_ok_iff : s.append t = .ok u ↔ u.columns = s.columns ++ t.columns := by
  have happly : s.append t = .ok u ↔ _ := apply_eq_ok_iff_known (d := .append t) trivial
  rw [happly, and_iff_right]
  · rfl
  · exact List.forall_mem_nil _

theorem delete_eq_ok_iff : s.delete names = .ok t ↔
    (∀ n ∈ names, n ∈ s.names) ∧ t.columns = s.columns.filter fun c => c.1 ∉ names := by
  rw [← map_fst_columns s]
  exact apply_eq_ok_iff_known (d := .delete names) trivial

theorem rename_eq_ok_iff : s.rename mapping = .ok t ↔
    (∀ r ∈ mapping, r.1 ∈ s.names) ∧
      t.columns = s.columns.map fun c => (renamed mapping c.1, c.2) := by
  have happly : s.rename mapping = .ok t ↔ _ :=
    apply_eq_ok_iff_known (d := .rename mapping) trivial
  simp only [renamed_eq]
  rw [happly, Derivation.Known, Derivation.mentioned, List.forall_mem_map, map_fst_columns]
  rfl

theorem column_eq_ok_iff : s.column name = .ok c ↔ c ∈ s.columns ∧ c.1 = name := by
  rw [column_eq, ← find?_key_eq_some_iff s.nodup_columns]
  cases s.columns.find? (·.1 == name) <;> simp

/-- A projection has the names asked for, and its columns are columns of the schema. -/
theorem project_eq_ok_iff : s.project names = .ok t ↔ t.names = names ∧ t.columns ⊆ s.columns := by
  have hcolumns : s.project names = .ok t ↔ names.mapM s.column = .ok t.columns := by
    rw [project, bind_eq_ok_iff]
    simp only [ofColumns_eq_ok_iff]
    constructor
    · rintro ⟨columns, hcolumns, -, rfl⟩
      exact hcolumns
    · intro h
      exact ⟨t.columns, h, t.nodup_columns, rfl⟩
  rw [hcolumns, mapM_eq_ok_iff]
  simp only [column_eq_ok_iff]
  constructor
  · intro h
    refine ⟨?_, forall_mem_of_forall₂ h fun _ _ hc => hc.1⟩
    rw [← map_fst_columns, ← List.forall₂_eq_eq_eq, List.forall₂_map_left_iff]
    exact h.flip.imp fun _ _ hc => hc.2
  · rintro ⟨rfl, hsub⟩
    rw [← map_fst_columns, List.forall₂_map_left_iff, List.forall₂_same]
    exact fun c hc => ⟨hsub hc, rfl⟩

theorem append_undone (h : s.append t = .ok u) :
    u.delete t.names = .ok s ∧ u.project s.names = .ok s ∧ u.project t.names = .ok t := by
  rw [append_eq_ok_iff] at h
  have hnames : u.names = s.names ++ t.names := by
    rw [← map_fst_columns, h, List.map_append, map_fst_columns, map_fst_columns]
  have hnodup : (s.names ++ t.names).Nodup := hnames ▸ u.distinct
  have hapart : ∀ n ∈ s.names, n ∉ t.names := List.disjoint_of_nodup_append hnodup
  refine ⟨delete_eq_ok_iff.2 ⟨?_, ?_⟩, project_eq_ok_iff.2 ⟨rfl, ?_⟩,
    project_eq_ok_iff.2 ⟨rfl, ?_⟩⟩
  · intro n hn
    rw [hnames]
    exact List.mem_append_right _ hn
  · have hkept : ∀ c ∈ s.columns, decide (c.1 ∉ t.names) = true :=
      fun c hc => decide_eq_true (hapart c.1 (mem_names_of_mem_columns hc))
    have hremoved : ∀ c ∈ t.columns, ¬ decide (c.1 ∉ t.names) = true :=
      fun c hc h => of_decide_eq_true h (mem_names_of_mem_columns hc)
    rw [h, List.filter_append, List.filter_eq_self.2 hkept, List.filter_eq_nil_iff.2 hremoved,
      List.append_nil]
  · rw [h]
    exact List.subset_append_left _ _
  · rw [h]
    exact List.subset_append_right _ _

/-- Whichever existing columns are deleted, the others are left in their order. -/
theorem delete_eq_project (h : ∀ n ∈ names, n ∈ s.names) :
    ∃ t, s.delete names = .ok t ∧ s.project (s.names.filter (· ∉ names)) = .ok t := by
  let kept := s.columns.filter fun c => c.1 ∉ names
  have hsublist : kept.Sublist s.columns := List.filter_sublist
  have hnodup : (kept.map Prod.fst).Nodup := s.nodup_columns.sublist (hsublist.map Prod.fst)
  have hkept : (ofDistinct kept hnodup).columns = kept := columns_ofDistinct hnodup
  refine ⟨ofDistinct kept hnodup, delete_eq_ok_iff.2 ⟨h, hkept⟩, project_eq_ok_iff.2 ⟨?_, ?_⟩⟩
  · rw [← map_fst_columns, hkept, ← map_fst_columns s, List.filter_map]
    rfl
  · rw [hkept]
    exact hsublist.subset

theorem renamed_of_mem (hnodup : (mapping.map Prod.fst).Nodup) (h : (source, target) ∈ mapping) :
    renamed mapping source = target := by
  rw [renamed, (lookup_eq_some_iff_mem hnodup).2 h, Option.getD_some]

theorem renamed_of_notMem (h : name ∉ mapping.map Prod.fst) : renamed mapping name = name := by
  rw [renamed, lookup_eq_none_iff_notMem.2 h, Option.getD_none]

/-- New names that differ lead back to the old ones, also where old and new names overlap. -/
theorem renamed_swap_renamed (hnodup : (mapping.map Prod.fst).Nodup)
    (hknown : ∀ r ∈ mapping, r.1 ∈ names) (hnames : (names.map (renamed mapping)).Nodup) :
    ∀ n ∈ names, renamed (mapping.map Prod.swap) (renamed mapping n) = n := by
  have hswap : (mapping.map Prod.swap).map Prod.fst = mapping.map Prod.snd := by
    rw [List.map_map]
    rfl
  have htargets : (mapping.map Prod.snd).Nodup := by
    refine List.Nodup.map_on (fun r hr r' hr' h => ?_) hnodup.of_map
    rw [← renamed_of_mem hnodup hr, ← renamed_of_mem hnodup hr'] at h
    have hsource := List.inj_on_of_nodup_map hnames (hknown r hr) (hknown r' hr') h
    exact List.inj_on_of_nodup_map hnodup hr hr' hsource
  intro n hn
  by_cases hn' : n ∈ mapping.map Prod.fst
  · obtain ⟨r, hr, rfl⟩ := List.mem_map.1 hn'
    rw [renamed_of_mem hnodup hr]
    exact renamed_of_mem (hswap ▸ htargets) (List.mem_map_of_mem hr)
  · rw [renamed_of_notMem hn']
    refine renamed_of_notMem fun htarget => hn' ?_
    rw [hswap] at htarget
    obtain ⟨r, hr, rfl⟩ := List.mem_map.1 htarget
    -- the renamed column and the one that keeps its name would have one name
    have hsame : r.1 = r.2 := by
      refine List.inj_on_of_nodup_map hnames (hknown r hr) hn ?_
      rw [renamed_of_mem hnodup hr, renamed_of_notMem hn']
    exact hsame ▸ List.mem_map_of_mem hr

theorem rename_undone (hnodup : (mapping.map Prod.fst).Nodup) (h : s.rename mapping = .ok t) :
    t.rename (mapping.map Prod.swap) = .ok s := by
  obtain ⟨hknown, hcolumns⟩ := rename_eq_ok_iff.1 h
  have hnames : t.names = s.names.map (renamed mapping) := by
    rw [← map_fst_columns, hcolumns, List.map_map, ← map_fst_columns s, List.map_map]
    rfl
  have hundone := renamed_swap_renamed hnodup hknown (hnames ▸ t.distinct)
  refine rename_eq_ok_iff.2 ⟨?_, ?_⟩
  · rw [List.forall_mem_map]
    intro r hr
    rw [hnames]
    exact List.mem_map.2 ⟨r.1, hknown r hr, renamed_of_mem hnodup hr⟩
  · rw [hcolumns, List.map_map]
    refine (List.map_id s.columns).symm.trans (List.map_congr_left fun c hc => ?_)
    exact Prod.ext (hundone c.1 (mem_names_of_mem_columns hc)).symm rfl

/-- A renaming by distinct old names is undone by the renaming back, and appending by deleting what
was appended; both parts are projections of the whole, and deleting projects to the other names. -/
theorem derivations_undone (s : Schema) :
    (∀ (mapping : List (String × String)) (t : Schema), (mapping.map Prod.fst).Nodup →
        s.rename mapping = .ok t → t.rename (mapping.map Prod.swap) = .ok s) ∧
      (∀ t u : Schema, s.append t = .ok u →
        u.delete t.names = .ok s ∧ u.project s.names = .ok s ∧ u.project t.names = .ok t) ∧
      ∀ names : List String, (∀ n ∈ names, n ∈ s.names) →
        ∃ t, s.delete names = .ok t ∧ s.project (s.names.filter (· ∉ names)) = .ok t :=
  ⟨fun _ _ => rename_undone, fun _ _ => append_undone, fun _ => delete_eq_project⟩

/-- Three names go round and a fourth one becomes new. -/
theorem derivations_undone_cycle :
    let s : Schema := .ofDistinct [("a", .int64), ("b", .string), ("c", .date), ("d", .double),
      ("e", .boolean)] (by decide)
    let t : Schema := .ofDistinct [("b", .int64), ("c", .string), ("a", .date), ("x", .double),
      ("e", .boolean)] (by decide)
    let mapping := [("a", "b"), ("d", "x"), ("c", "a"), ("b", "c")]
    ((mapping.map Prod.fst).Nodup ∧ s.rename mapping = .ok t ∧
        t.rename (mapping.map Prod.swap) = .ok s) ∧
      (∃ u, s.append (.ofDistinct [("x", .time)] (by decide)) = .ok u ∧ u.delete ["x"] = .ok s) ∧
      (∀ n ∈ ["b", "e", "b"], n ∈ s.names) ∧
        ∃ t, s.delete ["b", "e", "b"] = .ok t ∧ s.project ["a", "c", "d"] = .ok t := by
  intro s t mapping
  obtain ⟨hrename, happend, hdelete⟩ := derivations_undone s
  have hnodup : (mapping.map Prod.fst).Nodup := by decide
  have ht : s.rename mapping = .ok t := by decide
  have hknown : ∀ n ∈ ["b", "e", "b"], n ∈ s.names := by decide
  refine ⟨⟨hnodup, ht, hrename mapping t hnodup ht⟩, ?_, hknown, hdelete _ hknown⟩
  exact ⟨_, rfl, (happend (.ofDistinct [("x", .time)] (by decide)) _ rfl).1⟩

end WarehouseAdapter.Schema
