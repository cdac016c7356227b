import Mathlib
import WarehouseAdapter.Schema

/-!
# The index of a schema

A schema is determined by its columns, the names side by side with the types. The index holds every
name once, with the place at which it stands among the names. So what is looked up through the index
is what a search from the left through the columns finds.
-/

namespace WarehouseAdapter

namespace Schema

variable {s t : Schema} {name : String} {i : Nat} {cs : List (String × DataType)}

@[simp] theorem map_fst_columns (s : Schema) : s.columns.map Prod.fst = s.names :=
  List.map_fst_zip s.aligned.le

@[simp] theorem map_snd_columns (s : Schema) : s.columns.map Prod.snd = s.types :=
  List.map_snd_zip s.aligned.ge

@[simp] theorem length_columns (s : Schema) : s.columns.length = s.names.length := by
  rw [← map_fst_columns, List.length_map]

theorem nodup_columns (s : Schema) : (s.columns.map Prod.fst).Nodup := by
  rw [map_fst_columns]
  exact s.distinct

theorem mem_names_of_mem_columns {c : String × DataType} (h : c ∈ s.columns) : c.1 ∈ s.names := by
  rw [← map_fst_columns]
  exact List.mem_map_of_mem h

/-- The columns determine a schema: its index is that of the names. -/
theorem eq_of_columns_eq (h : s.columns = t.columns) : s = t := by
  have hnames : s.names = t.names := by rw [← map_fst_columns, h, map_fst_columns]
  have htypes : s.types = t.types := by rw [← map_snd_columns, h, map_snd_columns]
  have hplaces : s.places = t.places := by rw [s.places_eq, t.places_eq, hnames]
  cases s
  cases t
  simp_all

/-- The schema of some columns whose names differ. -/
def ofDistinct (columns : List (String × DataType)) (h : (columns.map Prod.fst).Nodup) : Schema :=
  ⟨columns.map Prod.fst, columns.map Prod.snd, (columns.map Prod.fst).zipIdx.reverse,
    by rw [List.length_map, List.length_map], h, rfl⟩

@[simp] theorem columns_ofDistinct (h : (cs.map Prod.fst).Nodup) :
    (ofDistinct cs h).columns = cs := (List.zip_of_prod rfl rfl).symm

theorem mem_places_iff : (name, i) ∈ s.places ↔ s.names[i]? = some name := by
  rw [s.places_eq, List.mem_reverse, List.mk_mem_zipIdx_iff_getElem?]

theorem nodup_map_fst_places : (s.places.map Prod.fst).Nodup := by
  rw [s.places_eq, List.map_reverse, List.zipIdx_map_fst, List.nodup_reverse]
  exact s.distinct

theorem mem_places_of_indexOf? (h : s.indexOf? name = some i) : (name, i) ∈ s.places := by
  obtain ⟨before, after, hplaces, -⟩ := List.lookup_eq_some_iff.1 h
  simp [hplaces]

theorem indexOf?_eq_some_iff : s.indexOf? name = some i ↔ s.names[i]? = some name := by
  rw [← mem_places_iff]
  refine ⟨mem_places_of_indexOf?, fun hi => ?_⟩
  have hsome : (s.indexOf? name).isSome := by
    rw [indexOf?, List.lookup_isSome_iff]
    exact ⟨(name, i), hi, beq_self_eq_true name⟩
  obtain ⟨j, hj⟩ := Option.isSome_iff_exists.1 hsome
  -- the index holds the name once, so the entry found is this one
  have hsame : (name, j) = (name, i) :=
    List.inj_on_of_nodup_map nodup_map_fst_places (mem_places_of_indexOf? hj) hi rfl
  rw [hj, (Prod.mk.inj hsame).2]

theorem findIdx?_eq_some_iff :
    s.columns.findIdx? (·.1 == name) = some i ↔ s.names[i]? = some name := by
  rw [List.findIdx?_eq_some_iff_getElem, List.getElem?_eq_some_iff]
  constructor
  · rintro ⟨hi, hname, -⟩
    exact ⟨by simpa using hi, by simpa [columns] using hname⟩
  · rintro ⟨hi, hname⟩
    refine ⟨by simpa using hi, by simpa [columns] using hname, fun j hj hearlier => ?_⟩
    have hsame : s.names[j] = s.names[i] := by
      rw [hname]
      simpa [columns] using hearlier
    exact hj.ne ((List.Nodup.getElem_inj_iff s.distinct).1 hsame)

theorem indexOf?_eq_findIdx? : s.indexOf? name = s.columns.findIdx? (·.1 == name) :=
  Option.ext fun _ => indexOf?_eq_some_iff.trans findIdx?_eq_some_iff.symm

theorem contains_eq_any : s.contains name = s.columns.any (·.1 == name) := by
  rw [contains, indexOf?_eq_findIdx?, List.findIdx?_isSome]

theorem contains_iff : s.contains name ↔ name ∈ s.columns.map Prod.fst := by
  rw [contains_eq_any, List.any_eq_true, List.mem_map]
  simp

theorem get?_eq_find? :
    s.get? name = (s.columns.find? (·.1 == name)).map Prod.snd := by
  rw [get?, indexOf?_eq_findIdx?, List.find?_eq_bind_findIdx?_getElem?, Option.map_bind]
  congr 1
  funext i
  rw [Function.comp_apply, ← List.getElem?_map, map_snd_columns]

theorem lt_length_types_of_indexOf? (h : s.indexOf? name = some i) : i < s.types.length := by
  rw [← s.aligned]
  exact (List.getElem?_eq_some_iff.1 (indexOf?_eq_some_iff.1 h)).1

theorem nameAt_eq_ok_iff : s.nameAt i = .ok name ↔ s.names[i]? = some name := by
  rw [nameAt]
  by_cases hempty : s.isEmpty
  · have hnone : s.names = [] := List.isEmpty_iff.1 hempty
    simp [hempty, hnone]
  · cases h : s.names[i]? with
    | none => simp [hempty]
    | some n => simp [hempty]

/-- What the parts of a schema have to do with one another. -/
structure Indexed (s : Schema) : Prop where
  aligned : s.names.length = s.types.length
  distinct : s.names.Nodup
  places : ∀ name i, (name, i) ∈ s.places ↔ s.names[i]? = some name
  indexedOnce : (s.places.map Prod.fst).Nodup
  indexOf? : ∀ name, s.indexOf? name = s.columns.findIdx? (·.1 == name)
  contains : ∀ name, s.contains name = s.columns.any (·.1 == name)
  get? : ∀ name, s.get? name = (s.columns.find? (·.1 == name)).map Prod.snd
  inBounds : ∀ name i, s.indexOf? name = some i → i < s.types.length
  nameAt : ∀ name i, s.nameAt i = .ok name ↔ s.indexOf? name = some i
  named : ∀ i, (∃ name, s.nameAt i = .ok name) ↔ i < s.length

theorem indexed (s : Schema) : s.Indexed where
  aligned := s.aligned
  distinct := s.distinct
  places _ _ := mem_places_iff
  indexedOnce := nodup_map_fst_places
  indexOf? _ := indexOf?_eq_findIdx?
  contains _ := contains_eq_any
  get? _ := get?_eq_find?
  inBounds _ _ := lt_length_types_of_indexOf?
  nameAt _ _ := nameAt_eq_ok_iff.trans indexOf?_eq_some_iff.symm
  named i := by
    rw [exists_congr fun _ => nameAt_eq_ok_iff, length]
    simp [List.getElem?_eq_some_iff]

end Schema

end WarehouseAdapter
