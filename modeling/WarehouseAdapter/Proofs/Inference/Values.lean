import WarehouseAdapter.Inference.Basic
import WarehouseAdapter.Proofs.DataType.Precedence
import WarehouseAdapter.Proofs.Except

/-!
# Types of single values

When a value has a type, said for lists and records by their parts. The type of a value is well
formed, and the element type of a list is above the types of its items.
-/

namespace WarehouseAdapter

open DataType (highest)

variable {v : Value} {items : List Value} {pairs : List (String × Value)} {t u : DataType}
  {types : List DataType} {fields : List (String × DataType)}

theorem inferItems_cons_eq_ok_iff :
    inferItems (v :: items) = .ok types ↔
      ∃ t rest, inferValue v = .ok t ∧ inferItems items = .ok rest ∧ types = t :: rest := by
  rw [inferItems]
  exact bind_cons_eq_ok_iff (f := id)

theorem inferFields_cons_eq_ok_iff {pair : String × Value} :
    inferFields (pair :: pairs) = .ok fields ↔ ∃ t rest, inferValue pair.2 = .ok t ∧
      inferFields pairs = .ok rest ∧ fields = (pair.1, t) :: rest := by
  rw [inferFields]
  exact bind_cons_eq_ok_iff (f := Prod.mk pair.1)

theorem inferList_eq_ok_iff :
    inferValue (.list items) = .ok t ↔ ∃ types, inferItems items = .ok types ∧
      ((types = [] ∧ t = .array .null) ∨
        ∃ u, types ≠ [] ∧ highest types = .ok u ∧ t = .array u) := by
  rw [inferValue, bind_eq_ok_iff]
  apply exists_congr
  intro types
  apply and_congr_right
  intro _
  cases types with
  | nil => simp [pure, Except.pure, eq_comm]
  | cons s types =>
    change (highest (s :: types) >>= fun u => .ok (.array u)) = .ok t ↔ _
    rw [bind_eq_ok_iff]
    simp [eq_comm]

theorem inferRecord_eq_ok_iff :
    inferValue (.record pairs) = .ok t ↔ ∃ fields, inferFields pairs = .ok fields ∧
      (fields ≠ [] ∧ (fields.map Prod.fst).Nodup) ∧ t = .struct fields := by
  rw [inferValue, bind_eq_ok_iff]
  simp only [DataType.ofFields_eq_ok_iff]

theorem exists_mem_of_inferItems (h : inferItems items = .ok types) :
    (∀ v ∈ items, ∃ t ∈ types, inferValue v = .ok t) ∧
      ∀ t ∈ types, ∃ v ∈ items, inferValue v = .ok t := by
  induction items generalizing types with
  | nil =>
    cases h
    simp
  | cons v items ih =>
    obtain ⟨t, rest, ht, hrest, rfl⟩ := inferItems_cons_eq_ok_iff.1 h
    obtain ⟨hv, hu⟩ := ih hrest
    constructor
    · rw [List.forall_mem_cons]
      refine ⟨⟨t, by simp, ht⟩, fun w hw => ?_⟩
      obtain ⟨u, hu, hwu⟩ := hv w hw
      exact ⟨u, by simp [hu], hwu⟩
    · rw [List.forall_mem_cons]
      refine ⟨⟨v, by simp, ht⟩, fun u hu' => ?_⟩
      obtain ⟨w, hw, hwu⟩ := hu u hu'
      exact ⟨w, by simp [hw], hwu⟩

theorem inferFields_names (h : inferFields pairs = .ok fields) :
    fields.map Prod.fst = pairs.map Prod.fst := by
  induction pairs generalizing fields with
  | nil =>
    cases h
    rfl
  | cons pair pairs ih =>
    obtain ⟨t, rest, -, hrest, rfl⟩ := inferFields_cons_eq_ok_iff.1 h
    rw [List.map_cons, List.map_cons, ih hrest]

theorem wellFormed_of_highest (h : ∀ t ∈ types, t.WellFormed) (hu : highest types = .ok u) :
    u.WellFormed ∧ ∀ t ∈ types, t ≤ u := by
  have hne : types ≠ [] := by
    rintro rfl
    cases DataType.highest_nil.symm.trans hu
  rcases DataType.highest_unifies hne h with ⟨w, hw, hwf, hle⟩ | ⟨⟨e, he, -⟩, -⟩
  · cases hu.symm.trans hw
    exact ⟨hwf, (hle u).1 le_rfl⟩
  · cases hu.symm.trans he

theorem wellFormed_of_inferFields (h : inferFields pairs = .ok fields)
    (hwf : ∀ p ∈ pairs, ∀ t, inferValue p.2 = .ok t → t.WellFormed) :
    ∀ f ∈ fields, f.2.WellFormed := by
  induction pairs generalizing fields with
  | nil =>
    cases h
    simp
  | cons pair pairs ih =>
    obtain ⟨t, rest, ht, hrest, rfl⟩ := inferFields_cons_eq_ok_iff.1 h
    obtain ⟨hpair, hpairs⟩ := List.forall_mem_cons.1 hwf
    exact List.forall_mem_cons.2 ⟨hpair t ht, ih hrest hpairs⟩

theorem inferValue_wellFormed (h : inferValue v = .ok t) : t.WellFormed := by
  induction v generalizing t with
  | null | bool | int | float | str | bytes | date | time | dateTime | timestamp | timedelta =>
    cases h
    trivial
  | list items ih =>
    obtain ⟨types, htypes, ⟨-, rfl⟩ | ⟨u, -, hu, rfl⟩⟩ := inferList_eq_ok_iff.1 h
    · trivial
    · refine (wellFormed_of_highest (fun s hs => ?_) hu).1
      obtain ⟨v, hv, hvs⟩ := (exists_mem_of_inferItems htypes).2 s hs
      exact ih v hv hvs
  | record pairs ih =>
    obtain ⟨fields, hfields, ⟨hne, hnodup⟩, rfl⟩ := inferRecord_eq_ok_iff.1 h
    have hwf := wellFormed_of_inferFields hfields fun p hp t => ih p hp
    exact ⟨hne, hnodup, DataType.wellFormedFields_iff.2 hwf⟩

theorem inferItems_wellFormed (h : inferItems items = .ok types) :
    ∀ t ∈ types, t.WellFormed := by
  intro t ht
  obtain ⟨v, -, hv⟩ := (exists_mem_of_inferItems h).2 t ht
  exact inferValue_wellFormed hv

/-- Where the types of values are unified, each value has a type below the unified one. -/
theorem inferItems_le_highest (h : inferItems items = .ok types) (hu : highest types = .ok u) :
    ∀ v ∈ items, ∃ s, inferValue v = .ok s ∧ s ≤ u := by
  intro v hv
  obtain ⟨s, hs, hvs⟩ := (exists_mem_of_inferItems h).1 v hv
  exact ⟨s, hvs, (wellFormed_of_highest (inferItems_wellFormed h) hu).2 s hs⟩

theorem inferList_le (h : inferValue (.list items) = .ok (.array u)) :
    ∀ v ∈ items, ∃ s, inferValue v = .ok s ∧ s ≤ u := by
  obtain ⟨types, htypes, ⟨rfl, -⟩ | ⟨w, -, hw, he⟩⟩ := inferList_eq_ok_iff.1 h
  · intro v hv
    obtain ⟨s, hs, -⟩ := (exists_mem_of_inferItems htypes).1 v hv
    cases hs
  · cases he
    exact inferItems_le_highest htypes hw

end WarehouseAdapter
