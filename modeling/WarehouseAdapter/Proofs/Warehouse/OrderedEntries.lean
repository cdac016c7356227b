import WarehouseAdapter.Proofs.ByteOrder
import WarehouseAdapter.Proofs.DistinctKeys
import WarehouseAdapter.Warehouse.Memory

/-!
# Entries in the order of their keys

An insertion into a list in key order changes the value under its key and under no other one, and
keeps the order. Datasets are in order by project and dataset, so the datasets of one project stand
in the order of their names.
-/

namespace WarehouseAdapter

/-- Entries with distinct keys, in the order of the keys. -/
def InKeyOrder {α β : Type} (order : α → α → Ordering) (entries : List (α × β)) : Prop :=
  (entries.map Prod.fst).Pairwise fun a b => order a b = .lt

section Entries

variable {α β : Type} [BEq α] [LawfulBEq α] {order : α → α → Ordering} [Std.LawfulEqCmp order]
  {key k : α} {value : β} {entries : List (α × β)}

/-- Only the value under the inserted key changes. -/
theorem lookup_insertOrdered : (insertOrdered order key value entries).lookup k =
    if k == key then some value else entries.lookup k := by
  induction entries with
  | nil =>
    rw [insertOrdered, List.lookup_cons]
    cases k == key <;> rfl
  | cons entry entries ih =>
    obtain ⟨head, v⟩ := entry
    rw [insertOrdered]
    cases horder : order key head with
    | lt =>
      rw [List.lookup_cons]
      cases k == key <;> rfl
    | eq =>
      rw [← Std.LawfulEqCmp.eq_of_compare horder, List.lookup_cons, List.lookup_cons]
      cases k == key <;> rfl
    | gt =>
      rw [List.lookup_cons, List.lookup_cons, ih]
      cases hhead : k == head with
      | false => rfl
      | true =>
        have hne : (k == key) = false := by
          rw [beq_eq_false_iff_ne]
          rintro rfl
          have hself : order head head = .eq := Std.ReflCmp.compare_self
          rw [eq_of_beq hhead, hself] at horder
          cases horder
        rw [hne]
        rfl

theorem mem_keys_insertOrdered : k ∈ (insertOrdered order key value entries).map Prod.fst ↔
    k = key ∨ k ∈ entries.map Prod.fst := by
  rw [← isSome_lookup_iff, ← isSome_lookup_iff, lookup_insertOrdered]
  by_cases hk : k = key <;> simp [hk]

theorem inKeyOrder_insertOrdered [Std.TransCmp order] (h : InKeyOrder order entries) :
    InKeyOrder order (insertOrdered order key value entries) := by
  induction entries with
  | nil => exact List.pairwise_singleton _ _
  | cons entry entries ih =>
    obtain ⟨head, v⟩ := entry
    obtain ⟨hhead, hrest⟩ := List.pairwise_cons.1 h
    rw [insertOrdered]
    cases horder : order key head with
    | lt =>
      refine List.pairwise_cons.2 ⟨fun k hk => ?_, h⟩
      rcases List.mem_cons.1 hk with rfl | hk
      · exact horder
      · exact Std.TransCmp.lt_trans horder (hhead k hk)
    | eq =>
      rw [← Std.LawfulEqCmp.eq_of_compare horder] at h
      exact h
    | gt =>
      refine List.pairwise_cons.2 ⟨fun k hk => ?_, ih hrest⟩
      rcases mem_keys_insertOrdered.1 hk with rfl | hk
      · exact Std.OrientedCmp.gt_iff_lt.1 horder
      · exact hhead k hk

end Entries

namespace DatasetReference

/-- The order by project and then by dataset is a lexicographic one. -/
instance : Std.TransCmp order :=
  inferInstanceAs (Std.TransCmp
    (compareLex (compareOn DatasetReference.project) (compareOn DatasetReference.dataset)))

instance : Std.LawfulEqCmp order where
  eq_of_compare {a b} h := by
    obtain ⟨hproject, hdataset⟩ := Ordering.then_eq_eq.1 h
    obtain ⟨project, dataset⟩ := a
    rw [DatasetReference.mk.injEq]
    exact ⟨Std.LawfulEqCmp.eq_of_compare hproject, Std.LawfulEqCmp.eq_of_compare hdataset⟩

theorem bytes_lt_of_order {d d' : DatasetReference} (h : d.order d' = .lt)
    (hproject : d.project = d'.project) : bytes d.dataset < bytes d'.dataset := by
  rw [order, hproject, Ordering.then_eq_lt, compare_lt_iff_lt] at h
  rcases h with hlt | ⟨-, hdataset⟩
  · exact absurd hlt (lt_irrefl _)
  · exact compare_eq_lt_iff_bytes_lt.1 hdataset

end DatasetReference

end WarehouseAdapter
