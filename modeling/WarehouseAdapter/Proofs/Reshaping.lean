import WarehouseAdapter.Coercion
import WarehouseAdapter.Proofs.Except

/-!
# Reshaping of frames

Taking a column out moves another one into its place. What is preserved is the set of columns that
remain, and with distinct names this is enough: each name of the schema finds its own column.
-/

namespace WarehouseAdapter

/-- What stands before the element taken out stays, and what stands behind it is put in order anew. -/
theorem exists_swapRemove_eq {α : Type} {xs : List α} {i : ℕ} (hi : i < xs.length) :
    ∃ rest, rest.Perm (xs.drop (i + 1)) ∧ swapRemove xs i = xs.take i ++ rest := by
  rcases List.eq_nil_or_concat' xs with rfl | ⟨ys, last, rfl⟩
  · simp at hi
  have hswap : swapRemove (ys ++ [last]) i = ((ys ++ [last]).set i last).dropLast := by
    rw [swapRemove, List.getLast?_concat]
  rw [hswap]
  by_cases hlt : i < ys.length
  · refine ⟨last :: ys.drop (i + 1), ?_, ?_⟩
    · rw [List.drop_append_of_le_length hlt]
      exact (List.perm_append_singleton last _).symm
    · rw [List.set_append_left i last hlt, List.dropLast_concat,
        List.take_append_of_le_length hlt.le, List.set_eq_take_append_cons_drop, if_pos hlt]
  · obtain rfl : i = ys.length := by
      simp at hi
      omega
    exact ⟨[], by simp, by simp⟩

theorem take_append_cons_drop {α : Type} {xs : List α} {i : ℕ} (hi : i < xs.length) :
    xs.take i ++ xs[i] :: xs.drop (i + 1) = xs := by
  rw [← List.drop_eq_getElem_cons hi, List.take_append_drop]

theorem swapRemove_perm {α : Type} {xs : List α} {i : ℕ} (hi : i < xs.length) :
    (xs[i] :: swapRemove xs i).Perm xs := by
  obtain ⟨rest, hrest, hswap⟩ := exists_swapRemove_eq hi
  rw [hswap]
  calc (xs[i] :: (xs.take i ++ rest)).Perm (xs[i] :: (xs.take i ++ xs.drop (i + 1))) :=
        (hrest.append_left _).cons _
    _ |>.Perm (xs.take i ++ xs[i] :: xs.drop (i + 1)) := List.perm_middle.symm
    _ = xs := take_append_cons_drop hi

variable {columns rest : List Column} {c : Column}

/-- A name takes out its own column. -/
theorem takeColumn_of_perm (hperm : columns.Perm (c :: rest))
    (hnodup : (columns.map Column.name).Nodup) :
    ∃ others, takeColumn c.name columns = some (c, others) ∧ others.Perm rest := by
  have hc : c ∈ columns := hperm.mem_iff.2 (by simp)
  have hsome : (columns.findIdx? fun d => d.name == c.name).isSome := by
    rw [List.findIdx?_isSome, List.any_eq_true]
    exact ⟨c, hc, by simp⟩
  obtain ⟨i, hi⟩ := Option.isSome_iff_exists.1 hsome
  obtain ⟨hlt, hname, -⟩ := List.findIdx?_eq_some_iff_getElem.1 hi
  have hfound : columns[i] = c :=
    List.inj_on_of_nodup_map hnodup (List.getElem_mem hlt) hc (by simpa using hname)
  refine ⟨swapRemove columns i, ?_, ?_⟩
  · rw [takeColumn, hi]
    simp [hlt, hfound]
  · have hrest := (swapRemove_perm hlt).trans hperm
    rw [hfound] at hrest
    exact hrest.cons_inv

/-- Where each column of a frame stands in the schema, reshaping fails exactly when the conversion
of a column does. -/
theorem reshape_failsIff {F : SchemaError → Prop} {P : Column × DataType → Prop}
    {typed : List (Column × DataType)} (hperm : columns.Perm (typed.map Prod.fst))
    (hnodup : (columns.map Column.name).Nodup)
    (h : ∀ p ∈ typed, FailsIff F (P p) (coerceColumn p.1.name p.2 p.1)) :
    FailsIff F (∃ p ∈ typed, P p) (reshape (typed.map fun p => (p.1.name, p.2)) columns) := by
  induction typed generalizing columns with
  | nil => exact failsIff_ok (by simp) []
  | cons p typed ih =>
    obtain ⟨hp, htyped⟩ := List.forall_mem_cons.1 h
    obtain ⟨others, htake, hothers⟩ := takeColumn_of_perm hperm hnodup
    have hall : ((p :: typed).map (Column.name ∘ Prod.fst)).Nodup := by
      rwa [← List.map_map, ← (hperm.map Column.name).nodup_iff]
    have hnodup' : (others.map Column.name).Nodup := by
      rw [(hothers.map Column.name).nodup_iff, List.map_map]
      exact hall.of_cons
    simp only [List.map_cons, reshape, htake]
    have hrest : ∀ out, FailsIff F (∃ p ∈ typed, P p)
        (do return out :: (← reshape (typed.map fun p => (p.1.name, p.2)) others)) :=
      fun out => ((ih hothers hnodup' htyped).bind fun cs _ =>
        failsIff_ok not_false (out :: cs)).congr (by simp)
    exact (hp.bind fun out _ => hrest out).congr (by simp)

end WarehouseAdapter
