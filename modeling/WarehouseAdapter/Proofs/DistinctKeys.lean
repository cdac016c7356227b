import Mathlib

/-!
# Look-ups among keys

A look-up gives the value of the first entry with a key. Where no key is repeated it gives the value
of the entry with the key, and the order of the entries does not show.
-/

namespace WarehouseAdapter

variable {α β : Type} [BEq α] [LawfulBEq α] {k key : α} {v : β} {entries entries' : List (α × β)}

theorem isSome_lookup_iff : (entries.lookup k).isSome ↔ k ∈ entries.map Prod.fst := by
  induction entries with
  | nil => simp
  | cons entry entries ih =>
    obtain ⟨head, v⟩ := entry
    rw [List.lookup_cons, List.map_cons, List.mem_cons]
    by_cases hk : k = head
    · simp [hk]
    · rw [beq_eq_false_iff_ne.2 hk, or_iff_right hk]
      exact ih

theorem lookup_eq_none_iff_notMem : entries.lookup k = none ↔ k ∉ entries.map Prod.fst := by
  rw [← isSome_lookup_iff, Bool.not_eq_true, Option.isSome_eq_false_iff, Option.isNone_iff_eq_none]

theorem mem_of_lookup (h : entries.lookup k = some v) : (k, v) ∈ entries := by
  obtain ⟨before, behind, rfl, -⟩ := List.lookup_eq_some_iff.1 h
  simp

theorem lookup_eq_some_iff_mem (hnodup : (entries.map Prod.fst).Nodup) :
    entries.lookup k = some v ↔ (k, v) ∈ entries := by
  refine ⟨mem_of_lookup, fun hmem => ?_⟩
  have hkey : k ∈ entries.map Prod.fst := List.mem_map_of_mem (f := Prod.fst) hmem
  obtain ⟨w, hw⟩ := Option.isSome_iff_exists.1 (isSome_lookup_iff.2 hkey)
  have hsame := List.inj_on_of_nodup_map hnodup (mem_of_lookup hw) hmem rfl
  cases hsame
  exact hw

/-- Where no key is repeated, a search by key finds the one element with the key. -/
theorem find?_key_eq_some_iff {key : β → α} {b : β} {bs : List β} (hnodup : (bs.map key).Nodup) :
    bs.find? (key · == k) = some b ↔ b ∈ bs ∧ key b = k := by
  constructor
  · intro h
    exact ⟨List.mem_of_find?_eq_some h, by simpa using List.find?_some h⟩
  · rintro ⟨hb, rfl⟩
    cases hfind : bs.find? (key · == key b) with
    | none => exact absurd (beq_self_eq_true (key b)) (List.find?_eq_none.1 hfind b hb)
    | some c =>
      have hkey : key c = key b := by simpa using List.find?_some hfind
      rw [List.inj_on_of_nodup_map hnodup (List.mem_of_find?_eq_some hfind) hb hkey]

theorem lookup_eq_of_perm (hperm : entries.Perm entries')
    (hnodup : (entries.map Prod.fst).Nodup) : entries.lookup k = entries'.lookup k := by
  have hnodup' : (entries'.map Prod.fst).Nodup := (hperm.map Prod.fst).nodup_iff.1 hnodup
  apply Option.ext
  intro v
  rw [lookup_eq_some_iff_mem hnodup, lookup_eq_some_iff_mem hnodup', hperm.mem_iff]

omit [LawfulBEq α] in
/-- With another value in one entry a look-up gives what it gave, or the new value for the old. -/
theorem lookup_append_cons (before behind : List (α × β)) (k key : α) (v w : β) :
    (before ++ (k, w) :: behind).lookup key = (before ++ (k, v) :: behind).lookup key ∨
      (before ++ (k, v) :: behind).lookup key = some v ∧
        (before ++ (k, w) :: behind).lookup key = some w := by
  rw [List.lookup_append, List.lookup_append, List.lookup_cons, List.lookup_cons]
  cases before.lookup key with
  | some u => exact .inl rfl
  | none =>
    cases key == k with
    | true => exact .inr ⟨rfl, rfl⟩
    | false => exact .inl rfl

theorem lookup_filter_ne (h : k ≠ key) :
    (entries.filter fun e => e.1 != key).lookup k = entries.lookup k := by
  induction entries with
  | nil => rfl
  | cons entry entries ih =>
    obtain ⟨head, v⟩ := entry
    by_cases hhead : head = key
    · subst hhead
      rw [List.filter_cons_of_neg (by simp), ih, List.lookup_cons, beq_eq_false_iff_ne.2 h]
    · rw [List.filter_cons_of_pos (by simpa using hhead), List.lookup_cons, List.lookup_cons, ih]

end WarehouseAdapter
