import WarehouseAdapter.Proofs.Parameter.Admission

/-!
# Records with repeated keys as parameters

Binding a struct looks up the first pair under each declared name and asks nothing of the others
but a declared key. So the keys of a bound record are the declared names in some order exactly when
none of them is repeated, and a pair that stands behind another one of its key is ignored: any value
at all may stand in it. This holds at every struct level that binding comes to.
-/

namespace WarehouseAdapter

variable {name key : String} {t s : DataType} {v w : Value} {b : BoundParameter}
  {fields : List (String × DataType)} {pairs : List (String × Value)} {j : ℕ}
  {pair : String × Value}

/-- The record with another value in one of its pairs. -/
def replaceValue (pairs : List (String × Value)) (j : ℕ) (w : Value) : List (String × Value) :=
  pairs.modify j fun p => (p.1, w)

/-- Whichever value stands in the pair, the outcome of binding is the same. -/
def IsIgnored (name : String) (fields : List (String × DataType)) (pairs : List (String × Value))
    (j : ℕ) : Prop :=
  ∀ w, bindParameter name (.struct fields) (.record (replaceValue pairs j w)) =
    bindParameter name (.struct fields) (.record pairs)

theorem replaceValue_keys (pairs : List (String × Value)) (j : ℕ) (w : Value) :
    (replaceValue pairs j w).map Prod.fst = pairs.map Prod.fst := by
  induction pairs generalizing j with
  | nil => cases j <;> rfl
  | cons p pairs ih =>
    cases j with
    | zero => rfl
    | succ j => exact congrArg (p.1 :: ·) (ih j)

/-- A look-up sees only the first pair of its key. -/
theorem lookup_replaceValue_of_earlier
    (h : ∀ p, pairs[j]? = some p → p.1 = key → key ∈ (pairs.take j).map Prod.fst) :
    (replaceValue pairs j w).lookup key = pairs.lookup key := by
  induction pairs generalizing j with
  | nil => cases j <;> rfl
  | cons p pairs ih =>
    obtain ⟨k, v⟩ := p
    cases j with
    | zero =>
      have hk : key ≠ k := by
        rintro rfl
        simpa using h (key, v) rfl rfl
      have hbeq : (key == k) = false := by simpa using hk
      change List.lookup key ((k, w) :: pairs) = List.lookup key ((k, v) :: pairs)
      rw [List.lookup_cons, List.lookup_cons, hbeq]
    | succ j =>
      change List.lookup key ((k, v) :: replaceValue pairs j w) = _
      by_cases hk : key = k
      · subst hk
        rw [List.lookup_cons_self, List.lookup_cons_self]
      · have hbeq : (key == k) = false := by simpa using hk
        have hrest : (replaceValue pairs j w).lookup key = pairs.lookup key := by
          refine ih fun p hp hkey => ?_
          have hmem := h p hp hkey
          rw [List.take_succ_cons, List.map_cons, List.mem_cons] at hmem
          exact hmem.resolve_left hk
        rw [List.lookup_cons, List.lookup_cons, hbeq]
        exact hrest

theorem lookup_replaceValue_self (hpair : pairs[j]? = some pair)
    (h : pair.1 ∉ (pairs.take j).map Prod.fst) :
    (replaceValue pairs j w).lookup pair.1 = some w := by
  induction pairs generalizing j with
  | nil => simp at hpair
  | cons p pairs ih =>
    cases j with
    | zero =>
      cases hpair
      exact List.lookup_cons_self
    | succ j =>
      rw [List.take_succ_cons, List.map_cons, List.mem_cons, not_or] at h
      have hbeq : (pair.1 == p.1) = false := by simpa using h.1
      change List.lookup pair.1 (p :: replaceValue pairs j w) = some w
      rw [List.lookup_cons, hbeq]
      exact ih hpair h.2

theorem unexpected?_congr {pairs' : List (String × Value)}
    (h : pairs'.map Prod.fst = pairs.map Prod.fst) :
    unexpected? fields pairs' = unexpected? fields pairs := by
  have hkeys : ∀ pairs : List (String × Value), unexpected? fields pairs =
      (pairs.map Prod.fst).find? fun key => !(fields.map Prod.fst).contains key := by
    intro pairs
    rw [List.find?_map]
    rfl
  rw [hkeys, hkeys, h]

theorem bindFields_congr {pairs' : List (String × Value)} (parameter : String)
    (h : ∀ f ∈ fields, pairs'.lookup f.1 = pairs.lookup f.1) :
    bindFields parameter fields pairs' = bindFields parameter fields pairs := by
  induction fields with
  | nil => rw [bindFields, bindFields]
  | cons f fields ih =>
    obtain ⟨hf, hfields⟩ := List.forall_mem_cons.1 h
    rw [bindFields, bindFields, hf, ih hfields]

/-- In a record that is bound, a pair is ignored exactly when its key stands before it. -/
theorem isIgnored_iff (hadmits : (DataType.struct fields).Admits (.record pairs))
    (hpair : pairs[j]? = some pair) :
    IsIgnored name fields pairs j ↔ pair.1 ∈ (pairs.take j).map Prod.fst := by
  constructor
  · intro hignored
    by_contra hfirst
    -- a null in the first pair of a key does not go unnoticed
    have hnull : (DataType.struct fields).Admits (.record (replaceValue pairs j .null)) := by
      rw [← (bindParameter_succeedsIff name _ _).ok_iff] at hadmits ⊢
      rwa [hignored .null]
    obtain ⟨_, he, hdeclared, -⟩ := DataType.admits_struct_iff.1 hadmits
    cases he
    obtain ⟨f, hf, hname⟩ := List.mem_map.1 (hdeclared pair (List.mem_of_getElem? hpair))
    obtain ⟨_, he, -, hfields⟩ := DataType.admits_struct_iff.1 hnull
    cases he
    obtain ⟨w, hw, hwadmits⟩ := hfields f hf
    rw [hname, lookup_replaceValue_self hpair hfirst] at hw
    cases hw
    exact hwadmits.ne_null rfl
  · intro hearlier w
    have hlookup : ∀ f ∈ fields, (replaceValue pairs j w).lookup f.1 = pairs.lookup f.1 := by
      intro f _
      refine lookup_replaceValue_of_earlier fun p hp hkey => ?_
      cases hpair.symm.trans hp
      rwa [← hkey]
    rw [bindParameter, bindParameter, unexpected?_congr (replaceValue_keys pairs j w),
      bindFields_congr name hlookup]

theorem keys_perm_iff_nodup (hnodup : (fields.map Prod.fst).Nodup)
    (hadmits : (DataType.struct fields).Admits (.record pairs)) :
    (pairs.map Prod.fst).Perm (fields.map Prod.fst) ↔ (pairs.map Prod.fst).Nodup := by
  constructor
  · intro hperm
    exact hperm.nodup_iff.2 hnodup
  · intro hkeys
    obtain ⟨_, he, hdeclared, hfields⟩ := DataType.admits_struct_iff.1 hadmits
    cases he
    refine (List.perm_ext_iff_of_nodup hkeys hnodup).2 fun key => ⟨?_, ?_⟩
    · intro hkey
      obtain ⟨p, hp, rfl⟩ := List.mem_map.1 hkey
      exact hdeclared p hp
    · intro hkey
      obtain ⟨f, hf, rfl⟩ := List.mem_map.1 hkey
      obtain ⟨w, hw, -⟩ := hfields f hf
      obtain ⟨l₁, l₂, rfl, -⟩ := List.lookup_eq_some_iff.1 hw
      simp

theorem DataType.Reaches.wellFormed (hr : t.Reaches v s w) (h : t.WellFormed) : s.WellFormed := by
  induction hr with
  | self => exact h
  | item => exact h
  | field hs _ _ ih => exact ih (DataType.wellFormedFields_iff.1 h.2.2 _ hs)

/-- At every struct level of a value that is bound, the keys of the record are the declared names in
some order unless one of them is repeated; the ignored pairs are those behind a pair of their key. -/
theorem keys_of_bindParameter (ht : t.WellFormed) (hb : bindParameter name t v = .ok b)
    (hr : t.Reaches v (.struct fields) (.record pairs)) :
    ((pairs.map Prod.fst).Perm (fields.map Prod.fst) ↔ (pairs.map Prod.fst).Nodup) ∧
      ∀ parameter j pair, pairs[j]? = some pair →
        (IsIgnored parameter fields pairs j ↔ pair.1 ∈ (pairs.take j).map Prod.fst) := by
  have hadmits := ((bindParameter_succeedsIff name t v).ok_iff.1 ⟨b, hb⟩).of_reaches hr
  exact ⟨keys_perm_iff_nodup (hr.wellFormed ht).2.1 hadmits,
    fun _ _ _ hpair => isIgnored_iff hadmits hpair⟩

theorem keys_of_bindParameter_inner :
    bindParameter "p" (.struct [("s", .struct [("a", .int64)])])
        (.record [("s", .record [("a", .int 1), ("a", .int 2)])]) =
          .ok (.struct "p" [.struct "s" [.scalar "a" .int64 (.int64 1)]]) ∧
      IsIgnored "s" [("a", .int64)] [("a", .int 1), ("a", .int 2)] 1 := by
  have hb : bindParameter "p" (.struct [("s", .struct [("a", .int64)])])
      (.record [("s", .record [("a", .int 1), ("a", .int 2)])]) =
        .ok (.struct "p" [.struct "s" [.scalar "a" .int64 (.int64 1)]]) := by rfl
  have ht : (DataType.struct [("s", .struct [("a", .int64)])]).WellFormed := by
    simp [DataType.WellFormed, DataType.WellFormedFields]
  obtain ⟨-, hignored⟩ := keys_of_bindParameter ht hb
    (.field (List.mem_singleton.2 rfl) rfl (.self _ _))
  exact ⟨hb, (hignored "s" 1 _ rfl).2 (by simp)⟩

theorem not_keys_of_bindParameter :
    ¬ ∀ (name : String) (t : DataType) (v : Value) (b : BoundParameter), t.WellFormed →
      bindParameter name t v = .ok b →
      ∀ fields pairs, t.Reaches v (.struct fields) (.record pairs) →
        (pairs.map Prod.fst).Perm (fields.map Prod.fst) := by
  intro hall
  have hb : bindParameter "p" (.struct [("a", .int64)]) (.record [("a", .int 1), ("a", .int 2)]) =
      .ok (.struct "p" [.scalar "a" .int64 (.int64 1)]) := by rfl
  have hperm := hall "p" _ _ _ (by simp [DataType.WellFormed, DataType.WellFormedFields]) hb
    _ _ (.self _ _)
  simpa using hperm.length_eq

end WarehouseAdapter
