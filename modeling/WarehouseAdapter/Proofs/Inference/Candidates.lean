import WarehouseAdapter.Proofs.Inference.RowOrder

/-!
# Candidates of a column

A strict inference looks at the machine type of a column first, then at the kind of its values, and
at the values themselves only where both leave it open. The short ways come to what the values come
to one by one, with three exceptions: a column without present values is null, whole columns of
dates or of times stay open, and integers among missing values are doubles.
-/

namespace WarehouseAdapter

open DataType (highest)

variable {values : List Value} {v : Value} {t : DataType} {types candidates : List DataType}

/-- The members of a list, each once, in the order in which they come up. -/
structure FirstOccurrences (candidates types : List DataType) : Prop where
  mem_iff : ∀ t, t ∈ candidates ↔ t ∈ types
  ordered : candidates.Pairwise fun s t => types.idxOf s < types.idxOf t

/-- What present values come to one by one: nothing where one of them has no type, else the type
that unifies theirs, or all their types where there is none. -/
inductive OneByOne (values : List Value) : List DataType → Prop
  | untyped {v : Value} {e : SchemaError} (hv : v ∈ values) (he : inferValue v = .error e) :
      OneByOne values []
  | unified {types : List DataType} {t : DataType}
      (htypes : List.Forall₂ (fun v t => inferValue v = .ok t) values types)
      (ht : highest types = .ok t) : OneByOne values [t]
  | conflicting {types candidates : List DataType} {e : SchemaError}
      (htypes : List.Forall₂ (fun v t => inferValue v = .ok t) values types)
      (he : highest types = .error e) (hfirst : FirstOccurrences candidates types)
      (htwo : 2 ≤ candidates.length) : OneByOne values candidates

theorem firstOccurrences_eraseDups (types : List DataType) :
    FirstOccurrences types.eraseDups types where
  mem_iff _ := List.mem_eraseDups
  ordered := by
    induction types using List.reverseRecOn with
    | nil => exact .nil
    | append_singleton types t ih =>
      rw [List.eraseDups_append]
      have hkeep : ∀ s ∈ types, (types ++ [t]).idxOf s = types.idxOf s :=
        fun s hs => List.idxOf_append_of_mem hs
      have hearlier : types.eraseDups.Pairwise
          fun s s' => (types ++ [t]).idxOf s < (types ++ [t]).idxOf s' := by
        refine ih.imp_of_mem fun {s s'} hs hs' hlt => ?_
        rwa [hkeep s (List.mem_eraseDups.1 hs), hkeep s' (List.mem_eraseDups.1 hs')]
      by_cases ht : t ∈ types
      · simpa [List.removeAll, ht] using hearlier
      · have hnew : ([t].removeAll types).eraseDups = [t] := by
          simp [List.removeAll, ht, List.eraseDups_cons]
        rw [hnew, List.pairwise_append]
        refine ⟨hearlier, List.pairwise_singleton _ t, fun s hs t' ht' => ?_⟩
        have hmem : s ∈ types := List.mem_eraseDups.1 hs
        -- the new type stands behind all the others
        rw [List.mem_singleton.1 ht', hkeep s hmem, List.idxOf_append, if_neg ht,
          List.idxOf_cons_self]
        exact (List.idxOf_lt_length_of_mem hmem).trans_le (Nat.le_add_left _ _)

theorem inferItems_eq_mapM (values : List Value) : inferItems values = values.mapM inferValue := by
  induction values with
  | nil => rfl
  | cons v values ih => rw [inferItems, ih, List.mapM_cons]

/-- A type of a list that is above all of them is the one that they unify to. -/
theorem highest_eq_ok_of_mem (hwf : ∀ s ∈ types, s.WellFormed) (hmem : t ∈ types)
    (hle : ∀ s ∈ types, s ≤ t) : highest types = .ok t := by
  rcases DataType.highest_unifies (List.ne_nil_of_mem hmem) hwf with ⟨u, hu, -, hu'⟩ | ⟨-, hno⟩
  · rw [hu, le_antisymm ((hu' t).2 hle) ((hu' u).1 le_rfl t hmem)]
  · exact absurd hle (hno t)

/-- Values of which one has a type above those of all others. -/
theorem oneByOne_of_le (hle : ∀ v ∈ values, ∃ s, inferValue v = .ok s ∧ s ≤ t)
    (hmem : ∃ v ∈ values, inferValue v = .ok t) : OneByOne values [t] := by
  obtain ⟨types, htypes⟩ : ∃ types, inferItems values = .ok types := by
    simp only [inferItems_eq_ok_iff, exists_forall₂_iff]
    exact fun v hv => (hle v hv).imp fun _ h => h.1
  refine .unified (inferItems_eq_ok_iff.1 htypes) ?_
  refine highest_eq_ok_of_mem (inferItems_wellFormed htypes) ?_ fun s hs => ?_
  · obtain ⟨v, hv, ht⟩ := hmem
    obtain ⟨s, hs, hvs⟩ := (exists_mem_of_inferItems htypes).1 v hv
    cases ht.symm.trans hvs
    exact hs
  · obtain ⟨v, hv, hvs⟩ := (exists_mem_of_inferItems htypes).2 s hs
    obtain ⟨s', hvs', hs't⟩ := hle v hv
    cases hvs.symm.trans hvs'
    exact hs't

theorem two_le_length_eraseDups {e : SchemaError} (hne : types ≠ [])
    (hwf : ∀ t ∈ types, t.WellFormed) (he : highest types = .error e) :
    2 ≤ types.eraseDups.length := by
  by_contra hshort
  obtain ⟨t, rest, rfl⟩ := List.exists_cons_of_ne_nil hne
  have ht : t ∈ (t :: rest).eraseDups := List.mem_eraseDups.2 (List.mem_cons_self)
  have hone : (t :: rest).eraseDups.length = 1 := by
    have hpos := List.length_pos_of_mem ht
    omega
  obtain ⟨u, hu⟩ := List.length_eq_one_iff.1 hone
  -- with one type only, that type unifies the list
  have hall : ∀ s ∈ t :: rest, s = u := fun s hs => by
    rwa [← List.mem_eraseDups, hu, List.mem_singleton] at hs
  have hok : highest (t :: rest) = .ok u := by
    refine highest_eq_ok_of_mem hwf ?_ fun s hs => (hall s hs).le
    rw [← hall t List.mem_cons_self]
    exact List.mem_cons_self
  cases hok.symm.trans he

theorem oneByOne_strictCandidates (hne : values ≠ []) :
    OneByOne values (strictCandidates values) := by
  unfold strictCandidates
  cases htypes : inferItems values with
  | error e =>
    rw [inferItems_eq_mapM] at htypes
    obtain ⟨v, hv, he⟩ := exists_of_mapM_eq_error htypes
    exact .untyped hv he
  | ok types =>
    have hvalues := inferItems_eq_ok_iff.1 htypes
    dsimp only
    cases hu : highest types with
    | ok u => exact .unified hvalues hu
    | error e =>
      have hne' : types ≠ [] := by
        rintro rfl
        exact hne (List.forall₂_nil_right_iff.1 hvalues)
      exact .conflicting hvalues hu (firstOccurrences_eraseDups types)
        (two_le_length_eraseDups hne' (inferItems_wellFormed htypes) hu)

theorem Dtype.ofKinds_of_all {hasNull : Bool} {kinds : List ValueKind} {k : ValueKind}
    (hne : kinds ≠ []) (h : ∀ j ∈ kinds, j = k) : ofKinds hasNull kinds = ofKinds hasNull [k] := by
  obtain ⟨n, hn, rfl⟩ : ∃ n, n ≠ 0 ∧ kinds = List.replicate n k :=
    ⟨kinds.length, by simpa using hne, List.eq_replicate_length.2 h⟩
  simp [ofKinds, hn]

/-- The machine type of some kinds is that of one of them, save for integers among missing values. -/
theorem Dtype.exists_mem_of_ofKinds {hasNull : Bool} {kinds : List ValueKind}
    (h : (ofKinds hasNull kinds).type? = some t)
    (hint : ¬ (hasNull = true ∧ ∀ k ∈ kinds, k = .int)) : ∃ k ∈ kinds, k.type? = some t := by
  unfold ofKinds at h
  split_ifs at h with h1 h2 h3 h4 h5 h6
  · cases h
  all_goals obtain ⟨k, hk⟩ := List.exists_mem_of_ne_nil kinds (by simpa using h1)
  · cases h
    rw [Bool.and_eq_true, List.all_eq_true] at h2
    obtain rfl : k = .bool := by simpa using h2.1 k hk
    exact ⟨_, hk, rfl⟩
  · cases h
    rw [Bool.and_eq_true, List.all_eq_true] at h3
    obtain rfl : k = .int := by simpa using h3.1 k hk
    exact ⟨_, hk, rfl⟩
  · cases h
    have hfloat : .float ∈ kinds := by
      by_contra hno
      have hall : ∀ k ∈ kinds, k = .int := by
        intro j hj
        have hnumber := List.all_eq_true.1 h4 j hj
        cases j with
        | int => rfl
        | float => exact absurd hj hno
        | null | bool | str | bytes | date | time | dateTime | timestamp | timedelta | list
          | record => cases hnumber
      have hints : kinds.all (· == .int) = true :=
        List.all_eq_true.2 fun j hj => beq_iff_eq.2 (hall j hj)
      refine hint ⟨?_, hall⟩
      simpa [hints] using h3
    exact ⟨_, hfloat, rfl⟩
  · cases h
    have hinstant := List.all_eq_true.1 h5 k hk
    cases k with
    | dateTime | timestamp => exact ⟨_, hk, rfl⟩
    | null | bool | int | float | str | bytes | date | time | timedelta | list | record =>
      cases hinstant
  · cases h
    obtain rfl : k = .timedelta := by simpa using List.all_eq_true.1 h6 k hk
    exact ⟨_, hk, rfl⟩
  · cases h

/-- Every value that is not null is of the kind. -/
def AllOfKind (k : ValueKind) (values : List Value) : Prop :=
  ∀ v ∈ values.filter (!·.isNull), v.kind = k

theorem forall_mem_map_kind_iff {k : ValueKind} :
    (∀ j ∈ (Value.present values).map Value.kind, j = k) ↔ AllOfKind k values :=
  List.forall_mem_map

theorem exists_mem_of_dtype (h : (Dtype.ofValues values).type? = some t)
    (hint : ¬ ((∃ v ∈ values, v.isNull) ∧ AllOfKind .int values)) :
    ∃ v ∈ Value.present values, inferValue v = .ok t := by
  rw [← forall_mem_map_kind_iff, ← List.any_eq_true] at hint
  obtain ⟨k, hk, hkt⟩ := Dtype.exists_mem_of_ofKinds h hint
  obtain ⟨v, hv, rfl⟩ := List.mem_map.1 hk
  exact ⟨v, hv, inferValue_of_kind hkt⟩

theorem present_present (values : List Value) :
    Value.present (Value.present values) = Value.present values := by simp [Value.present]

theorem sniffKind_present (values : List Value) : SniffKind.ofValues (Value.present values) =
    SniffKind.ofScalars ((Value.present values).map fun v => v.kind.scalar) := by
  rw [SniffKind.ofValues, present_present]

theorem exists_mem_of_sniffKind (hne : Value.present values ≠ [])
    (h : (SniffKind.ofValues (Value.present values)).type? = some t) :
    ∃ v ∈ Value.present values, inferValue v = .ok t := by
  obtain ⟨v, hv⟩ := List.exists_mem_of_ne_nil _ hne
  rw [sniffKind_present] at h
  have hkind := SniffKind.ofScalars_type h v.kind.scalar (List.mem_map_of_mem hv)
  exact ⟨v, hv, inferValue_of_kind (SniffKind.type_of_ofScalar hkind)⟩

/-- Instants come in two kinds, and what is nested as well; other scalar kinds are one kind each. -/
theorem ValueKind.eq_of_scalar_eq {k j : ValueKind} (h : k.scalar = j.scalar)
    (hj : j = .int ∨ j = .float ∨ j = .date ∨ j = .time) : k = j := by
  rcases hj with rfl | rfl | rfl | rfl
  all_goals
    revert h
    cases k <;> decide

theorem sniffKind_of_allOfKind {k : ValueKind} (hne : Value.present values ≠ [])
    (h : AllOfKind k values) :
    SniffKind.ofValues (Value.present values) = SniffKind.ofScalar k.scalar := by
  rw [sniffKind_present]
  refine SniffKind.ofScalars_of_all (by simpa using hne) (List.forall_mem_map.2 fun v hv => ?_)
  rw [h v hv]

theorem dtype_of_allOfKind {k : ValueKind} (hne : Value.present values ≠ [])
    (h : AllOfKind k values) :
    Dtype.ofValues values = Dtype.ofKinds (values.any Value.isNull) [k] :=
  Dtype.ofKinds_of_all (by simpa using hne) (forall_mem_map_kind_iff.2 h)

theorem ValueKind.scalar_of_open {k : ValueKind}
    (hmixed : (SniffKind.ofScalar k.scalar).isMixed = false)
    (htype : (SniffKind.ofScalar k.scalar).type? = none) :
    k = .int ∨ k = .float ∨ k = .date ∨ k = .time := by
  revert hmixed htype
  cases k <;> decide

theorem exists_dtype_of_number {k : ValueKind} (hne : Value.present values ≠ [])
    (h : AllOfKind k values) (hk : k = .int ∨ k = .float) :
    ∃ t, (Dtype.ofValues values).type? = some t := by
  rw [dtype_of_allOfKind hne h]
  rcases hk with rfl | rfl
  all_goals cases values.any Value.isNull <;> exact ⟨_, rfl⟩

/-- Only dates and times have neither a machine type nor a kind that stands for a type. -/
theorem allOfKind_of_open (hne : Value.present values ≠ [])
    (hdtype : (Dtype.ofValues values).type? = none)
    (hmixed : (SniffKind.ofValues (Value.present values)).isMixed = false)
    (htype : (SniffKind.ofValues (Value.present values)).type? = none) :
    AllOfKind .date values ∨ AllOfKind .time values := by
  have hscalars : (Value.present values).map (fun v => v.kind.scalar) ≠ [] := by simpa using hne
  rw [sniffKind_present] at hmixed htype
  by_cases hall : ∃ s, ∀ j ∈ (Value.present values).map (fun v => v.kind.scalar), j = s
  · obtain ⟨s, hs⟩ := hall
    obtain ⟨v, hv⟩ := List.exists_mem_of_ne_nil _ hne
    obtain rfl := hs _ (List.mem_map_of_mem hv)
    rw [SniffKind.ofScalars_of_all hscalars hs] at hmixed htype
    have hopen := ValueKind.scalar_of_open hmixed htype
    have hsame : AllOfKind v.kind values := fun w hw =>
      ValueKind.eq_of_scalar_eq (hs _ (List.mem_map_of_mem hw)) hopen
    rcases hopen with hk | hk | hk | hk
    · obtain ⟨t, ht⟩ := exists_dtype_of_number hne hsame (.inl hk)
      cases hdtype.symm.trans ht
    · obtain ⟨t, ht⟩ := exists_dtype_of_number hne hsame (.inr hk)
      cases hdtype.symm.trans ht
    · exact .inl (hk ▸ hsame)
    · exact .inr (hk ▸ hsame)
  · rw [SniffKind.ofScalars_of_not_all hscalars hall] at hmixed
    split_ifs at hmixed <;> cases hmixed

variable {name : String} {aggressiveNull : Bool}

theorem inferColumn_of_absent (h : Value.present values = []) :
    inferColumn (.ofValues name values) true aggressiveNull = [.null] := by
  have hdtype : Dtype.ofValues values = .object := by
    rw [Dtype.ofValues, h]
    rfl
  simp only [inferColumn, Column.ofValues, h, hdtype]
  cases aggressiveNull <;> rfl

theorem inferColumn_of_present (hne : Value.present values ≠ []) :
    inferColumn (.ofValues name values) true aggressiveNull =
      match (Dtype.ofValues values).type? with
      | some t => [t]
      | none =>
        if !(SniffKind.ofValues (Value.present values)).isMixed then
          (SniffKind.ofValues (Value.present values)).type?.toList
        else strictCandidates (Value.present values) := by
  have hempty : (Value.present values).isEmpty = false := List.isEmpty_eq_false_iff.2 hne
  cases hdtype : (Dtype.ofValues values).type? <;>
    simp only [inferColumn, Column.ofValues, hempty, hdtype, Bool.and_false, Bool.false_eq_true,
      if_false, if_true]

/-- What a strict inference makes of the values of a column. -/
structure StrictlyInferred (values : List Value) (candidates : List DataType) : Prop where
  absent : values.filter (!·.isNull) = [] → candidates = [.null]
  undecided : values.filter (!·.isNull) ≠ [] → AllOfKind .date values ∨ AllOfKind .time values →
    candidates = []
  widened : values.filter (!·.isNull) ≠ [] → AllOfKind .int values → (∃ v ∈ values, v.isNull) →
    candidates = [.double]
  valueByValue : values.filter (!·.isNull) ≠ [] →
    ¬ (AllOfKind .date values ∨ AllOfKind .time values) →
    ¬ ((∃ v ∈ values, v.isNull) ∧ AllOfKind .int values) →
    OneByOne (values.filter (!·.isNull)) candidates

theorem inferColumn_oneByOne (hne : Value.present values ≠ [])
    (hopen : ¬ (AllOfKind .date values ∨ AllOfKind .time values))
    (hint : ¬ ((∃ v ∈ values, v.isNull) ∧ AllOfKind .int values)) :
    OneByOne (Value.present values) (inferColumn (.ofValues name values) true aggressiveNull) := by
  rw [inferColumn_of_present hne]
  cases hdtype : (Dtype.ofValues values).type? with
  | some t => exact oneByOne_of_le (le_of_dtype hdtype) (exists_mem_of_dtype hdtype hint)
  | none =>
    dsimp only
    cases hmixed : (SniffKind.ofValues (Value.present values)).isMixed with
    | true => exact oneByOne_strictCandidates hne
    | false =>
      cases htype : (SniffKind.ofValues (Value.present values)).type? with
      | some t => exact oneByOne_of_le (le_of_sniffKind htype) (exists_mem_of_sniffKind hne htype)
      | none => exact absurd (allOfKind_of_open hne hdtype hmixed htype) hopen

theorem inferColumn_strictlyInferred (name : String) (values : List Value) (aggressiveNull : Bool) :
    StrictlyInferred values (inferColumn (.ofValues name values) true aggressiveNull) where
  absent := inferColumn_of_absent
  undecided hne h := by
    rw [inferColumn_of_present hne]
    rcases h with h | h
    all_goals
      rw [dtype_of_allOfKind hne h, sniffKind_of_allOfKind hne h]
      cases values.any Value.isNull <;> rfl
  widened hne h hnull := by
    rw [inferColumn_of_present hne, dtype_of_allOfKind hne h, List.any_eq_true.2 hnull]
    rfl
  valueByValue := inferColumn_oneByOne

/-- Booleans among missing values have no machine type, and conflict with texts. -/
example : inferColumn (.ofValues "c" [.bool true, .null, .str "x", .bool false]) true true =
    [.boolean, .string] := by cbv

end WarehouseAdapter
