import WarehouseAdapter.Proofs.FirstColumns

/-!
# Places from which columns are taken

Which columns of a frame a schema takes depends on names alone: `takenPlaces` follows the places of
the columns through the steps of an application, as far as each name is found. Whatever the columns
hold and whatever their types, the application looks every name up in the frame as it was given if
and only if each of these places is the first one of its name.
-/

namespace WarehouseAdapter

variable {α β : Type} {m n : String} {names : List String} {left : List (String × ℕ)}
  {fields : List (String × DataType)} {q : String × ℕ} {content : ℕ → Dtype × List Value}

/-- The names of a schema with the places that they take among those still left. -/
def takenPlaces : List String → List (String × ℕ) → List (String × ℕ)
  | [], _ => []
  | n :: names, left =>
    match takeFirst (fun q => q.1 == n) left with
    | some (q, others) => q :: takenPlaces names others
    | none => []

/-- The column at a place of a frame, by what the frame holds at each place. -/
def numbered (content : ℕ → Dtype × List Value) (q : String × ℕ) : Column :=
  ⟨q.1, (content q.2).1, (content q.2).2⟩

theorem swapRemove_map (f : α → β) (xs : List α) (i : ℕ) :
    swapRemove (xs.map f) i = (swapRemove xs i).map f := by
  unfold swapRemove
  rw [List.getLast?_map]
  cases xs.getLast? with
  | none => rfl
  | some last =>
    change ((xs.map f).set i (f last)).dropLast = ((xs.set i last).dropLast).map f
    rw [← List.map_set, List.map_dropLast]

theorem takeFirst_map (f : α → β) (p : β → Bool) (xs : List α) :
    takeFirst p (xs.map f) = (takeFirst (p ∘ f) xs).map fun r => (f r.1, r.2.map f) := by
  unfold takeFirst
  rw [List.findIdx?_map]
  cases xs.findIdx? (p ∘ f) with
  | none => rfl
  | some i =>
    simp only [List.getElem?_map, swapRemove_map, Option.map_map]
    rfl

theorem takeColumn_numbered (content : ℕ → Dtype × List Value) (n : String)
    (left : List (String × ℕ)) :
    takeColumn n (left.map (numbered content)) =
      (takeFirst (fun q => q.1 == n) left).map fun r =>
        (numbered content r.1, r.2.map (numbered content)) :=
  takeFirst_map (numbered content) (fun c => c.name == n) left

theorem mem_of_mem_takenPlaces (h : q ∈ takenPlaces names left) : q ∈ left := by
  induction names generalizing left with
  | nil => cases h
  | cons n names ih =>
    rw [takenPlaces] at h
    cases htake : takeFirst (fun q => q.1 == n) left with
    | none =>
      rw [htake] at h
      cases h
    | some r =>
      obtain ⟨r, others⟩ := r
      rw [htake] at h
      rcases List.mem_cons.1 h with rfl | h
      · exact (perm_of_takeFirst htake).mem_iff.2 List.mem_cons_self
      · exact (perm_of_takeFirst htake).mem_iff.2 (List.mem_cons_of_mem r (ih h))

/-- Where every taken place holds the first column of its name, reshaping takes the first ones. -/
theorem reshape_numbered {f : Frame} (hnodup : (fields.map Prod.fst).Nodup)
    (hplaces : ∀ q ∈ takenPlaces (fields.map Prod.fst) left,
      f.column? q.1 = some (numbered content q))
    (habsent : ∀ p ∈ fields, (∀ q ∈ left, q.1 ≠ p.1) → f.column? p.1 = none) :
    reshape fields (left.map (numbered content)) = fields.mapM f.convertFirst := by
  induction fields generalizing left with
  | nil => rfl
  | cons p fields ih =>
    obtain ⟨n, t⟩ := p
    rw [List.map_cons, List.nodup_cons] at hnodup
    obtain ⟨hn, hfields⟩ := List.forall_mem_cons.1 habsent
    have htaken := takeColumn_numbered content n left
    rw [List.map_cons, takenPlaces] at hplaces
    cases htake : takeFirst (fun q => q.1 == n) left with
    | none =>
      rw [htake] at htaken
      refine reshape_cons_of_none htaken (hn fun q hq => ?_)
      simpa using takeFirst_eq_none htake q hq
    | some r =>
      obtain ⟨q, others⟩ := r
      rw [htake] at htaken hplaces
      obtain ⟨hq, hothers⟩ := List.forall_mem_cons.1 hplaces
      have hname : q.1 = n := by simpa using (takeFirst_eq_some htake).1
      rw [hname] at hq
      refine reshape_cons_of_some htaken hq (ih hnodup.2 hothers fun p hp hno => ?_)
      refine hfields p hp fun r hr => ?_
      rcases List.mem_cons.1 ((perm_of_takeFirst htake).mem_iff.1 hr) with rfl | hr
      · rw [hname]
        rintro rfl
        exact hnodup.1 (List.mem_map.2 ⟨p, hp, rfl⟩)
      · exact hno r hr

theorem find?_zipIdx (names : List String) (n : String) (k : ℕ) :
    (names.zipIdx k).find? (fun q => q.1 == n) =
      if n ∈ names then some (n, k + names.idxOf n) else none := by
  induction names generalizing k with
  | nil => rfl
  | cons m names ih =>
    rw [List.zipIdx_cons]
    by_cases h : m = n
    · subst h
      rw [List.find?_cons_of_pos (by simp), if_pos (by simp), List.idxOf_cons_self]
      rfl
    · have hne : (m == n) = false := by simpa using h
      rw [List.find?_cons_of_neg (by simp [hne]), ih, List.idxOf_cons_ne _ h]
      by_cases hn : n ∈ names
      · rw [if_pos hn, if_pos (by simp [hn])]
        congr 2
        omega
      · rw [if_neg hn, if_neg (by simp [hn, Ne.symm h])]

theorem column?_numbered (content : ℕ → Dtype × List Value) (names : List String) (n : String) :
    Frame.column? ⟨names.zipIdx.map (numbered content)⟩ n =
      if n ∈ names then some (numbered content (n, names.idxOf n)) else none := by
  have hfind := find?_zipIdx names n 0
  rw [Frame.column?, List.find?_map]
  change (names.zipIdx.find? fun q => q.1 == n).map (numbered content) = _
  rw [hfind, Nat.zero_add]
  split_ifs <;> rfl

theorem exists_content (f : Frame) :
    ∃ content, f.columns = f.names.zipIdx.map (numbered content) := by
  refine ⟨fun i => ((f.columns.getD i default).dtype, (f.columns.getD i default).values), ?_⟩
  apply List.ext_getElem
  · simp [Frame.names]
  · intro i hi _
    simp [Frame.names, numbered, hi]

/-- Integers at all places but one, which holds a text. -/
def spoiled (i j : ℕ) : Dtype × List Value := (.object, [if j = i then .str "" else .int 0])

theorem coerceColumn_spoiled_self (n m : String) (i : ℕ) :
    coerceColumn n (.primitive .int64) (numbered (spoiled i) (m, i)) =
      .error (.coercion n (.mismatch .str (.primitive .int64))) := by
  simp only [numbered, spoiled, if_pos]
  rfl

theorem coerceColumn_spoiled_of_ne {i j : ℕ} (h : j ≠ i) (n m : String) :
    coerceColumn n (.primitive .int64) (numbered (spoiled i) (m, j)) =
      .ok ⟨n, .int64, [.int 0]⟩ := by
  simp only [numbered, spoiled, if_neg h]
  rfl

/-- Integers asked for, the text at a place is met if the place is taken. -/
theorem reshape_spoiled (hnodup : (left.map Prod.snd).Nodup) (h : q ∈ takenPlaces names left) :
    reshape (names.map fun n => (n, .primitive .int64)) (left.map (numbered (spoiled q.2))) =
      .error (.coercion q.1 (.mismatch .str (.primitive .int64))) := by
  induction names generalizing left with
  | nil => cases h
  | cons n names ih =>
    have htaken := takeColumn_numbered (spoiled q.2) n left
    rw [takenPlaces] at h
    cases htake : takeFirst (fun q => q.1 == n) left with
    | none =>
      rw [htake] at h
      cases h
    | some r =>
      obtain ⟨r, others⟩ := r
      rw [htake] at h htaken
      rw [List.map_cons, reshape, htaken]
      have hplaces := ((perm_of_takeFirst htake).map Prod.snd).nodup_iff.1 hnodup
      rw [List.map_cons, List.nodup_cons] at hplaces
      rcases List.mem_cons.1 h with rfl | h
      · have hname : q.1 = n := by simpa using (takeFirst_eq_some htake).1
        obtain ⟨m, i⟩ := q
        obtain rfl : m = n := hname
        simp only [Option.map_some, coerceColumn_spoiled_self]
        rfl
      · have hne : r.2 ≠ q.2 := by
          rintro heq
          exact hplaces.1 (List.mem_map.2 ⟨q, mem_of_mem_takenPlaces h, heq.symm⟩)
        have hrest := ih hplaces.2 h
        obtain ⟨m, i⟩ := r
        simp only [Option.map_some, coerceColumn_spoiled_of_ne hne, hrest]
        rfl

theorem convertFirst_spoiled {given : List String} {i : ℕ} {fault : CoercionFault}
    (hi : given[i]? = some n) (hfirst : i ≠ given.idxOf n) (m : String) :
    Frame.convertFirst ⟨given.zipIdx.map (numbered (spoiled i))⟩ (m, .primitive .int64) ≠
      .error (.coercion n fault) := by
  have hcolumn := column?_numbered (spoiled i) given m
  by_cases hm : m ∈ given
  · have hne : given.idxOf m ≠ i := by
      rintro rfl
      obtain rfl : m = n := by
        rw [List.getElem?_idxOf hm] at hi
        exact Option.some.inj hi
      exact hfirst rfl
    rw [if_pos hm] at hcolumn
    simp [Frame.convertFirst, hcolumn, coerceColumn_spoiled_of_ne hne]
  · rw [if_neg hm] at hcolumn
    simp [Frame.convertFirst, hcolumn]

/-- A place that is taken although it is not the first of its name shows in the result. -/
theorem exists_applyTo_ne {s : Schema} {given : List String}
    (hq : q ∈ takenPlaces s.names given.zipIdx) (hfirst : q.2 ≠ given.idxOf q.1) :
    ∃ (s' : Schema) (f' : Frame), s'.names = s.names ∧ f'.names = given ∧
      s'.applyTo f' ≠ s'.applyToFirst f' := by
  have hfields : (s.names.map fun n => (n, DataType.primitive .int64)).map Prod.fst = s.names := by
    rw [List.map_map]
    exact List.map_id s.names
  let s' : Schema := .ofDistinct (s.names.map fun n => (n, .primitive .int64)) (by
    rw [hfields]
    exact s.distinct)
  have hcolumns : s'.columns = s.names.map fun n => (n, .primitive .int64) :=
    Schema.columns_ofDistinct _
  let f' : Frame := ⟨given.zipIdx.map (numbered (spoiled q.2))⟩
  have hnames : f'.names = given := by
    change (given.zipIdx.map _).map Column.name = given
    rw [List.map_map]
    exact List.zipIdx_map_fst 0 given
  refine ⟨s', f', hfields, hnames, fun heq => ?_⟩
  have hplaces : (given.zipIdx.map Prod.snd).Nodup := by
    rw [List.zipIdx_map_snd]
    exact List.nodup_range'
  have hreshape := reshape_spoiled hplaces hq
  have hfails : s'.applyToFirst f' =
      .error (.coercion q.1 (.mismatch .str (.primitive .int64))) := by
    rw [← heq, Schema.applyTo, hcolumns]
    exact congrArg (Except.map Frame.mk) hreshape
  obtain ⟨p, hp, he⟩ := exists_of_mapM_eq_error (map_eq_error_iff.1 hfails)
  rw [hcolumns] at hp
  obtain ⟨m, -, rfl⟩ := List.mem_map.1 hp
  have hplace : given[q.2]? = some q.1 :=
    List.mem_zipIdx_iff_getElem?.1 (mem_of_mem_takenPlaces hq)
  exact convertFirst_spoiled hplace hfirst m he

theorem applyTo_eq_of_takenPlaces {s : Schema} {f : Frame}
    (h : ∀ q ∈ takenPlaces s.names f.names.zipIdx, q.2 = f.names.idxOf q.1) :
    s.applyTo f = s.applyToFirst f := by
  obtain ⟨content, hcontent⟩ := exists_content f
  have hcolumn : ∀ n, f.column? n =
      if n ∈ f.names then some (numbered content (n, f.names.idxOf n)) else none := by
    intro n
    rw [← column?_numbered content, ← hcontent]
  rw [Schema.applyTo, Schema.applyToFirst, hcontent]
  refine congrArg (Except.map Frame.mk) (reshape_numbered s.nodup_columns ?_ ?_)
  · intro q hq
    rw [Schema.map_fst_columns] at hq
    have hplace := List.mem_zipIdx_iff_getElem?.1 (mem_of_mem_takenPlaces hq)
    rw [hcolumn, if_pos (List.mem_of_getElem? hplace), ← h q hq]
  · intro p _ habsent
    rw [hcolumn, if_neg]
    intro hmem
    obtain ⟨i, hi⟩ := List.mem_iff_getElem?.1 hmem
    exact habsent (p.1, i) (List.mem_zipIdx_iff_getElem?.2 hi) rfl

/-- Applying a schema looks its names up in the columns put into some order. This gives the first
column of every name, whatever the columns hold and the types are, if and only if each place taken
is the first one of its name, and so whenever the repeated names keep their first columns. -/
theorem applyTo_firstColumns (s : Schema) (f : Frame) :
    (∃ sorted : Frame, sorted.columns.Perm f.columns ∧ s.applyTo f = s.applyToFirst sorted) ∧
      ((∀ (s' : Schema) (f' : Frame), s'.names = s.names → f'.names = f.names →
          s'.applyTo f' = s'.applyToFirst f') ↔
        ∀ q ∈ takenPlaces s.names f.names.zipIdx, q.2 = f.names.idxOf q.1) ∧
      (s.names.Pairwise (KeepsFirst f.names) → s.applyTo f = s.applyToFirst f) := by
  refine ⟨exists_perm_applyTo s f, ⟨?_, ?_⟩, applyTo_eq_of_keepsFirst⟩
  · intro h q hq
    by_contra hfirst
    obtain ⟨s', f', hs, hf, hne⟩ := exists_applyTo_ne hq hfirst
    exact hne (h s' f' hs hf)
  · intro h s' f' hs hf
    rw [← hs, ← hf] at h
    exact applyTo_eq_of_takenPlaces h

/-- The name `b` stands in front of `a`, so its first column stays in front of its second one. -/
theorem applyTo_firstColumns_kept :
    let s : Schema := .ofDistinct [("a", .primitive .int64), ("b", .primitive .double)] (by decide)
    let f : Frame := ⟨[⟨"b", .int64, [.int 1]⟩, ⟨"a", .int64, [.int 0]⟩, ⟨"b", .int64, [.int 2]⟩]⟩
    s.names.Pairwise (KeepsFirst f.names) ∧
      s.applyToFirst f = .ok ⟨[⟨"a", .int64, [.int 0]⟩,
        ⟨"b", .float64, [.float (Double.ofInt 1)]⟩]⟩ ∧
      s.applyTo f = s.applyToFirst f := by
  intro s f
  have hkept : s.names.Pairwise (KeepsFirst f.names) := by
    refine List.pairwise_pair.2 (.inr ?_)
    decide
  exact ⟨hkept, rfl, (applyTo_firstColumns s f).2.2 hkept⟩

/-- Once `a` is taken out the second column `b` stands in its place, before the first one. -/
theorem not_applyTo_eq_applyToFirst :
    ¬ ∀ (s : Schema) (f : Frame), s.applyTo f = s.applyToFirst f := by
  intro h
  let s : Schema := .ofDistinct [("a", .primitive .int64), ("b", .primitive .int64)] (by decide)
  let f : Frame := ⟨[⟨"a", .int64, [.int 0]⟩, ⟨"b", .int64, [.int 1]⟩, ⟨"b", .int64, [.int 2]⟩]⟩
  have happly : s.applyTo f =
      .ok ⟨[⟨"a", .int64, [.int 0]⟩, ⟨"b", .int64, [.int 2]⟩]⟩ := rfl
  have hfirst : s.applyToFirst f =
      .ok ⟨[⟨"a", .int64, [.int 0]⟩, ⟨"b", .int64, [.int 1]⟩]⟩ := rfl
  have heq := h s f
  rw [happly, hfirst] at heq
  injection heq with heq
  revert heq
  simp

end WarehouseAdapter
