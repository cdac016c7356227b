import WarehouseAdapter.Proofs.DistinctKeys
import WarehouseAdapter.Proofs.Reshaping
import WarehouseAdapter.Proofs.Schema.Index

/-!
# First columns of a name

`Schema.applyToFirst` converts, for each name of a schema in turn, the first column of that name in
the frame as it was given. Applying a schema does the same to the columns in some other order, since
what is taken out lets the last column move forward. With repeated names this other order shows: the
column that moves forward may overtake the first one of its name. It does not as long as every
repeated name of the schema stands, in the frame, before the names that the schema lists earlier.
-/

namespace WarehouseAdapter

variable {name n m : String} {c : Column} {columns others : List Column} {xs ys zs : List String}
  {fields : List (String × DataType)}

def Frame.convertFirst (f : Frame) (p : String × DataType) : Except SchemaError Column :=
  match f.column? p.1 with
  | some c => coerceColumn p.1 p.2 c
  | none => .error (.columnNotFound p.1)

/-- The schema applied with every look-up in the frame as it was given. -/
def Schema.applyToFirst (s : Schema) (f : Frame) : Except SchemaError Frame :=
  (s.columns.mapM f.convertFirst).map Frame.mk

/-- One column at most has the later name, or one stands before all columns of the earlier name. -/
def KeepsFirst (names : List String) (earlier later : String) : Prop :=
  names.count later ≤ 1 ∨ later ∈ names.takeWhile (· ≠ earlier)

/-- Takes out the first element that fits; the last element moves into its place. -/
def takeFirst {α : Type} (p : α → Bool) (xs : List α) : Option (α × List α) :=
  match xs.findIdx? p with
  | some i => xs[i]?.map fun a => (a, swapRemove xs i)
  | none => none

/-- Taking an element out leaves all those before it in place and those behind it in some order. -/
theorem takeFirst_eq_some {α : Type} {p : α → Bool} {a : α} {xs others : List α}
    (h : takeFirst p xs = some (a, others)) :
    p a = true ∧ ∃ before behind rest, xs = before ++ a :: behind ∧
      (∀ b ∈ before, p b = false) ∧ others = before ++ rest ∧ rest.Perm behind := by
  unfold takeFirst at h
  cases hi : xs.findIdx? p with
  | none =>
    rw [hi] at h
    cases h
  | some i =>
    obtain ⟨hlt, hfits, hbefore⟩ := List.findIdx?_eq_some_iff_getElem.1 hi
    simp only [hi, List.getElem?_eq_getElem hlt, Option.map_some, Option.some.injEq,
      Prod.mk.injEq] at h
    obtain ⟨rfl, rfl⟩ := h
    obtain ⟨rest, hrest, hswap⟩ := exists_swapRemove_eq hlt
    refine ⟨hfits, xs.take i, xs.drop (i + 1), rest, (take_append_cons_drop hlt).symm, ?_, hswap,
      hrest⟩
    intro b hb
    obtain ⟨j, hj, rfl⟩ := List.mem_take_iff_getElem.1 hb
    simpa using hbefore j (by omega)

theorem perm_of_takeFirst {α : Type} {p : α → Bool} {a : α} {xs others : List α}
    (h : takeFirst p xs = some (a, others)) : xs.Perm (a :: others) := by
  obtain ⟨-, before, behind, rest, rfl, -, rfl, hrest⟩ := takeFirst_eq_some h
  exact List.perm_middle.trans ((hrest.append_left before).cons a).symm

theorem takeFirst_eq_none {α : Type} {p : α → Bool} {xs : List α} (h : takeFirst p xs = none) :
    ∀ a ∈ xs, p a = false := by
  unfold takeFirst at h
  cases hi : xs.findIdx? p with
  | none => exact List.findIdx?_eq_none_iff.1 hi
  | some i =>
    obtain ⟨hlt, -, -⟩ := List.findIdx?_eq_some_iff_getElem.1 hi
    simp [hi, hlt] at h

theorem takeColumn_eq_takeFirst (name : String) (columns : List Column) :
    takeColumn name columns = takeFirst (fun c => c.name == name) columns := rfl

theorem takeColumn_eq_some (h : takeColumn name columns = some (c, others)) :
    c.name = name ∧ ∃ before behind rest, columns = before ++ c :: behind ∧
      (∀ d ∈ before, d.name ≠ name) ∧ others = before ++ rest ∧ rest.Perm behind := by
  rw [takeColumn_eq_takeFirst] at h
  obtain ⟨hname, before, behind, rest, hsplit, hbefore, hothers, hrest⟩ := takeFirst_eq_some h
  refine ⟨by simpa using hname, before, behind, rest, hsplit, ?_, hothers, hrest⟩
  intro d hd
  simpa using hbefore d hd

theorem takeColumn_eq_none (h : takeColumn name columns = none) :
    Frame.column? ⟨columns⟩ name = none := by
  rw [takeColumn_eq_takeFirst] at h
  exact List.find?_eq_none.2 fun c hc => by simp [takeFirst_eq_none h c hc]

theorem column?_of_takeColumn (h : takeColumn name columns = some (c, others)) :
    Frame.column? ⟨columns⟩ name = some c := by
  obtain ⟨hname, before, behind, rest, rfl, hbefore, -, -⟩ := takeColumn_eq_some h
  refine List.find?_eq_some_iff_append.2 ⟨by simpa using hname, before, behind, rfl, ?_⟩
  intro d hd
  simpa using hbefore d hd

theorem convertFirst_congr {f g : Frame} {p : String × DataType}
    (h : f.column? p.1 = g.column? p.1) : f.convertFirst p = g.convertFirst p := by
  rw [Frame.convertFirst, Frame.convertFirst, h]

theorem mapM_convertFirst_congr {f g : Frame}
    (h : ∀ p ∈ fields, f.column? p.1 = g.column? p.1) :
    fields.mapM f.convertFirst = fields.mapM g.convertFirst := by
  induction fields with
  | nil => rfl
  | cons p fields ih =>
    obtain ⟨hp, hfields⟩ := List.forall_mem_cons.1 h
    rw [List.mapM_cons, List.mapM_cons, convertFirst_congr hp, ih hfields]

theorem reshape_cons_of_none {t : DataType} {f : Frame} (h : takeColumn name columns = none)
    (hf : f.column? name = none) :
    reshape ((name, t) :: fields) columns = ((name, t) :: fields).mapM f.convertFirst := by
  have hfirst : f.convertFirst (name, t) = .error (.columnNotFound name) := by
    rw [Frame.convertFirst, hf]
  rw [reshape, h, List.mapM_cons, hfirst]
  rfl

theorem reshape_cons_of_some {t : DataType} {f : Frame}
    (h : takeColumn name columns = some (c, others)) (hf : f.column? name = some c)
    (hrest : reshape fields others = fields.mapM f.convertFirst) :
    reshape ((name, t) :: fields) columns = ((name, t) :: fields).mapM f.convertFirst := by
  have hfirst : f.convertFirst (name, t) = coerceColumn name t c := by
    rw [Frame.convertFirst, hf]
  rw [reshape, h, List.mapM_cons, hfirst, ← hrest]

/-- Reshaping looks every name up in the same columns, put into some order. -/
theorem exists_perm_reshape (hnodup : (fields.map Prod.fst).Nodup) (columns : List Column) :
    ∃ sorted : List Column, sorted.Perm columns ∧
      reshape fields columns = fields.mapM (Frame.mk sorted).convertFirst := by
  induction fields generalizing columns with
  | nil => exact ⟨columns, .refl _, rfl⟩
  | cons p fields ih =>
    obtain ⟨name, t⟩ := p
    rw [List.map_cons, List.nodup_cons] at hnodup
    cases htake : takeColumn name columns with
    | none => exact ⟨columns, .refl _, reshape_cons_of_none htake (takeColumn_eq_none htake)⟩
    | some r =>
      obtain ⟨c, others⟩ := r
      have hname : c.name = name := (takeColumn_eq_some htake).1
      have hperm : columns.Perm (c :: others) := perm_of_takeFirst htake
      obtain ⟨sorted, hsorted, hreshape⟩ := ih hnodup.2 others
      refine ⟨c :: sorted, (hsorted.cons c).trans hperm.symm,
        reshape_cons_of_some htake ?_ ?_⟩
      · rw [Frame.column?, List.find?_cons_of_pos (by simpa using hname)]
      · rw [hreshape]
        refine mapM_convertFirst_congr fun q hq => ?_
        -- the names still to come are not that of the column put in front
        have hne : (c.name == q.1) = false := by
          rw [hname, beq_eq_false_iff_ne]
          rintro rfl
          exact hnodup.1 (List.mem_map.2 ⟨q, hq, rfl⟩)
        rw [Frame.column?, Frame.column?, List.find?_cons_of_neg (by simp [hne])]

theorem mem_takeWhile_append_iff {p : String → Bool} (h : m ∈ xs) :
    m ∈ (xs ++ ys).takeWhile p ↔ m ∈ (xs ++ zs).takeWhile p := by
  induction xs with
  | nil => cases h
  | cons x xs ih =>
    by_cases hx : p x = true
    · rw [List.cons_append, List.cons_append, List.takeWhile_cons_of_pos hx,
        List.takeWhile_cons_of_pos hx, List.mem_cons, List.mem_cons]
      rcases List.mem_cons.1 h with rfl | hm
      · simp
      · rw [ih hm]
    · rw [List.cons_append, List.cons_append, List.takeWhile_cons_of_neg hx,
        List.takeWhile_cons_of_neg hx]

theorem mem_takeWhile_ne_append_cons (hn : n ∉ xs) :
    m ∈ (xs ++ n :: ys).takeWhile (· ≠ n) ↔ m ∈ xs := by
  have hall : ∀ x ∈ xs, decide (x ≠ n) = true := fun x hx => by
    simpa using ne_of_mem_of_not_mem hx hn
  rw [List.takeWhile_append_of_pos hall, List.takeWhile_cons_of_neg (by simp), List.append_nil]

/-- Taking out the first column of a name keeps what stands before it. -/
theorem KeepsFirst.of_taken {earlier : String} (hperm : zs.Perm ys) (hn : n ∉ xs)
    (hhead : KeepsFirst (xs ++ n :: ys) n m) (h : KeepsFirst (xs ++ n :: ys) earlier m) :
    KeepsFirst (xs ++ zs) earlier m := by
  have hcount : (xs ++ zs).count m ≤ (xs ++ n :: ys).count m := by
    have hmiddle := List.count_le_count_cons (a := m) (b := n) (l := xs ++ zs)
    rw [((hperm.append_left xs).cons n).count_eq] at hmiddle
    rwa [List.perm_middle.count_eq]
  by_cases hle : (xs ++ n :: ys).count m ≤ 1
  · exact .inl (hcount.trans hle)
  · have hxs : m ∈ xs := (mem_takeWhile_ne_append_cons hn).1 (hhead.resolve_left hle)
    exact .inr ((mem_takeWhile_append_iff hxs).1 (h.resolve_left hle))

theorem find?_eq_of_perm {α : Type} {p : α → Bool} {as bs : List α} (hperm : as.Perm bs)
    (h : as.countP p ≤ 1) : as.find? p = bs.find? p := by
  have hfilter : as.filter p = bs.filter p := by
    have hperm' := hperm.filter p
    rw [List.countP_eq_length_filter] at h
    cases has : as.filter p with
    | nil =>
      rw [has] at hperm'
      exact hperm'.nil_eq
    | cons a rest =>
      rw [has, List.length_cons] at h
      obtain rfl : rest = [] := List.length_eq_zero_iff.1 (by omega)
      rw [has] at hperm'
      exact List.singleton_perm.1 hperm'
  rw [← List.head?_filter, ← List.head?_filter, hfilter]

/-- A name that is kept first finds the same column after another one has been taken out. -/
theorem column?_of_keepsFirst {before behind rest : List Column}
    (hbefore : ∀ d ∈ before, d.name ≠ c.name) (hrest : rest.Perm behind) (hne : m ≠ c.name)
    (h : KeepsFirst ((before ++ c :: behind).map Column.name) c.name m) :
    Frame.column? ⟨before ++ rest⟩ m = Frame.column? ⟨before ++ c :: behind⟩ m := by
  rcases h with hcount | hstands
  · have hperm : (before ++ c :: behind).Perm (c :: (before ++ rest)) :=
      List.perm_middle.trans ((hrest.append_left before).cons c).symm
    have hfind := find?_eq_of_perm (p := fun d => d.name == m) hperm (by
      rwa [List.count, List.countP_map] at hcount)
    rw [List.find?_cons_of_neg (by simpa using hne.symm)] at hfind
    exact hfind.symm
  · rw [List.map_append, List.map_cons, mem_takeWhile_ne_append_cons] at hstands
    · obtain ⟨d, hd, hname⟩ := List.mem_map.1 hstands
      have hsome : (before.find? fun d => d.name == m).isSome = true :=
        List.find?_isSome.2 ⟨d, hd, by simpa using hname⟩
      obtain ⟨e, he⟩ := Option.isSome_iff_exists.1 hsome
      rw [Frame.column?, Frame.column?, List.find?_append, List.find?_append, he]
      rfl
    · rintro hmem
      obtain ⟨d, hd, hname⟩ := List.mem_map.1 hmem
      exact hbefore d hd hname

theorem reshape_eq_of_keepsFirst (hnodup : (fields.map Prod.fst).Nodup)
    (h : (fields.map Prod.fst).Pairwise (KeepsFirst (columns.map Column.name))) :
    reshape fields columns = fields.mapM (Frame.mk columns).convertFirst := by
  induction fields generalizing columns with
  | nil => rfl
  | cons p fields ih =>
    obtain ⟨name, t⟩ := p
    rw [List.map_cons, List.nodup_cons] at hnodup
    rw [List.map_cons, List.pairwise_cons] at h
    cases htake : takeColumn name columns with
    | none => exact reshape_cons_of_none htake (takeColumn_eq_none htake)
    | some r =>
      obtain ⟨c, others⟩ := r
      have hfirst := column?_of_takeColumn htake
      obtain ⟨rfl, before, behind, rest, rfl, hbefore, rfl, hrest⟩ := takeColumn_eq_some htake
      have hnames : c.name ∉ before.map Column.name := by
        intro hmem
        obtain ⟨d, hd, hname⟩ := List.mem_map.1 hmem
        exact hbefore d hd hname
      have hkept : (fields.map Prod.fst).Pairwise
          (KeepsFirst ((before ++ rest).map Column.name)) := by
        refine h.2.imp_of_mem fun {earlier later} _ hlater hkeeps => ?_
        have hhead := h.1 later hlater
        rw [List.map_append, List.map_cons] at hhead hkeeps
        rw [List.map_append]
        exact .of_taken (hrest.map Column.name) hnames hhead hkeeps
      refine reshape_cons_of_some htake hfirst ((ih hnodup.2 hkept).trans ?_)
      refine mapM_convertFirst_congr fun q hq => ?_
      have hq' : q.1 ∈ fields.map Prod.fst := List.mem_map.2 ⟨q, hq, rfl⟩
      exact column?_of_keepsFirst hbefore hrest (ne_of_mem_of_not_mem hq' hnodup.1) (h.1 q.1 hq')

/-- A schema is applied as to the same columns in some order, each name finding the first column of
its own in that order. -/
theorem exists_perm_applyTo (s : Schema) (f : Frame) :
    ∃ sorted : Frame, sorted.columns.Perm f.columns ∧ s.applyTo f = s.applyToFirst sorted := by
  obtain ⟨sorted, hsorted, hreshape⟩ := exists_perm_reshape s.nodup_columns f.columns
  exact ⟨⟨sorted⟩, hsorted, by rw [Schema.applyTo, Schema.applyToFirst, hreshape]⟩

theorem applyTo_eq_of_keepsFirst {s : Schema} {f : Frame}
    (h : s.names.Pairwise (KeepsFirst f.names)) : s.applyTo f = s.applyToFirst f := by
  rw [← s.map_fst_columns] at h
  rw [Schema.applyTo, Schema.applyToFirst, reshape_eq_of_keepsFirst s.nodup_columns h]

variable {d : Column} {t : DataType} {p : String × DataType} {s : Schema} {f g : Frame}

theorem coerceColumn_eq_ok_iff : coerceColumn name t d = .ok c ↔ c.name = name ∧
    c.dtype = t.dtype ∧ List.Forall₂ (fun v w => coerce t v = .ok w) d.values c.values := by
  rw [← mapM_eq_ok_iff, coerceColumn]
  obtain ⟨name', dtype, values⟩ := c
  cases d.values.mapM (coerce t) with
  | error fault => simp
  | ok out =>
    simp only [Except.ok.injEq, Column.mk.injEq]
    simp [eq_comm]

theorem convertFirst_eq_ok_iff : f.convertFirst p = .ok c ↔
    ∃ d, f.column? p.1 = some d ∧ coerceColumn p.1 p.2 d = .ok c := by
  rw [Frame.convertFirst]
  cases f.column? p.1 with
  | none => simp
  | some d => simp

/-- Each column of an applied schema comes from some column of its name. -/
theorem forall₂_of_applyTo (h : s.applyTo f = .ok g) :
    List.Forall₂ (fun p c => ∃ d ∈ f.columns, d.name = p.1 ∧ coerceColumn p.1 p.2 d = .ok c)
      s.columns g.columns := by
  obtain ⟨sorted, hsorted, happly⟩ := exists_perm_applyTo s f
  rw [happly] at h
  obtain ⟨columns, hcolumns, rfl⟩ := map_eq_ok_iff.1 h
  refine (mapM_eq_ok_iff.1 hcolumns).imp fun p c hc => ?_
  obtain ⟨d, hd, hc⟩ := convertFirst_eq_ok_iff.1 hc
  refine ⟨d, hsorted.mem_iff.1 (List.mem_of_find?_eq_some hd), ?_, hc⟩
  simpa using List.find?_some hd

theorem column?_of_mem (hnodup : f.names.Nodup) (hc : c ∈ f.columns) :
    f.column? c.name = some c :=
  (find?_key_eq_some_iff hnodup).2 ⟨hc, rfl⟩

theorem column?_of_perm (hperm : g.columns.Perm f.columns) (hnodup : f.names.Nodup)
    (name : String) : g.column? name = f.column? name := by
  have hcount : f.columns.countP (fun c => c.name == name) ≤ 1 := by
    rw [← Function.comp_def (· == name) Column.name, ← List.countP_map]
    exact List.nodup_iff_count_le_one.1 hnodup name
  exact (find?_eq_of_perm hperm.symm hcount).symm

theorem applyTo_of_nodup (h : f.names.Nodup) : s.applyTo f = s.applyToFirst f := by
  refine applyTo_eq_of_keepsFirst (List.pairwise_of_forall fun earlier later => ?_)
  exact .inl (List.nodup_iff_count_le_one.1 h later)

/-- A schema does not see the order of columns with distinct names. -/
theorem applyTo_of_perm (hperm : g.columns.Perm f.columns) (hnodup : f.names.Nodup) :
    s.applyTo g = s.applyTo f := by
  have hnodup' : g.names.Nodup := (hperm.map Column.name).nodup_iff.2 hnodup
  rw [applyTo_of_nodup hnodup, applyTo_of_nodup hnodup', Schema.applyToFirst, Schema.applyToFirst]
  rw [mapM_convertFirst_congr fun p _ => column?_of_perm hperm hnodup p.1]

end WarehouseAdapter
