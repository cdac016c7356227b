import WarehouseAdapter.Proofs.DistinctKeys
import WarehouseAdapter.Proofs.Inference.Columns

/-!
# Columns left open

A column is left open when no type is given for it beforehand and its values come to none, or to
several. If a frame has such columns no schema is inferred, and the report names them all: it is
gathered column by column, each of them adding what is reported of it alone. Types given for the
reported columns, whichever they are, settle every column of a frame with distinct names.
-/

namespace WarehouseAdapter

/-- All reported columns. -/
def InferenceReport.names (r : InferenceReport) : List String :=
  r.unresolved ++ r.ambiguous.map Prod.fst

namespace InferOptions

def candidates (o : InferOptions) (c : Column) : List DataType :=
  inferColumn c o.strict o.aggressiveNull

/-- No type is given for the column, and its values do not come to a single one. -/
def LeavesOpen (o : InferOptions) (c : Column) : Prop :=
  o.overrides.lookup c.name = none ∧ (o.candidates c).length ≠ 1

instance (o : InferOptions) : DecidablePred o.LeavesOpen :=
  fun _ => inferInstanceAs (Decidable (_ ∧ _))

/-- The columns left open, in their order: those without candidates, and those with several. -/
def report (o : InferOptions) (columns : List Column) : InferenceReport where
  unresolved := (columns.filter fun c => o.LeavesOpen c ∧ o.candidates c = []).map Column.name
  ambiguous := (columns.filter fun c => o.LeavesOpen c ∧ 2 ≤ (o.candidates c).length).map
    fun c => (c.name, o.candidates c)

/-- Several types given, each in place of one that was given before for the same column. -/
def overrideAll (o : InferOptions) (given : List (String × DataType)) : InferOptions :=
  given.foldl (fun o p => o.override p.1 p.2) o

/-- The type of a column where types were given for all that had been left open. -/
structure Remedied (o : InferOptions) (given : List (String × DataType)) (c : Column)
    (p : String × DataType) : Prop where
  name_eq : p.1 = c.name
  opened : o.LeavesOpen c → (c.name, p.2) ∈ given
  overridden : ∀ t, o.overrides.lookup c.name = some t → p.2 = t
  inferred : o.overrides.lookup c.name = none → ¬ o.LeavesOpen c → o.candidates c = [p.2]

variable {o : InferOptions} {c : Column} {t : DataType} {name key : String}
  {columns : List Column} {given : List (String × DataType)}

theorem exists_settles_iff : (∃ t, o.Settles c t) ↔ ¬ o.LeavesOpen c := by
  simp only [Settles, LeavesOpen, candidates]
  cases o.overrides.lookup c.name with
  | some t => simp
  | none => simp [List.length_eq_one_iff]

theorem not_leavesOpen_of_settles (h : o.Settles c t) : ¬ o.LeavesOpen c :=
  exists_settles_iff.1 ⟨t, h⟩

theorem report_cons (c : Column) (columns : List Column) : o.report (c :: columns) =
    ⟨(o.report [c]).unresolved ++ (o.report columns).unresolved,
      (o.report [c]).ambiguous ++ (o.report columns).ambiguous⟩ := by
  rw [← List.singleton_append]
  simp only [report, List.filter_append, List.map_append]

theorem report_singleton_of_not_leavesOpen (h : ¬ o.LeavesOpen c) : o.report [c] = {} := by
  simp [report, h]

theorem LeavesOpen.ne_nil_iff (h : o.LeavesOpen c) :
    o.candidates c ≠ [] ↔ 2 ≤ (o.candidates c).length := by
  have hone := h.2
  rw [← List.length_pos_iff]
  omega

/-- The report names the columns left open, each as often as it occurs. -/
theorem names_report_perm (o : InferOptions) (columns : List Column) :
    (o.report columns).names.Perm ((columns.filter fun c => o.LeavesOpen c).map Column.name) := by
  let opened := columns.filter fun c => o.LeavesOpen c
  have hnone : (columns.filter fun c => o.LeavesOpen c ∧ o.candidates c = []) =
      opened.filter fun c => o.candidates c = [] := by
    simp [opened, List.filter_filter, Bool.and_comm]
  have hseveral : (columns.filter fun c => o.LeavesOpen c ∧ 2 ≤ (o.candidates c).length) =
      opened.filter fun c => !decide (o.candidates c = []) := by
    rw [List.filter_filter]
    refine List.filter_congr fun c _ => ?_
    by_cases hc : o.LeavesOpen c
    · simp [hc, ← hc.ne_nil_iff]
    · simp [hc]
  -- of the columns left open, those with several candidates are all that have some
  rw [InferenceReport.names, report, List.map_map, hnone, hseveral]
  change (_ ++ List.map Column.name _).Perm _
  rw [← List.map_append]
  exact (List.filter_append_perm (fun c => decide (o.candidates c = [])) opened).map Column.name

theorem mem_names_report_iff : name ∈ (o.report columns).names ↔
    ∃ c ∈ columns, o.LeavesOpen c ∧ c.name = name := by
  rw [(names_report_perm o columns).mem_iff]
  simp [and_assoc]

theorem report_isEmpty_iff : (o.report columns).isEmpty = true ↔
    ∀ c ∈ columns, ¬ o.LeavesOpen c := by
  have hnames : (o.report columns).isEmpty = true ↔ ∀ name, name ∉ (o.report columns).names := by
    rw [← List.eq_nil_iff_forall_not_mem]
    simp [InferenceReport.isEmpty, InferenceReport.names]
  rw [hnames]
  simp only [mem_names_report_iff, not_exists, not_and]
  exact ⟨fun h c hc hopen => h c.name c hc hopen rfl, fun h _ c hc hopen _ => h c hc hopen⟩

theorem lookup_override : (o.override name t).overrides.lookup key =
    if key = name then some t else o.overrides.lookup key := by
  rw [override, List.lookup_cons]
  split_ifs with hkey
  · rw [beq_iff_eq.2 hkey]
  · rw [beq_eq_false_iff_ne.2 hkey]
    exact lookup_filter_ne hkey

theorem overrideAll_concat (given : List (String × DataType)) (p : String × DataType) :
    o.overrideAll (given ++ [p]) = (o.overrideAll given).override p.1 p.2 := by
  rw [overrideAll, List.foldl_concat, overrideAll]

/-- The type given last for a column counts. -/
theorem lookup_overrideAll : (o.overrideAll given).overrides.lookup key =
    (given.reverse.lookup key).or (o.overrides.lookup key) := by
  induction given using List.reverseRecOn with
  | nil => rfl
  | append_singleton given p ih =>
    rw [overrideAll_concat, lookup_override, ih, List.reverse_concat, List.lookup_cons]
    split_ifs with hkey
    · rw [beq_iff_eq.2 hkey, Option.some_or]
    · rw [beq_eq_false_iff_ne.2 hkey]

theorem candidates_overrideAll : (o.overrideAll given).candidates c = o.candidates c := by
  induction given generalizing o with
  | nil => rfl
  | cons p given ih => exact ih

end InferOptions

namespace Inferred

open InferOptions

variable {o : InferOptions} {r : Inferred} {c : Column} {types : List DataType}

theorem report_add (o : InferOptions) (r : Inferred) (c : Column) : (add o r c).report =
    ⟨r.report.unresolved ++ (o.report [c]).unresolved,
      r.report.ambiguous ++ (o.report [c]).ambiguous⟩ := by
  by_cases hc : o.LeavesOpen c
  · have hcandidates : inferColumn c o.strict o.aggressiveNull = o.candidates c := rfl
    have hone := hc.2
    rw [add, hc.1, hcandidates]
    rcases hmatch : o.candidates c with _ | ⟨s, _ | ⟨t, rest⟩⟩
    · simp [InferOptions.report, hc, hmatch]
    · simp [hmatch] at hone
    · simp [InferOptions.report, hc, hmatch]
  · obtain ⟨t, ht⟩ := exists_settles_iff.2 hc
    rw [add_of_settles ht, report_singleton_of_not_leavesOpen hc]
    simp

/-- Over a list of columns, what each of them adds to the report. -/
theorem report_foldl_add (o : InferOptions) (columns : List Column) (r : Inferred) :
    (columns.foldl (add o) r).report =
      ⟨r.report.unresolved ++ (o.report columns).unresolved,
        r.report.ambiguous ++ (o.report columns).ambiguous⟩ := by
  induction columns generalizing r with
  | nil => simp [InferOptions.report]
  | cons c columns ih =>
    rw [List.foldl_cons, ih, report_add, report_cons c columns]
    simp only [List.append_assoc]

theorem columns_foldl_add {type : Column → DataType} {columns : List Column}
    (h : ∀ c ∈ columns, o.Settles c (type c)) (r : Inferred) :
    (columns.foldl (add o) r).columns = r.columns ++ columns.map fun c => (c.name, type c) := by
  induction columns generalizing r with
  | nil => simp
  | cons c columns ih =>
    obtain ⟨hc, hcolumns⟩ := List.forall_mem_cons.1 h
    rw [List.foldl_cons, ih hcolumns, add_of_settles hc]
    simp

end Inferred

variable {f : Frame} {o : InferOptions} {r : InferenceReport} {c : Column}
  {given : List (String × DataType)}

theorem report_inferFrame (o : InferOptions) (columns : List Column) :
    (inferFrame o columns).report = o.report columns := by
  rw [inferFrame, Inferred.report_foldl_add]
  rfl

theorem inferSchema_of_leavesOpen (h : ∃ c ∈ f.columns, o.LeavesOpen c) :
    inferSchema f o = .error (.undetermined (o.report f.columns)) := by
  have hreport : ¬ (o.report f.columns).isEmpty = true := by
    rw [InferOptions.report_isEmpty_iff]
    push Not
    exact h
  rw [inferSchema, report_inferFrame, if_neg hreport]

theorem inferSchema_of_settles {type : Column → DataType}
    (h : ∀ c ∈ f.columns, o.Settles c (type c)) :
    inferSchema f o = Schema.ofColumns (f.columns.map fun c => (c.name, type c)) := by
  have hreport : (o.report f.columns).isEmpty = true :=
    InferOptions.report_isEmpty_iff.2 fun c hc => InferOptions.not_leavesOpen_of_settles (h c hc)
  rw [inferSchema, report_inferFrame, if_pos hreport, inferFrame, Inferred.columns_foldl_add h]
  rfl

theorem inferSchema_eq_undetermined_iff : inferSchema f o = .error (.undetermined r) ↔
    (∃ c ∈ f.columns, o.LeavesOpen c) ∧ r = o.report f.columns := by
  by_cases hopen : ∃ c ∈ f.columns, o.LeavesOpen c
  · rw [inferSchema_of_leavesOpen hopen]
    simp [hopen, eq_comm]
  · have hsettled : ∀ c ∈ f.columns, ∃ t, o.Settles c t := fun c hc =>
      InferOptions.exists_settles_iff.2 fun hc' => hopen ⟨c, hc, hc'⟩
    choose! type htype using hsettled
    rw [inferSchema_of_settles htype]
    simp [hopen, Schema.ofColumns_eq_error_iff]

namespace InferOptions

theorem settles_iff {t : DataType} : o.Settles c t ↔ o.overrides.lookup c.name = some t ∨
    (o.overrides.lookup c.name = none ∧ o.candidates c = [t]) := Iff.rfl

theorem exists_settles_of_given (hopen : o.LeavesOpen c) (hgiven : c.name ∈ given.map Prod.fst) :
    ∃ t, (o.overrideAll given).Settles c t ∧ o.Remedied given c (c.name, t) := by
  rw [← List.mem_reverse, ← List.map_reverse, ← isSome_lookup_iff] at hgiven
  obtain ⟨t, ht⟩ := Option.isSome_iff_exists.1 hgiven
  refine ⟨t, .inl ?_, rfl, fun _ => List.mem_reverse.1 (mem_of_lookup ht), ?_, ?_⟩
  · rw [lookup_overrideAll, ht, Option.some_or]
  · intro s hs
    cases hopen.1.symm.trans hs
  · intro _ hnot
    exact absurd hopen hnot

/-- What is given for other columns leaves a column as it was. -/
theorem exists_settles_of_not_given (hopen : ¬ o.LeavesOpen c)
    (hgiven : c.name ∉ given.map Prod.fst) :
    ∃ t, (o.overrideAll given).Settles c t ∧ o.Remedied given c (c.name, t) := by
  have hlookup : (o.overrideAll given).overrides.lookup c.name = o.overrides.lookup c.name := by
    rw [← List.mem_reverse, ← List.map_reverse, ← lookup_eq_none_iff_notMem] at hgiven
    rw [lookup_overrideAll, hgiven, Option.none_or]
  obtain ⟨t, ht⟩ := exists_settles_iff.2 hopen
  refine ⟨t, ?_, rfl, fun hopen' => absurd hopen' hopen, ?_, ?_⟩
  · rwa [settles_iff, hlookup, candidates_overrideAll]
  · intro s hs
    rcases ht with ht | ⟨hnone, -⟩
    · exact Option.some.inj (ht.symm.trans hs)
    · cases hnone.symm.trans hs
  · intro hnone _
    rcases ht with ht | ⟨-, ht⟩
    · cases hnone.symm.trans ht
    · exact ht

theorem mem_given_iff (hnodup : f.names.Nodup)
    (hgiven : (given.map Prod.fst).Perm (o.report f.columns).names) (hc : c ∈ f.columns) :
    c.name ∈ given.map Prod.fst ↔ o.LeavesOpen c := by
  rw [hgiven.mem_iff, mem_names_report_iff]
  constructor
  · rintro ⟨d, hd, hopen, hname⟩
    rwa [← List.inj_on_of_nodup_map hnodup hd hc hname]
  · exact fun hopen => ⟨c, hc, hopen, rfl⟩

theorem exists_settles_overrideAll (hnodup : f.names.Nodup)
    (hgiven : (given.map Prod.fst).Perm (o.report f.columns).names) (hc : c ∈ f.columns) :
    ∃ t, (o.overrideAll given).Settles c t ∧ o.Remedied given c (c.name, t) := by
  have hreported := mem_given_iff hnodup hgiven hc
  by_cases hopen : o.LeavesOpen c
  · exact exists_settles_of_given hopen (hreported.2 hopen)
  · exact exists_settles_of_not_given hopen (mt hreported.1 hopen)

end InferOptions

/-- A frame is refused exactly when it has columns left open, with a report of them all; and types
given for the reported columns, whichever they are, settle a frame with distinct names. -/
theorem inferSchema_report_remedied (f : Frame) (o : InferOptions) :
    (∀ r, inferSchema f o = .error (.undetermined r) ↔
        (∃ c ∈ f.columns, o.LeavesOpen c) ∧ r = o.report f.columns) ∧
      (f.names.Nodup → ∀ given : List (String × DataType),
        (given.map Prod.fst).Perm (o.report f.columns).names →
        ∃ s, inferSchema f (o.overrideAll given) = .ok s ∧
          List.Forall₂ (o.Remedied given) f.columns s.columns) := by
  refine ⟨fun r => inferSchema_eq_undetermined_iff, fun hnodup given hgiven => ?_⟩
  have hsettled : ∀ c ∈ f.columns, ∃ t, (o.overrideAll given).Settles c t ∧
      o.Remedied given c (c.name, t) :=
    fun c hc => InferOptions.exists_settles_overrideAll hnodup hgiven hc
  choose! type htype using hsettled
  have hnames : ((f.columns.map fun c => (c.name, type c)).map Prod.fst).Nodup := by
    rw [List.map_map]
    exact hnodup
  refine ⟨.ofDistinct _ hnames, ?_, ?_⟩
  · rw [inferSchema_of_settles fun c hc => (htype c hc).1, Schema.ofColumns_of_nodup hnames]
  · rw [Schema.columns_ofDistinct, List.forall₂_map_right_iff, List.forall₂_same]
    exact fun c hc => (htype c hc).2

/-- A column of dates has no candidate, and a boolean among texts gives two. -/
theorem inferSchema_report_remedied_dates :
    let f : Frame := ⟨[.ofValues "day" [.date ⟨2020, 1, 2, by decide⟩], .ofValues "n" [.int 1],
      .ofValues "c" [.bool true, .str "x"]]⟩
    let given : List (String × DataType) := [("c", .string), ("day", .date)]
    inferSchema f {} = .error (.undetermined ⟨["day"], [("c", [.boolean, .string])]⟩) ∧
      ∃ s, inferSchema f (InferOptions.overrideAll {} given) = .ok s ∧
        List.Forall₂ (InferOptions.Remedied {} given) f.columns s.columns := by
  intro f given
  have hreport : InferOptions.report {} f.columns = ⟨["day"], [("c", [.boolean, .string])]⟩ := by
    cbv
  obtain ⟨hrefused, hremedied⟩ := inferSchema_report_remedied f {}
  refine ⟨(hrefused _).2 ⟨⟨_, List.mem_cons_self, by decide⟩, hreport.symm⟩, ?_⟩
  refine hremedied (by decide) given ?_
  rw [hreport]
  exact .swap _ _ _

end WarehouseAdapter
