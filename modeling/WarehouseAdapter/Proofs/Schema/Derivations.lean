import Mathlib
import WarehouseAdapter.Proofs.RepeatedNames
import WarehouseAdapter.Proofs.Schema.Index

/-!
# Derivations of schemas

A schema is made from lists or derived from another schema. On the columns each derivation is an
operation on plain lists, and it is carried out exactly when the columns that it mentions exist and
the names of the result differ. So a run of derivations, in which a failed one leaves the schema as
it was, does on schemas what the plain operations do on lists of columns.
-/

namespace WarehouseAdapter

namespace Schema

variable {s t : Schema} {name : String} {names : List String} {e : SchemaError}
  {columns : List (String × DataType)}

/-- The first of some names that none of the columns has. -/
def FirstMissing (columns : List (String × DataType)) (names : List String) (name : String) :
    Prop :=
  ∃ before after, names = before ++ name :: after ∧
    (∀ n ∈ before, n ∈ columns.map Prod.fst) ∧ name ∉ columns.map Prod.fst

theorem missing?_eq_some_iff : s.missing? names = some name ↔
    FirstMissing s.columns names name := by
  rw [missing?, List.find?_eq_some_iff_append]
  constructor
  · rintro ⟨hname, before, after, hnames, hbefore⟩
    refine ⟨before, after, hnames, fun n hn => ?_, fun hmem => ?_⟩
    · have hpresent := hbefore n hn
      rw [Bool.not_not] at hpresent
      exact contains_iff.1 hpresent
    · rw [contains_iff.2 hmem] at hname
      cases hname
  · rintro ⟨before, after, hnames, hbefore, hname⟩
    refine ⟨?_, before, after, hnames, fun n hn => ?_⟩
    · rwa [Bool.not_eq_true', ← Bool.not_eq_true, contains_iff]
    · rw [Bool.not_not]
      exact contains_iff.2 (hbefore n hn)

theorem missing?_eq_none_iff : s.missing? names = none ↔
    ∀ name ∈ names, name ∈ s.columns.map Prod.fst := by
  rw [missing?, List.find?_eq_none]
  exact forall₂_congr fun n _ => by rw [Bool.not_eq_true', Bool.not_eq_false, contains_iff]

/-- Equally many names and types make a schema of the columns side by side. -/
theorem ofLists_eq_ofColumns {types : List DataType} (h : names.length = types.length) :
    ofLists names types = ofColumns (names.zip types) := by
  rw [ofColumns, List.map_fst_zip h.le, List.map_snd_zip h.ge]

theorem ofColumns_of_nodup (h : (columns.map Prod.fst).Nodup) :
    ofColumns columns = .ok (ofDistinct columns h) := by
  rw [ofColumns, ofLists, dif_pos (by simp), dif_pos h]
  rfl

theorem ofColumns_of_not_nodup (h : ¬ (columns.map Prod.fst).Nodup) :
    ofColumns columns = .error (.repeatedNames (repeatedNames (columns.map Prod.fst))) := by
  rw [ofColumns, ofLists, dif_pos (by simp), dif_neg h]

theorem ofColumns_eq_ok_iff : ofColumns columns = .ok t ↔
    (columns.map Prod.fst).Nodup ∧ t.columns = columns := by
  by_cases hdistinct : (columns.map Prod.fst).Nodup
  · rw [ofColumns_of_nodup hdistinct]
    constructor
    · rintro ⟨⟩
      exact ⟨hdistinct, columns_ofDistinct hdistinct⟩
    · rintro ⟨-, ht⟩
      exact congrArg _ (eq_of_columns_eq ((columns_ofDistinct hdistinct).trans ht.symm))
  · simp [ofColumns_of_not_nodup hdistinct, hdistinct]

theorem ofColumns_eq_error_iff : ofColumns columns = .error e ↔
    ¬ (columns.map Prod.fst).Nodup ∧ e = .repeatedNames (repeatedNames (columns.map Prod.fst)) := by
  by_cases hdistinct : (columns.map Prod.fst).Nodup
  · simp [ofColumns_of_nodup hdistinct, hdistinct]
  · simp [ofColumns_of_not_nodup hdistinct, hdistinct, eq_comm]

theorem ofColumns_columns (s : Schema) : ofColumns s.columns = .ok s :=
  ofColumns_eq_ok_iff.2 ⟨s.nodup_columns, rfl⟩

/-- New names beside the old types. -/
theorem zip_map_names (s : Schema) (f : String → String) :
    (s.names.map f).zip s.types = s.columns.map fun c => (f c.1, c.2) := by
  rw [List.zip_map_left]
  rfl

theorem column_eq (s : Schema) (name : String) :
    s.column name = match s.columns.find? (·.1 == name) with
      | some c => .ok c
      | none => .error (.columnNotFound name) := by
  rw [column, get?_eq_find?]
  cases hfound : s.columns.find? (·.1 == name) with
  | none => rfl
  | some c =>
    have hname : c.1 = name := by simpa using List.find?_some hfound
    rw [← hname]
    rfl

/-- The columns found for some names come together until a name is missing. -/
theorem mapM_column_eq (s : Schema) (names : List String) :
    names.mapM s.column = match s.missing? names with
      | some name => .error (.columnNotFound name)
      | none => .ok (names.filterMap fun name => s.columns.find? (·.1 == name)) := by
  induction names with
  | nil => rfl
  | cons name rest ih =>
    rw [List.mapM_cons, column_eq, ih]
    have hcontains : s.contains name = (s.columns.find? (·.1 == name)).isSome := by
      rw [contains_eq_any, List.isSome_find?]
    cases hfound : s.columns.find? (·.1 == name) with
    | none =>
      rw [hfound] at hcontains
      simp [missing?, hcontains, bind, Except.bind]
    | some c =>
      rw [hfound] at hcontains
      have hmissing : s.missing? (name :: rest) = s.missing? rest := by
        simp [missing?, hcontains]
      rw [hmissing, List.filterMap_cons, hfound]
      cases s.missing? rest <;> rfl

theorem renamed_eq (mapping : List (String × String)) (name : String) :
    renamed mapping name = ((mapping.find? (·.1 == name)).map Prod.snd).getD name := by
  rw [renamed]
  congr 1
  induction mapping with
  | nil => rfl
  | cons r rest ih =>
    rw [List.lookup_cons, List.find?_cons, BEq.comm]
    cases hname : r.1 == name with
    | true => simp
    | false => simp [ih]

/-- A way to come from a schema to the next one. -/
inductive Derivation
  | empty
  | ofLists (names : List String) (types : List DataType)
  | ofColumns (columns : List (String × DataType))
  | delete (names : List String)
  | append (t : Schema)
  | project (names : List String)
  | rename (mapping : List (String × String))

namespace Derivation

variable {d : Derivation}

def apply (s : Schema) : Derivation → Except SchemaError Schema
  | empty => .ok Schema.empty
  | ofLists names types => Schema.ofLists names types
  | ofColumns columns => Schema.ofColumns columns
  | delete names => s.delete names
  | append t => s.append t
  | project names => s.project names
  | rename mapping => s.rename mapping

/-- The names of the columns that a derivation asks for. -/
def mentioned : Derivation → List String
  | delete names => names
  | project names => names
  | rename mapping => mapping.map Prod.fst
  | _ => []

/-- The operation on plain lists of columns. -/
def onColumns (columns : List (String × DataType)) : Derivation → List (String × DataType)
  | empty => []
  | ofLists names types => names.zip types
  | ofColumns given => given
  | delete names => columns.filter fun c => c.1 ∉ names
  | append t => columns ++ t.columns
  | project names => names.filterMap fun name => columns.find? (·.1 == name)
  | rename mapping => columns.map fun c =>
    (((mapping.find? (·.1 == c.1)).map Prod.snd).getD c.1, c.2)

/-- Names and types that are given as two lists are equally many. -/
def CountsMatch : Derivation → Prop
  | ofLists names types => names.length = types.length
  | _ => True

/-- Every column that is asked for exists. -/
def Known (columns : List (String × DataType)) (d : Derivation) : Prop :=
  ∀ name ∈ d.mentioned, name ∈ columns.map Prod.fst

/-- The names of the result differ. -/
def Unrepeated (columns : List (String × DataType)) (d : Derivation) : Prop :=
  ((d.onColumns columns).map Prod.fst).Nodup

def Permitted (columns : List (String × DataType)) (d : Derivation) : Prop :=
  d.CountsMatch ∧ d.Known columns ∧ d.Unrepeated columns

instance : DecidablePred CountsMatch
  | ofLists names types => inferInstanceAs (Decidable (names.length = types.length))
  | empty | ofColumns _ | delete _ | append _ | project _ | rename _ => .isTrue trivial

instance (columns : List (String × DataType)) : DecidablePred (Permitted columns) := fun d =>
  inferInstanceAs (Decidable (d.CountsMatch ∧ (∀ name ∈ d.mentioned, name ∈ columns.map Prod.fst) ∧
    ((d.onColumns columns).map Prod.fst).Nodup))

/-- What a derivation fails with: a name is reported as repeated only when none is missing. -/
inductive Fault (columns : List (String × DataType)) : Derivation → SchemaError → Prop
  | counts {names : List String} {types : List DataType} (h : names.length ≠ types.length) :
    Fault columns (ofLists names types) (.countMismatch names.length types.length)
  | missing {d : Derivation} {name : String} (h : FirstMissing columns d.mentioned name) :
    Fault columns d (.columnNotFound name)
  | repeated {d : Derivation} (hcounts : d.CountsMatch) (hknown : d.Known columns)
    (h : ¬ d.Unrepeated columns) :
    Fault columns d (.repeatedNames (repeatedNames ((d.onColumns columns).map Prod.fst)))

theorem apply_eq (s : Schema) (hcounts : d.CountsMatch) :
    d.apply s = match s.missing? d.mentioned with
      | some name => .error (.columnNotFound name)
      | none => Schema.ofColumns (d.onColumns s.columns) := by
  cases d with
  | empty => exact (ofColumns_columns Schema.empty).symm
  | ofLists names types => exact ofLists_eq_ofColumns hcounts
  | ofColumns given => rfl
  | delete names =>
    have hkept : (s.columns.filter fun c => !names.contains c.1) =
        s.columns.filter fun c => c.1 ∉ names := List.filter_congr fun c _ => by simp
    rw [apply, Schema.delete, hkept]
    rfl
  | append t => rfl
  | project names =>
    rw [apply, Schema.project, mapM_column_eq]
    cases hmissing : s.missing? names <;> simp only [mentioned, hmissing] <;> rfl
  | rename mapping =>
    have hlength : (s.names.map (renamed mapping)).length = s.types.length := by
      rw [List.length_map, s.aligned]
    rw [apply, Schema.rename, ofLists_eq_ofColumns hlength, zip_map_names]
    simp only [renamed_eq]
    rfl

theorem apply_ofLists {names : List String} {types : List DataType}
    (h : names.length ≠ types.length) :
    (ofLists names types).apply s = .error (.countMismatch names.length types.length) := dif_neg h

theorem exists_eq_ofLists (h : ¬ d.CountsMatch) :
    ∃ names types, d = ofLists names types ∧ names.length ≠ types.length := by
  cases d with
  | ofLists names types => exact ⟨names, types, rfl, h⟩
  | empty | ofColumns | delete | append | project | rename => exact absurd trivial h

theorem not_known_of_missing? (h : s.missing? d.mentioned = some name) :
    ¬ d.Known s.columns := by
  intro hknown
  rw [missing?_eq_none_iff.2 hknown] at h
  cases h

theorem apply_eq_ok_iff :
    d.apply s = .ok t ↔ d.Permitted s.columns ∧ t.columns = d.onColumns s.columns := by
  by_cases hcounts : d.CountsMatch
  · rw [apply_eq s hcounts]
    cases hmissing : s.missing? d.mentioned with
    | some name => simp [Permitted, not_known_of_missing? hmissing]
    | none =>
      have hknown : d.Known s.columns := missing?_eq_none_iff.1 hmissing
      simp [Permitted, hcounts, hknown, ofColumns_eq_ok_iff, Unrepeated]
  · obtain ⟨names, types, rfl, hne⟩ := exists_eq_ofLists hcounts
    simp [apply_ofLists hne, Permitted, hcounts]

theorem exists_apply_eq_ok_iff : (∃ t, d.apply s = .ok t) ↔ d.Permitted s.columns := by
  constructor
  · rintro ⟨t, ht⟩
    exact (apply_eq_ok_iff.1 ht).1
  · intro h
    exact ⟨ofDistinct _ h.2.2, apply_eq_ok_iff.2 ⟨h, columns_ofDistinct h.2.2⟩⟩

theorem apply_eq_error_iff : d.apply s = .error e ↔ d.Fault s.columns e := by
  by_cases hcounts : d.CountsMatch
  · rw [apply_eq s hcounts]
    cases hmissing : s.missing? d.mentioned with
    | some name =>
      have hfirst := missing?_eq_some_iff.1 hmissing
      constructor
      · rintro ⟨⟩
        exact .missing hfirst
      · intro hfault
        cases hfault with
        | counts h => exact absurd hcounts h
        | missing h =>
          rw [← missing?_eq_some_iff, hmissing] at h
          cases h
          rfl
        | repeated _ hknown _ => exact absurd hknown (not_known_of_missing? hmissing)
    | none =>
      have hknown : d.Known s.columns := missing?_eq_none_iff.1 hmissing
      rw [ofColumns_eq_error_iff]
      constructor
      · rintro ⟨h, rfl⟩
        exact .repeated hcounts hknown h
      · intro hfault
        cases hfault with
        | counts h => exact absurd hcounts h
        | missing h =>
          rw [← missing?_eq_some_iff, hmissing] at h
          cases h
        | repeated _ _ h => exact ⟨h, rfl⟩
  · obtain ⟨names, types, rfl, hne⟩ := exists_eq_ofLists hcounts
    rw [apply_ofLists hne]
    constructor
    · rintro ⟨⟩
      exact .counts hne
    · intro hfault
      cases hfault with
      | counts => rfl
      | missing h =>
        obtain ⟨before, after, hmentioned, -⟩ := h
        simp [mentioned] at hmentioned
      | repeated h => exact absurd h hcounts

/-- A derivation does to a schema what the plain operation does to the list of columns. -/
structure Refines (s : Schema) (d : Derivation) : Prop where
  succeeds : (∃ t, d.apply s = .ok t) ↔ d.Permitted s.columns
  result : ∀ t, d.apply s = .ok t → t.columns = d.onColumns s.columns
  fails : ∀ e, d.apply s = .error e ↔ d.Fault s.columns e
  reported : ∀ names, d.apply s = .error (.repeatedNames names) → names.Nodup ∧
    ∀ name, name ∈ names ↔ 2 ≤ ((d.onColumns s.columns).map Prod.fst).count name

theorem refines (s : Schema) (d : Derivation) : d.Refines s where
  succeeds := exists_apply_eq_ok_iff
  result _ ht := (apply_eq_ok_iff.1 ht).2
  fails _ := apply_eq_error_iff
  reported names h := by
    cases apply_eq_error_iff.1 h with
    | repeated => exact ⟨nodup_repeatedNames _, fun _ => mem_repeatedNames_iff⟩

/-- The schema after a derivation; a failed one leaves it as it was. -/
def step (s : Schema) (d : Derivation) : Schema :=
  match d.apply s with
  | .ok t => t
  | .error _ => s

/-- The columns after a derivation on plain lists, which is left out unless it is permitted. -/
def stepColumns (columns : List (String × DataType)) (d : Derivation) :
    List (String × DataType) :=
  if d.Permitted columns then d.onColumns columns else columns

theorem step_columns (s : Schema) (d : Derivation) :
    (step s d).columns = stepColumns s.columns d := by
  cases hd : d.apply s with
  | ok t =>
    obtain ⟨hpermitted, ht⟩ := apply_eq_ok_iff.1 hd
    rw [step, hd, stepColumns, if_pos hpermitted, ht]
  | error e =>
    have hrefused : ¬ d.Permitted s.columns := fun hpermitted => by
      obtain ⟨t, ht⟩ := exists_apply_eq_ok_iff.2 hpermitted
      rw [hd] at ht
      cases ht
    rw [step, hd, stepColumns, if_neg hrefused]

theorem foldl_step_columns (s : Schema) (ds : List Derivation) :
    (ds.foldl step s).columns = ds.foldl stepColumns s.columns := by
  induction ds generalizing s with
  | nil => rfl
  | cons d rest ih => rw [List.foldl_cons, List.foldl_cons, ih, step_columns]

end Derivation

/-- The schema that a run of derivations makes of the empty one. -/
def derive (ds : List Derivation) : Schema := ds.foldl Derivation.step empty

theorem derive_refines_lists (ds : List Derivation) :
    (derive ds).Indexed ∧ (derive ds).columns = ds.foldl Derivation.stepColumns [] ∧
      ∀ d : Derivation, d.Refines (derive ds) :=
  ⟨indexed _, Derivation.foldl_step_columns empty ds, fun d => d.refines (derive ds)⟩

/-- Two columns exchange their names in one renaming. -/
example : (derive [.ofColumns [("a", .primitive .int64), ("b", .primitive .string)],
    .rename [("a", "b"), ("b", "a")]]).columns =
      [("b", .primitive .int64), ("a", .primitive .string)] := by decide

end Schema

end WarehouseAdapter
