import WarehouseAdapter.Proofs.Parameter.Admission
import WarehouseAdapter.Proofs.Query.Occurrences
import WarehouseAdapter.Query.Execution

/-!
# Names of bound parameters

A query binds each given parameter once, under the name that it has at its last place in the
expression. Its names at earlier places are left out, and nothing keeps two parameters from having
one name. So each name of a given parameter is bound, and bound once, exactly when the names at the
last places are all the names there are and differ from each other.
-/

namespace WarehouseAdapter

variable {places : List (ScalarParameter × String)} {supplied : List ScalarParameter}
  {names : List String} {name : String}

/-- Each name that the supplied parameters go by is bound once, and no other name is bound. -/
def BindsNames (places : List (ScalarParameter × String)) (supplied : List ScalarParameter)
    (names : List String) : Prop :=
  names.Nodup ∧ ∀ name, name ∈ names ↔ ∃ p ∈ supplied, (p, name) ∈ places

/-- Every name of a supplied parameter is the last name of one. -/
def LastNamesSuffice (places : List (ScalarParameter × String))
    (supplied : List ScalarParameter) : Prop :=
  ∀ p ∈ supplied, ∀ name, (p, name) ∈ places → ∃ r ∈ supplied, LastNamed places r name

def LastNamesDiffer (places : List (ScalarParameter × String))
    (supplied : List ScalarParameter) : Prop :=
  ∀ p ∈ supplied, ∀ r ∈ supplied, ∀ name, LastNamed places p name → LastNamed places r name → p = r

/-- Each supplied parameter goes by one name, which it shares with no other of them. -/
def NamedApart (places : List (ScalarParameter × String)) (supplied : List ScalarParameter) :
    Prop :=
  ∀ p ∈ supplied, ∀ r ∈ supplied, ∀ m n, (p, m) ∈ places → (r, n) ∈ places → (m = n ↔ p = r)

theorem exists_lastNamed {p : ScalarParameter} (h : (p, name) ∈ places) :
    ∃ last, LastNamed places p last := by
  cases hlast : places.reverse.lookup p with
  | some last => exact ⟨last, lookup_reverse_eq_some_iff.1 hlast⟩
  | none =>
    rw [List.lookup_eq_none_iff] at hlast
    simpa using hlast (p, name) (List.mem_reverse.2 h)

theorem map_lookup_of_lastNamed (h : List.Forall₂ (LastNamed places) supplied names) :
    (supplied.map fun p => places.reverse.lookup p) = names.map some := by
  induction h with
  | nil => rfl
  | cons hp _ ih => rw [List.map_cons, List.map_cons, lookup_reverse_eq_some_iff.2 hp, ih]

theorem mem_names_iff (h : List.Forall₂ (LastNamed places) supplied names) :
    name ∈ names ↔ ∃ p ∈ supplied, LastNamed places p name := by
  have hmem : some name ∈ names.map some ↔ name ∈ names := by simp
  rw [← hmem, ← map_lookup_of_lastNamed h, List.mem_map]
  simp only [lookup_reverse_eq_some_iff]

theorem nodup_names_iff (hnodup : supplied.Nodup)
    (h : List.Forall₂ (LastNamed places) supplied names) :
    names.Nodup ↔ LastNamesDiffer places supplied := by
  rw [← List.nodup_map_iff (Option.some_injective _), ← map_lookup_of_lastNamed h,
    List.nodup_map_iff_inj_on hnodup]
  constructor
  · intro hinj p hp r hr name hpname hrname
    apply hinj p hp r hr
    rw [lookup_reverse_eq_some_iff.2 hpname, lookup_reverse_eq_some_iff.2 hrname]
  · intro hdiffer p hp r hr heq
    obtain ⟨name, -, hname⟩ := List.mem_map.1 (show _ ∈ names.map some from
      map_lookup_of_lastNamed h ▸ List.mem_map.2 ⟨p, hp, rfl⟩)
    exact hdiffer p hp r hr name (lookup_reverse_eq_some_iff.1 hname.symm)
      (lookup_reverse_eq_some_iff.1 (heq.symm.trans hname.symm))

theorem bindsNames_iff (hnodup : supplied.Nodup)
    (h : List.Forall₂ (LastNamed places) supplied names) :
    BindsNames places supplied names ↔
      LastNamesSuffice places supplied ∧ LastNamesDiffer places supplied := by
  rw [BindsNames, nodup_names_iff hnodup h, and_comm]
  refine and_congr_left' ?_
  simp only [mem_names_iff h]
  constructor
  · intro hnames p hp name hmem
    exact (hnames name).2 ⟨p, hp, hmem⟩
  · intro hsuffice name
    constructor
    · rintro ⟨p, hp, hlast⟩
      exact ⟨p, hp, hlast.mem⟩
    · rintro ⟨p, hp, hmem⟩
      exact hsuffice p hp name hmem

theorem NamedApart.lastNames (h : NamedApart places supplied) :
    LastNamesSuffice places supplied ∧ LastNamesDiffer places supplied := by
  constructor
  · intro p hp name hmem
    obtain ⟨last, hlast⟩ := exists_lastNamed hmem
    obtain rfl : last = name := (h p hp p hp last name hlast.mem hmem).2 rfl
    exact ⟨p, hp, hlast⟩
  · intro p hp r hr name hpname hrname
    exact (h p hp r hr name name hpname.mem hrname.mem).1 rfl

namespace Query

variable {statement : Statement} {billing : String} {given : List (ScalarParameter × Value)}
  {q : Query}

theorem bindNamed_eq_ok_iff {e : Expr} {g : ScalarParameter × Value} {b : BoundParameter} :
    bindNamed e g = .ok b ↔
      ∃ name, LastNamed e.parameters g.1 name ∧ bindParameter name g.1.dataType g.2 = .ok b := by
  simp only [← Expr.parameterName?_eq_some_iff, bindNamed]
  cases e.parameterName? g.1 with
  | none => simp
  | some name => simp [mapError_eq_ok_iff]

theorem prepare_eq_ok_iff : prepare statement billing given = .ok q ↔
    ∃ bs, List.Forall₂ (fun g b => bindNamed statement.expr g = .ok b) given bs ∧
      q = ⟨statement, billing, bs, .parametersBound⟩ := by
  rw [prepare, bind_eq_ok_iff]
  apply exists_congr
  intro bs
  rw [mapM_eq_ok_iff]
  refine and_congr_right' ?_
  exact ⟨fun h => (Except.ok.inj h).symm, fun h => congrArg Except.ok h.symm⟩

theorem lastNamed_of_prepare (h : prepare statement billing given = .ok q) :
    List.Forall₂ (fun g b => LastNamed statement.expr.parameters g.1 b.name) given
      q.parameters := by
  obtain ⟨bs, hbs, rfl⟩ := prepare_eq_ok_iff.1 h
  refine hbs.imp fun g b hb => ?_
  obtain ⟨name, hlast, hbind⟩ := bindNamed_eq_ok_iff.1 hb
  obtain ⟨hname, -⟩ := (bindParameter_succeedsIff name g.1.dataType g.2).of_ok hbind
  rwa [hname]

/-- Each given parameter is bound once, in the order given and under the name at its last place. So
the names that the given parameters go by are bound, each of them once, exactly when the names at
the last places suffice and differ. -/
theorem names_of_prepare (h : prepare statement billing given = .ok q)
    (hnodup : (given.map Prod.fst).Nodup) :
    let places := statement.expr.parameters
    let supplied := given.map Prod.fst
    places = statement.expr.occurrences ∧
      List.Forall₂ (fun g b => LastNamed places g.1 b.name) given q.parameters ∧
      (BindsNames places supplied (q.parameters.map BoundParameter.name) ↔
        LastNamesSuffice places supplied ∧ LastNamesDiffer places supplied) ∧
      (NamedApart places supplied →
        BindsNames places supplied (q.parameters.map BoundParameter.name)) := by
  intro places supplied
  have hlast := lastNamed_of_prepare h
  have hnames : List.Forall₂ (LastNamed places) supplied
      (q.parameters.map BoundParameter.name) := by
    rwa [List.forall₂_map_left_iff, List.forall₂_map_right_iff]
  have hiff := bindsNames_iff hnodup hnames
  exact ⟨Expr.parameters_eq_occurrences _, hlast, hiff, fun hapart => hiff.2 hapart.lastNames⟩

/-- A parameter in two places under one alias, and another one that has no alias. -/
theorem names_of_prepare_apart :
    let day : ScalarParameter := ⟨1, .date⟩
    let limit : ScalarParameter := ⟨2, .int64⟩
    let e : Expr := .call "and" [.named (.parameter day) "since",
      .call "lt" [.parameter limit, .named (.parameter day) "since"] .boolean] .boolean
    let given : List (ScalarParameter × Value) :=
      [(limit, .int 5), (day, .date ⟨2020, 1, 2, by decide⟩)]
    ∃ q, prepare ⟨"SELECT", e, .empty⟩ "billing" given = .ok q ∧
      (given.map Prod.fst).Nodup ∧ NamedApart e.parameters (given.map Prod.fst) ∧
      BindsNames e.parameters (given.map Prod.fst) (q.parameters.map BoundParameter.name) := by
  intro day limit e given
  have hdefault : limit.defaultName = "param_2" := by decide +kernel
  have hplaces : e.parameters = [(day, "since"), (limit, "param_2"), (day, "since")] := by
    rw [Expr.parameters_eq_occurrences, ← hdefault]
    rfl
  have hq : prepare ⟨"SELECT", e, .empty⟩ "billing" given = .ok
      ⟨⟨"SELECT", e, .empty⟩, "billing", [.scalar "param_2" .int64 (.int64 5),
        .scalar "since" .date (.date ⟨2020, 1, 2, by decide⟩)], .parametersBound⟩ := by
    refine prepare_eq_ok_iff.2 ⟨_, .cons (bindNamed_eq_ok_iff.2 ⟨"param_2", ?_, rfl⟩)
      (.cons (bindNamed_eq_ok_iff.2 ⟨"since", ?_, rfl⟩) .nil), rfl⟩
    · rw [hplaces]
      exact ⟨[(day, "since")], [(day, "since")], rfl, by decide⟩
    · rw [hplaces]
      exact ⟨[(day, "since"), (limit, "param_2")], [], rfl, by decide⟩
  have hnodup : (given.map Prod.fst).Nodup := by decide
  have hapart : NamedApart e.parameters (given.map Prod.fst) := by
    rw [hplaces]
    simp [NamedApart, given, day, limit]
  obtain ⟨-, -, -, hbinds⟩ := names_of_prepare hq hnodup
  exact ⟨_, hq, hnodup, hapart, hbinds hapart⟩

/-- Of two aliases of one parameter only the last is bound. -/
theorem not_names_of_prepare :
    ¬ ∀ (statement : Statement) (billing : String) (given : List (ScalarParameter × Value))
      (q : Query), prepare statement billing given = .ok q → (given.map Prod.fst).Nodup →
        BindsNames statement.expr.parameters (given.map Prod.fst)
          (q.parameters.map BoundParameter.name) := by
  intro hall
  let n : ScalarParameter := ⟨1, .int64⟩
  let e : Expr := .call "add" [.named (.parameter n) "lo", .named (.parameter n) "hi"] .int64
  have hplaces : e.parameters = [(n, "lo"), (n, "hi")] := by
    rw [Expr.parameters_eq_occurrences]
    rfl
  have hq : prepare ⟨"SELECT", e, .empty⟩ "billing" [(n, .int 5)] = .ok
      ⟨⟨"SELECT", e, .empty⟩, "billing", [.scalar "hi" .int64 (.int64 5)], .parametersBound⟩ := by
    refine prepare_eq_ok_iff.2 ⟨_, .cons (bindNamed_eq_ok_iff.2 ⟨"hi", ?_, rfl⟩) .nil, rfl⟩
    rw [hplaces]
    exact ⟨[(n, "lo")], [], rfl, by decide⟩
  obtain ⟨-, hnames⟩ := hall _ _ _ _ hq (by decide)
  have hlo : "lo" ∈ ["hi"] := (hnames "lo").2 ⟨n, by simp, by rw [hplaces]; simp⟩
  exact absurd hlo (by decide)

end Query

end WarehouseAdapter
