import WarehouseAdapter.Proofs.Query.BoundNames
import WarehouseAdapter.Proofs.Query.PlacedParameters

/-!
# Preparation of queries

A given value is bound under the name that its parameter has at its last place in the expression,
the places taken in pre-order. A query is prepared when all given values bind, and holds what they
bind to in the order given; else the first value that does not bind decides on the error.
-/

namespace WarehouseAdapter

namespace Expr

variable {root : Expr} {p : ScalarParameter} {name name' : String} {stands : Placed → Prop}
  {places : List Placed}

/-- The name of a parameter at the last of its places. -/
def GoesBy (root : Expr) (p : ScalarParameter) (name : String) : Prop :=
  ∃ x : Placed, x.In root ∧ x.param = p ∧ x.name = name ∧
    ∀ y : Placed, y.In root → y.param = p → y.place ≤ x.place

/-- In an ascending list of places, what stands behind is at a greater place. -/
theorem Lists.lastNamed_iff (h : Lists stands places) :
    LastNamed (places.map Placed.naming) p name ↔
      ∃ x, stands x ∧ x.param = p ∧ x.name = name ∧
        ∀ y, stands y → y.param = p → y.place ≤ x.place := by
  have hascending := List.pairwise_map.1 h.ascending
  constructor
  · rintro ⟨earlier, later, hsplit, hlater⟩
    obtain ⟨before, rest, rfl, rfl, hrest⟩ := List.map_eq_append_iff.1 hsplit
    obtain ⟨x, behind, rfl, hx, rfl⟩ := List.map_eq_cons_iff.1 hrest
    obtain ⟨hparam, hname⟩ := Prod.mk.inj hx
    refine ⟨x, (h.mem_iff x).1 (by simp), hparam, hname, fun y hy hyparam => ?_⟩
    rw [← h.mem_iff, List.mem_append, List.mem_cons] at hy
    rcases hy with hy | rfl | hy
    · exact ((List.pairwise_append.1 hascending).2.2 y hy x List.mem_cons_self).le
    · exact le_rfl
    · refine absurd ?_ hlater
      rw [List.map_map]
      exact List.mem_map.2 ⟨y, hy, hyparam⟩
  · rintro ⟨x, hx, rfl, rfl, hlast⟩
    obtain ⟨before, behind, rfl⟩ := List.append_of_mem ((h.mem_iff x).2 hx)
    refine ⟨before.map Placed.naming, behind.map Placed.naming, List.map_append, fun hmem => ?_⟩
    rw [List.map_map] at hmem
    obtain ⟨y, hy, hyparam⟩ := List.mem_map.1 hmem
    have hbehind : x.place < y.place :=
      (List.pairwise_cons.1 (List.pairwise_append.1 hascending).2.1).1 y hy
    exact hbehind.not_ge (hlast y ((h.mem_iff y).1 (by simp [hy])) hyparam)

theorem goesBy_iff_lastNamed : root.GoesBy p name ↔ LastNamed root.parameters p name := by
  obtain ⟨places, hplaces, hparameters⟩ := lists_parameters root
  rw [hparameters, hplaces.lastNamed_iff]
  rfl

theorem GoesBy.unique (h : root.GoesBy p name) (h' : root.GoesBy p name') : name = name' := by
  rw [goesBy_iff_lastNamed, ← parameterName?_eq_some_iff] at h h'
  exact Option.some.inj (h.symm.trans h')

theorem exists_goesBy_iff :
    (∃ name, root.GoesBy p name) ↔ ∃ x : Placed, x.In root ∧ x.param = p := by
  constructor
  · rintro ⟨name, x, hx, hparam, -⟩
    exact ⟨x, hx, hparam⟩
  · rintro ⟨x, hx, rfl⟩
    obtain ⟨places, hplaces, hparameters⟩ := lists_parameters root
    have hmem : (x.param, x.name) ∈ root.parameters :=
      hparameters ▸ List.mem_map_of_mem ((hplaces.mem_iff x).2 hx)
    simp only [goesBy_iff_lastNamed]
    exact exists_lastNamed hmem

end Expr

namespace Query

variable {statement : Statement} {billing : String} {given : List (ScalarParameter × Value)}
  {e : Expr} {g : ScalarParameter × Value} {b : BoundParameter} {q : Query} {error : QueryError}

/-- The value binds to its parameter under the name that the parameter goes by. -/
def Accepts (e : Expr) (g : ScalarParameter × Value) : Prop :=
  ∃ name, e.GoesBy g.1 name ∧ ∃ b, bindParameter name g.1.dataType g.2 = .ok b

/-- What a value is bound to, under the name that its parameter goes by. -/
def BindsTo (e : Expr) (g : ScalarParameter × Value) (b : BoundParameter) : Prop :=
  e.GoesBy g.1 b.name ∧ bindParameter b.name g.1.dataType g.2 = .ok b

/-- Why a value is not bound: its parameter stands nowhere, or does not take the value. -/
inductive Refuses (e : Expr) : ScalarParameter × Value → QueryError → Prop
  | absent {p : ScalarParameter} {v : Value} (h : ∀ x : Expr.Placed, x.In e → x.param ≠ p) :
    Refuses e (p, v) (.unboundParameter p.defaultName)
  | unbindable {p : ScalarParameter} {v : Value} {name : String} {error : BindingError}
    (hname : e.GoesBy p name) (h : bindParameter name p.dataType v = .error error) :
    Refuses e (p, v) (.binding error)

theorem bindNamed_eq_ok_iff_bindsTo : bindNamed e g = .ok b ↔ BindsTo e g b := by
  rw [bindNamed_eq_ok_iff]
  simp only [← Expr.goesBy_iff_lastNamed]
  constructor
  · rintro ⟨name, hname, hbind⟩
    obtain ⟨rfl, -⟩ := (bindParameter_succeedsIff name g.1.dataType g.2).of_ok hbind
    exact ⟨hname, hbind⟩
  · rintro ⟨hname, hbind⟩
    exact ⟨b.name, hname, hbind⟩

theorem exists_bindNamed_eq_ok_iff : (∃ b, bindNamed e g = .ok b) ↔ Accepts e g := by
  simp only [bindNamed_eq_ok_iff, ← Expr.goesBy_iff_lastNamed, Accepts]
  constructor
  · rintro ⟨b, name, hname, hbind⟩
    exact ⟨name, hname, b, hbind⟩
  · rintro ⟨name, hname, b, hbind⟩
    exact ⟨b, name, hname, hbind⟩

theorem bindNamed_eq_error_iff : bindNamed e g = .error error ↔ Refuses e g error := by
  obtain ⟨p, v⟩ := g
  rw [bindNamed]
  cases hname : e.parameterName? p with
  | none =>
    have hnowhere : ∀ name, ¬ e.GoesBy p name := by
      intro name h
      rw [Expr.goesBy_iff_lastNamed, ← Expr.parameterName?_eq_some_iff, hname] at h
      cases h
    constructor
    · rintro ⟨⟩
      refine .absent fun x hx hparam => ?_
      obtain ⟨name, h⟩ := Expr.exists_goesBy_iff.2 ⟨x, hx, hparam⟩
      exact hnowhere name h
    · intro h
      cases h with
      | absent => rfl
      | unbindable h => exact absurd h (hnowhere _)
  | some name =>
    have hgoes : e.GoesBy p name := by
      rwa [Expr.goesBy_iff_lastNamed, ← Expr.parameterName?_eq_some_iff]
    dsimp only
    rw [mapError_eq_error_iff]
    constructor
    · rintro ⟨fault, hfault, rfl⟩
      exact .unbindable hgoes hfault
    · intro h
      cases h with
      | absent h =>
        obtain ⟨x, hx, hparam⟩ := Expr.exists_goesBy_iff.1 ⟨name, hgoes⟩
        exact absurd hparam (h x hx)
      | unbindable h hfault =>
        obtain rfl := h.unique hgoes
        exact ⟨_, hfault, rfl⟩

theorem prepare_eq_ok_iff_bindsTo : prepare statement billing given = .ok q ↔
    List.Forall₂ (BindsTo statement.expr) given q.parameters ∧
      q.statement = statement ∧ q.billingProject = billing ∧ q.state = .parametersBound := by
  rw [prepare_eq_ok_iff]
  simp only [bindNamed_eq_ok_iff_bindsTo]
  constructor
  · rintro ⟨bs, hbs, rfl⟩
    exact ⟨hbs, rfl, rfl, rfl⟩
  · rintro ⟨hbs, rfl, rfl, hstate⟩
    exact ⟨q.parameters, hbs, by rw [← hstate]⟩

theorem exists_prepare_eq_ok_iff : (∃ q, prepare statement billing given = .ok q) ↔
    ∀ g ∈ given, Accepts statement.expr g := by
  simp only [← exists_bindNamed_eq_ok_iff, ← exists_forall₂_iff, prepare_eq_ok_iff]
  constructor
  · rintro ⟨q, bs, hbs, -⟩
    exact ⟨bs, hbs⟩
  · rintro ⟨bs, hbs⟩
    exact ⟨_, bs, hbs, rfl⟩

theorem prepare_eq_error_iff : prepare statement billing given = .error error ↔
    ∃ before g behind, given = before ++ g :: behind ∧
      (∀ g' ∈ before, Accepts statement.expr g') ∧ Refuses statement.expr g error := by
  have hmapM : prepare statement billing given = .error error ↔
      given.mapM (bindNamed statement.expr) = .error error := by
    rw [prepare, bind_eq_error_iff, or_iff_left]
    rintro ⟨bs, -, h⟩
    cases h
  rw [hmapM, mapM_eq_error_iff]
  simp only [exists_bindNamed_eq_ok_iff, bindNamed_eq_error_iff]

/-- A query is prepared just when each given value binds under the name at the last place of its
parameter. It then holds what the values bind to, one by one and in the order given; otherwise the
first value that does not bind decides on the error. -/
theorem prepare_bindsTo (statement : Statement) (billing : String)
    (given : List (ScalarParameter × Value)) :
    ((∃ q, prepare statement billing given = .ok q) ↔ ∀ g ∈ given, Accepts statement.expr g) ∧
      (∀ q, prepare statement billing given = .ok q ↔
        List.Forall₂ (BindsTo statement.expr) given q.parameters ∧
          q.statement = statement ∧ q.billingProject = billing ∧ q.state = .parametersBound) ∧
      ∀ error, prepare statement billing given = .error error ↔
        ∃ before g behind, given = before ++ g :: behind ∧
          (∀ g' ∈ before, Accepts statement.expr g') ∧ Refuses statement.expr g error :=
  ⟨exists_prepare_eq_ok_iff, fun _ => prepare_eq_ok_iff_bindsTo, fun _ => prepare_eq_error_iff⟩

/-- One parameter under two aliases, given twice; and another one of the same number, which stands
nowhere, before a value that its parameter does not take. -/
theorem prepare_bindsTo_aliases :
    let n : ScalarParameter := ⟨1, .int64⟩
    let day : ScalarParameter := ⟨2, .date⟩
    let e : Expr := .call "f" [.named (.parameter n) "lo", .parameter day,
      .named (.named (.parameter n) "hi") "outer"] .boolean
    let given : List (ScalarParameter × Value) :=
      [(n, .int 5), (day, .date ⟨2020, 1, 2, by decide⟩), (n, .int 7)]
    let wrong : List (ScalarParameter × Value) :=
      [(n, .int 5), (⟨1, .string⟩, .str "x"), (day, .int 1)]
    (∃ q, prepare ⟨"SELECT", e, .empty⟩ "billing" given = .ok q ∧
        List.Forall₂ (BindsTo e) given q.parameters) ∧
      (∀ g ∈ given, Accepts e g) ∧
      ∃ before g behind, wrong = before ++ g :: behind ∧ (∀ g' ∈ before, Accepts e g') ∧
        Refuses e g (.unboundParameter (ScalarParameter.defaultName ⟨1, .string⟩)) := by
  intro n day e given wrong
  let st : Statement := ⟨"SELECT", e, .empty⟩
  have hgiven : prepare st "billing" given = .ok ⟨st, "billing", [.scalar "hi" .int64 (.int64 5),
      .scalar day.defaultName .date (.date ⟨2020, 1, 2, by decide⟩),
      .scalar "hi" .int64 (.int64 7)], .parametersBound⟩ := by cbv
  have hwrong : prepare st "billing" wrong =
      .error (.unboundParameter (ScalarParameter.defaultName ⟨1, .string⟩)) := by cbv
  obtain ⟨hsucceeds, hholds, -⟩ := prepare_bindsTo st "billing" given
  obtain ⟨-, -, hfails⟩ := prepare_bindsTo st "billing" wrong
  exact ⟨⟨_, hgiven, ((hholds _).1 hgiven).1⟩, hsucceeds.1 ⟨_, hgiven⟩, (hfails _).1 hwrong⟩

end Query

end WarehouseAdapter
