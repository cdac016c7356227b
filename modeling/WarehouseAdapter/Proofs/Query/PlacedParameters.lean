import WarehouseAdapter.Proofs.Query.Occurrences
import WarehouseAdapter.Proofs.Query.Walks

/-!
# Parameters at their places

A parameter goes by the name of the alias directly over its place, and by its default name where
there is none; the alias of an alias is over no parameter. The search for parameters is a walk that
prunes what it has matched. It matches an alias instead of the parameter below, and misses nothing
by that: below a match there is the matched parameter at most.
-/

namespace WarehouseAdapter.Expr

/-- The name that an expression gives to the one directly below it. -/
def alias? : Expr → Option String
  | named _ name => some name
  | _ => none

/-- The name of the alias directly over a place. -/
def aliasOver? (root : Expr) (place : List ℕ) : Option String :=
  if place = [] then none else (root.at? place.dropLast).bind alias?

/-- A parameter with a place for it and a name to go by there. -/
structure Placed where
  place : List ℕ
  param : ScalarParameter
  name : String

namespace Placed

def below (i : ℕ) (x : Placed) : Placed := { x with place := i :: x.place }

/-- The parameter and its name, without the place. -/
def naming (x : Placed) : ScalarParameter × String := (x.param, x.name)

/-- The parameter stands at the place, and this is the name by which it goes there. -/
structure In (x : Placed) (root : Expr) : Prop where
  at_place : root.at? x.place = some (.parameter x.param)
  name_eq : x.name = (root.aliasOver? x.place).getD x.param.defaultName

/-- The parameter stands in one of some children that are numbered from `i` on. -/
def InSome (i : ℕ) (es : List Expr) (x : Placed) : Prop :=
  ∃ (j : ℕ) (c : Expr) (y : Placed), es[j]? = some c ∧ y.In c ∧ x = y.below (i + j)

end Placed

/-- All the parameters that stand somewhere, each once and from left to right. -/
structure Lists (stands : Placed → Prop) (places : List Placed) : Prop where
  ascending : (places.map Placed.place).Pairwise (· < ·)
  mem_iff : ∀ x, x ∈ places ↔ stands x

variable {e c : Expr} {rest : List Expr} {i : ℕ} {place : List ℕ} {x : Placed}
  {places more : List Placed} {p : ScalarParameter} {name : String}

theorem at?_cons : e.at? (i :: place) = e.children[i]?.bind fun c => c.at? place := rfl

theorem aliasOver?_singleton : e.aliasOver? [i] = e.alias? := rfl

theorem aliasOver?_cons (h : place ≠ []) :
    e.aliasOver? (i :: place) = e.children[i]?.bind fun c => c.aliasOver? place := by
  rw [aliasOver?, if_neg (List.cons_ne_nil _ _), List.dropLast_cons_of_ne_nil h, at?_cons,
    Option.bind_assoc]
  simp only [aliasOver?, if_neg h]

/-- What the search answers at an alias of a parameter, at a parameter, and elsewhere. -/
theorem visitParameter_cases (e : Expr) :
    (∃ p name, e = named (parameter p) name ∧ visitParameter e = (.prune, some (p, name))) ∨
      (∃ p, e = parameter p ∧ visitParameter e = (.prune, some (p, p.defaultName))) ∨
      (∀ p, e ≠ parameter p) ∧ (e.alias? = none ∨ ∀ p, parameter p ∉ e.children) ∧
        visitParameter e = (.proceed, none) := by
  cases e with
  | parameter p => exact .inr (.inl ⟨p, rfl, rfl⟩)
  | named e name =>
    cases e with
    | parameter p => exact .inl ⟨p, name, rfl, rfl⟩
    | _ => exact .inr (.inr ⟨by simp, .inr (by simp [children]), rfl⟩)
  | _ => exact .inr (.inr ⟨by simp, .inl rfl, rfl⟩)

namespace Placed

theorem in_parameter_iff : x.In (parameter p) ↔ x = ⟨[], p, p.defaultName⟩ := by
  obtain ⟨place, q, name⟩ := x
  constructor
  · rintro ⟨hplace, hname⟩
    cases place with
    | nil =>
      cases hplace
      obtain rfl : name = q.defaultName := hname
      rfl
    | cons i below => cases hplace
  · rintro ⟨⟩
    exact ⟨rfl, rfl⟩

theorem in_named_parameter_iff : x.In (named (parameter p) name) ↔ x = ⟨[0], p, name⟩ := by
  obtain ⟨place, q, m⟩ := x
  constructor
  · rintro ⟨hplace, hname⟩
    rcases place with _ | ⟨_ | i, _ | ⟨j, below⟩⟩
    · cases hplace
    · cases hplace
      obtain rfl : m = name := hname
      rfl
    all_goals cases hplace
  · rintro ⟨⟩
    exact ⟨rfl, rfl⟩

/-- A child's parameters are those of the whole, but for a parameter directly below an alias. -/
theorem in_below_iff (hc : e.children[i]? = some c)
    (h : e.alias? = none ∨ ∀ p, c ≠ parameter p) : (x.below i).In e ↔ x.In c := by
  have hat : e.at? (i :: x.place) = c.at? x.place := by rw [at?_cons, hc, Option.bind_some]
  have halias : c.at? x.place = some (parameter x.param) →
      e.aliasOver? (i :: x.place) = c.aliasOver? x.place := by
    intro hplace
    by_cases hnil : x.place = []
    · rw [hnil] at hplace ⊢
      exact aliasOver?_singleton.trans (h.resolve_right fun hne => hne _ (Option.some.inj hplace))
    · rw [aliasOver?_cons hnil, hc, Option.bind_some]
  constructor
  · rintro ⟨hplace, hname⟩
    have hplace' := hat.symm.trans hplace
    exact ⟨hplace', hname.trans (congrArg (Option.getD · _) (halias hplace'))⟩
  · rintro ⟨hplace, hname⟩
    exact ⟨hat.trans hplace, hname.trans (congrArg (Option.getD · _) (halias hplace).symm)⟩

theorem in_iff_inSome (hparameter : ∀ p, e ≠ parameter p)
    (halias : e.alias? = none ∨ ∀ p, parameter p ∉ e.children) :
    x.In e ↔ InSome 0 e.children x := by
  have hchild : ∀ {j c}, e.children[j]? = some c → e.alias? = none ∨ ∀ p, c ≠ parameter p :=
    fun hc => halias.imp_right fun h p hp => h p (hp ▸ List.mem_of_getElem? hc)
  constructor
  · intro hx
    have hplace := hx.at_place
    obtain ⟨_ | ⟨j, place⟩, p, name⟩ := x
    · exact absurd (Option.some.inj hplace) (hparameter p)
    · obtain ⟨c, hc, -⟩ := Option.bind_eq_some_iff.1 hplace
      refine ⟨j, c, ⟨place, p, name⟩, hc, (in_below_iff hc (hchild hc)).1 hx, ?_⟩
      rw [below, Nat.zero_add]
  · rintro ⟨j, c, y, hc, hy, rfl⟩
    rw [Nat.zero_add]
    exact (in_below_iff hc (hchild hc)).2 hy

theorem inSome_cons_iff :
    x.InSome i (c :: rest) ↔ (∃ y : Placed, y.In c ∧ y.below i = x) ∨ x.InSome (i + 1) rest := by
  constructor
  · rintro ⟨_ | j, c', y, hc, hy, rfl⟩
    · cases hc
      exact .inl ⟨y, hy, rfl⟩
    · exact .inr ⟨j, c', y, hc, hy, by rw [Nat.add_right_comm, Nat.add_assoc]⟩
  · rintro (⟨y, hy, rfl⟩ | ⟨j, c', y, hc, hy, rfl⟩)
    · exact ⟨0, c, y, rfl, hy, rfl⟩
    · exact ⟨j + 1, c', y, hc, hy, by rw [Nat.add_right_comm, Nat.add_assoc]⟩

end Placed

theorem lists_nil : Lists (Placed.InSome i []) [] where
  ascending := .nil
  mem_iff x := by simp [Placed.InSome]

theorem Lists.cons (hplaces : Lists (Placed.In · c) places)
    (hmore : Lists (Placed.InSome (i + 1) rest) more) :
    Lists (Placed.InSome i (c :: rest)) (places.map (Placed.below i) ++ more) where
  ascending := by
    have hbelow : (places.map (Placed.below i)).map Placed.place =
        (places.map Placed.place).map (List.cons i) := by
      rw [List.map_map, List.map_map]
      rfl
    rw [List.map_append, hbelow]
    refine pairwise_lt_append hplaces.ascending hmore.ascending fun _ hmem => ?_
    obtain ⟨x, hx, rfl⟩ := List.mem_map.1 hmem
    obtain ⟨j, c', y, -, -, rfl⟩ := (hmore.mem_iff x).1 hx
    exact ⟨i + 1 + j, y.place, rfl, by omega⟩
  mem_iff x := by
    rw [List.mem_append, List.mem_map, hmore.mem_iff, Placed.inSome_cons_iff]
    simp only [hplaces.mem_iff]

theorem lists_singleton {stands : Placed → Prop} (h : ∀ y, stands y ↔ y = x) :
    Lists stands [x] where
  ascending := List.pairwise_singleton _ _
  mem_iff y := List.mem_singleton.trans (h y).symm

theorem map_naming_below (i : ℕ) (places : List Placed) :
    (places.map (Placed.below i)).map Placed.naming = places.map Placed.naming := by
  rw [List.map_map]
  rfl

/-- The visitor behind the search. -/
abbrev parameterVisitor : Visitor Unit (ScalarParameter × String) :=
  fun _ e => ((), visitParameter e)

theorem lists_walk_parameters (e : Expr) :
    ∃ places, Lists (Placed.In · e) places ∧
      (walk parameterVisitor () e).2.filterMap Step.found = places.map Placed.naming := by
  refine (walk_induction parameterVisitor
    (P := fun _ e r => ∃ places, Lists (Placed.In · e) places ∧
      r.2.filterMap Step.found = places.map Placed.naming)
    (Q := fun _ i es r => ∃ places, Lists (Placed.InSome i es) places ∧
      r.2.filterMap Step.found = places.map Placed.naming)
    ?proceed ?prune ?nil ?cons).1 () e
  case proceed =>
    intro s s' e found r hvisit ih
    obtain ⟨places, hplaces, hfound⟩ := ih
    obtain ⟨-, hvisit⟩ := Prod.mk.inj hvisit
    rcases visitParameter_cases e with
      ⟨p, name, -, h⟩ | ⟨p, -, h⟩ | ⟨hparameter, halias, h⟩
    · cases h.symm.trans hvisit
    · cases h.symm.trans hvisit
    · cases h.symm.trans hvisit
      refine ⟨places, ⟨hplaces.ascending, fun x => ?_⟩, hfound⟩
      rw [hplaces.mem_iff, Placed.in_iff_inSome hparameter halias]
  case prune =>
    intro s s' e found hvisit
    obtain ⟨-, hvisit⟩ := Prod.mk.inj hvisit
    rcases visitParameter_cases e with ⟨p, name, rfl, h⟩ | ⟨p, rfl, h⟩ | ⟨-, -, h⟩
    · cases h.symm.trans hvisit
      exact ⟨[⟨[0], p, name⟩], lists_singleton fun _ => Placed.in_named_parameter_iff, rfl⟩
    · cases h.symm.trans hvisit
      exact ⟨[⟨[], p, _⟩], lists_singleton fun _ => Placed.in_parameter_iff, rfl⟩
    · cases h.symm.trans hvisit
  case nil => exact fun i => ⟨[], lists_nil, rfl⟩
  case cons =>
    rintro s i e rest r r' ⟨places, hplaces, hfound⟩ ⟨more, hmore, hfound'⟩
    refine ⟨_, hplaces.cons hmore, ?_⟩
    rw [List.filterMap_append, filterMap_found_below, hfound, hfound', List.map_append,
      map_naming_below]

theorem lists_parameters (root : Expr) :
    ∃ places, Lists (Placed.In · root) places ∧ root.parameters = places.map Placed.naming := by
  obtain ⟨places, hplaces, hfound⟩ := lists_walk_parameters root
  refine ⟨places, hplaces, ?_⟩
  rw [parameters, collect, traverse_eq_walk, hfound]

/-- The traversal is the walk in pre-order from left to right, whatever the visitor: it visits the
same nodes in the same order and states, and gathers what was found in that order. The search for
parameters finds each of them once, from left to right, under the name that it has at its place;
these are its occurrences, constructor by constructor. -/
theorem traverse_preorder :
    (∀ (σ α : Type) (visit : Visitor σ α) (s : σ) (root : Expr),
      root.traverse visit s =
          ((root.walk visit s).1, (root.walk visit s).2.filterMap Step.found) ∧
        Threads visit s (root.walk visit s).2 (root.walk visit s).1 ∧
        InPreorder root (root.walk visit s).2) ∧
      ∀ root : Expr, root.parameters = root.occurrences ∧
        ∃ places, Lists (Placed.In · root) places ∧
          root.parameters = places.map Placed.naming := by
  constructor
  · intro σ α visit s root
    exact ⟨traverse_eq_walk visit s root, threads_walk visit s root, inPreorder_walk visit s root⟩
  · exact fun root => ⟨parameters_eq_occurrences root, lists_parameters root⟩

example (p : ScalarParameter) (t : DataType) :
    (call "f" [named (named (parameter p) "start") "outer", parameter p] t).parameters =
      [(p, "start"), (p, p.defaultName)] := by
  cbv

end WarehouseAdapter.Expr
