import Mathlib
import WarehouseAdapter.Query.Lineage

/-!
# Walks through expressions

A place in an expression is the list of child numbers on the way to it from the root, so that the
order of places is that of a walk from left to right which comes to a node before what is below it.
The recursive walk visits a node and then, unless the visitor prunes it, walks through its children
in turn. The traversal, which keeps a list of pending expressions, does the same: it goes through
the first of them as the walk does and then on through the others with the state that the walk left.
-/

namespace WarehouseAdapter.Expr

/-- The subexpression at a place. -/
def at? : Expr → List ℕ → Option Expr
  | e, [] => some e
  | e, i :: place => e.children[i]?.bind fun c => c.at? place

/-- A visit of a node, with what the visitor answered. -/
structure Step (α : Type) where
  place : List ℕ
  node : Expr
  verdict : Visit
  found : Option α

variable {σ α : Type}

/-- The step as seen from a node of which its own root is a child. -/
def Step.below (i : ℕ) (a : Step α) : Step α := { a with place := i :: a.place }

mutual

/-- Visits a node and then, unless it is pruned, walks through its children. -/
def walk (visit : Visitor σ α) (s : σ) (e : Expr) : σ × List (Step α) :=
  match visit s e with
  | (s, .proceed, found) =>
    let (s, steps) := walkAll visit s 0 e.children
    (s, ⟨[], e, .proceed, found⟩ :: steps)
  | (s, .prune, found) => (s, [⟨[], e, .prune, found⟩])
termination_by 2 * e.size
decreasing_by
  have := sizeList_children_lt e
  omega

/-- Walks through children that are numbered from `i` on. -/
def walkAll (visit : Visitor σ α) (s : σ) (i : ℕ) (es : List Expr) : σ × List (Step α) :=
  match es with
  | [] => (s, [])
  | e :: rest =>
    let (s, steps) := walk visit s e
    let (s, more) := walkAll visit s (i + 1) rest
    (s, steps.map (Step.below i) ++ more)
termination_by 2 * sizeList es + 1
decreasing_by
  · simp only [sizeList]
    omega
  · have := size_pos e
    simp only [sizeList]
    omega

end

/-- The visitor answers each step in turn, in the state that the steps before have left. -/
inductive Threads (visit : Visitor σ α) : σ → List (Step α) → σ → Prop
  | nil (s : σ) : Threads visit s [] s
  | cons {s s' s'' : σ} {a : Step α} {rest : List (Step α)}
      (h : visit s a.node = (s', a.verdict, a.found)) (hrest : Threads visit s' rest s'') :
      Threads visit s (a :: rest) s''

/-- The steps ascend by their places, each is at its node, and besides the places to start with they
come to just the children of the nodes that are not pruned. -/
structure Ascends (find : List ℕ → Option Expr) (start : List ℕ → Prop) (steps : List (Step α)) :
    Prop where
  ascending : (steps.map Step.place).Pairwise (· < ·)
  node_at : ∀ a ∈ steps, find a.place = some a.node
  mem_iff : ∀ place, place ∈ steps.map Step.place ↔ start place ∨
    ∃ a ∈ steps, a.verdict = .proceed ∧ ∃ j < a.node.children.length, place = a.place ++ [j]

/-- The steps of a walk in pre-order, from left to right, which leaves out what is below a pruned
node. -/
abbrev InPreorder (root : Expr) (steps : List (Step α)) : Prop := Ascends root.at? (· = []) steps

variable {visit : Visitor σ α} {s s' s'' : σ} {e : Expr} {rest es : List Expr} {found : Option α}
  {i k : ℕ} {place : List ℕ} {steps part more : List (Step α)}

theorem walk_of_proceed (h : visit s e = (s', .proceed, found)) :
    walk visit s e = ((walkAll visit s' 0 e.children).1,
      ⟨[], e, .proceed, found⟩ :: (walkAll visit s' 0 e.children).2) := by
  rw [walk, h]

theorem walk_of_prune (h : visit s e = (s', .prune, found)) :
    walk visit s e = (s', [⟨[], e, .prune, found⟩]) := by
  rw [walk, h]

theorem walkAll_cons : walkAll visit s i (e :: rest) =
    ((walkAll visit (walk visit s e).1 (i + 1) rest).1,
      (walk visit s e).2.map (Step.below i) ++
        (walkAll visit (walk visit s e).1 (i + 1) rest).2) := by
  rw [walkAll]

/-- Along the walk, once for all that holds of it: a visit of a node and then its children, a visit
that prunes, no children, and a child before the others. -/
theorem walk_induction (visit : Visitor σ α) {P : σ → Expr → σ × List (Step α) → Prop}
    {Q : σ → ℕ → List Expr → σ × List (Step α) → Prop}
    (proceed : ∀ {s s' e found r}, visit s e = (s', .proceed, found) → Q s' 0 e.children r →
      P s e (r.1, ⟨[], e, .proceed, found⟩ :: r.2))
    (prune : ∀ {s s' e found}, visit s e = (s', .prune, found) →
      P s e (s', [⟨[], e, .prune, found⟩]))
    (nil : ∀ {s} i, Q s i [] (s, []))
    (cons : ∀ {s i e rest r r'}, P s e r → Q r.1 (i + 1) rest r' →
      Q s i (e :: rest) (r'.1, r.2.map (Step.below i) ++ r'.2)) :
    (∀ s e, P s e (walk visit s e)) ∧ ∀ s i es, Q s i es (walkAll visit s i es) := by
  refine walk.mutual_induct visit (fun s e => P s e (walk visit s e))
    (fun s i es => Q s i es (walkAll visit s i es)) ?_ ?_ ?_ ?_
  · intro s e s' found hvisit _ _ _ ih
    rw [walk_of_proceed hvisit]
    exact proceed hvisit ih
  · intro s e s' found hvisit
    rw [walk_of_prune hvisit]
    exact prune hvisit
  · intro s i
    rw [walkAll]
    exact nil i
  · intro s i e rest s₁ steps h₁ s₂ more h₂ ihe ihes
    rw [walkAll_cons]
    refine cons ihe ?_
    rw [h₁]
    exact ihes

/-- The result of going on behind what has been found so far. -/
def goOn (out : List α) (r : σ × List α) : σ × List α := (r.1, out ++ r.2)

theorem goOn_goOn (out out' : List α) (r : σ × List α) :
    goOn out (goOn out' r) = goOn (out ++ out') r := by
  rw [goOn, goOn, goOn, List.append_assoc]

theorem traversePending_of_proceed (h : visit s e = (s', .proceed, found)) :
    traversePending visit s (e :: rest) =
      goOn found.toList (traversePending visit s' (e.children ++ rest)) := by
  rw [traversePending, h]
  rfl

theorem traversePending_of_prune (h : visit s e = (s', .prune, found)) :
    traversePending visit s (e :: rest) = goOn found.toList (traversePending visit s' rest) := by
  rw [traversePending, h]
  rfl

theorem filterMap_found_below (i : ℕ) (steps : List (Step α)) :
    (steps.map (Step.below i)).filterMap Step.found = steps.filterMap Step.found := by
  rw [List.filterMap_map]
  rfl

-- The other pending expressions are arbitrary: after a walk the traversal goes on with them.
theorem traversePending_eq_walk (visit : Visitor σ α) :
    (∀ s e rest, traversePending visit s (e :: rest) =
      goOn ((walk visit s e).2.filterMap Step.found)
        (traversePending visit (walk visit s e).1 rest)) ∧
      ∀ s i es rest, traversePending visit s (es ++ rest) =
        goOn ((walkAll visit s i es).2.filterMap Step.found)
          (traversePending visit (walkAll visit s i es).1 rest) := by
  refine walk_induction visit
    (P := fun s e r => ∀ rest, traversePending visit s (e :: rest) =
      goOn (r.2.filterMap Step.found) (traversePending visit r.1 rest))
    (Q := fun s _ es r => ∀ rest, traversePending visit s (es ++ rest) =
      goOn (r.2.filterMap Step.found) (traversePending visit r.1 rest)) ?proceed ?prune ?nil ?cons
  case proceed =>
    intro s s' e found r hvisit ih rest
    rw [traversePending_of_proceed hvisit, ih, goOn_goOn, List.filterMap_cons]
    cases found <;> rfl
  case prune =>
    intro s s' e found hvisit rest
    rw [traversePending_of_prune hvisit, List.filterMap_cons]
    cases found <;> rfl
  case nil =>
    intro s i rest
    rfl
  case cons =>
    intro s i e es r r' ihe ihes rest
    rw [List.cons_append, ihe, ihes, goOn_goOn, List.filterMap_append, filterMap_found_below]

theorem traverse_eq_walk (visit : Visitor σ α) (s : σ) (root : Expr) :
    root.traverse visit s =
      ((root.walk visit s).1, (root.walk visit s).2.filterMap Step.found) := by
  rw [traverse, (traversePending_eq_walk visit).1, traversePending, goOn, List.append_nil]

theorem Threads.map_below (i : ℕ) (h : Threads visit s steps s') :
    Threads visit s (steps.map (Step.below i)) s' := by
  induction h with
  | nil s => exact .nil s
  | cons h _ ih => exact .cons h ih

theorem Threads.append (h : Threads visit s part s') (hmore : Threads visit s' more s'') :
    Threads visit s (part ++ more) s'' := by
  induction h with
  | nil => exact hmore
  | cons h _ ih => exact .cons h (ih hmore)

theorem threads_walk (visit : Visitor σ α) (s : σ) (e : Expr) :
    Threads visit s (walk visit s e).2 (walk visit s e).1 := by
  refine (walk_induction visit (P := fun s _ r => Threads visit s r.2 r.1)
    (Q := fun s _ _ r => Threads visit s r.2 r.1) ?proceed ?prune ?nil ?cons).1 s e
  case proceed => exact fun hvisit ih => .cons hvisit ih
  case prune => exact fun hvisit => .cons hvisit (.nil _)
  case nil => exact fun {s} _ => .nil s
  case cons => exact fun {_ i _ _ _ _} ihe ihes => (ihe.map_below i).append ihes

/-- The subexpression at a place below children that are numbered from `i` on. -/
def findFrom (i : ℕ) (es : List Expr) : List ℕ → Option Expr
  | [] => none
  | k :: place => if i ≤ k then es[k - i]?.bind fun c => c.at? place else none

/-- The places of children that are numbered from `i` on. -/
def StartsFrom (i : ℕ) (es : List Expr) (place : List ℕ) : Prop := ∃ j < es.length, place = [i + j]

theorem findFrom_cons_self : findFrom i (e :: rest) (i :: place) = e.at? place := by
  simp [findFrom]

theorem exists_of_findFrom (h : findFrom i es place = some e) :
    ∃ k below, place = k :: below ∧ i ≤ k := by
  cases place with
  | nil => cases h
  | cons k below =>
    rw [findFrom] at h
    split_ifs at h with hk
    exact ⟨k, below, rfl, hk⟩

theorem findFrom_cons_of_findFrom {node : Expr} (h : findFrom (i + 1) rest place = some node) :
    findFrom i (e :: rest) place = some node := by
  obtain ⟨k, below, rfl, hk⟩ := exists_of_findFrom h
  rw [findFrom, if_pos hk] at h
  rw [findFrom, if_pos (by omega), show k - i = (k - (i + 1)) + 1 by omega, List.getElem?_cons_succ]
  exact h

theorem startsFrom_cons_iff :
    StartsFrom i (e :: rest) place ↔ place = [i] ∨ StartsFrom (i + 1) rest place := by
  constructor
  · rintro ⟨j, hj, rfl⟩
    cases j with
    | zero => exact .inl rfl
    | succ j => exact .inr ⟨j, by simpa using hj, by rw [Nat.add_right_comm, Nat.add_assoc]⟩
  · rintro (rfl | ⟨j, hj, rfl⟩)
    · exact ⟨0, by simp, rfl⟩
    · exact ⟨j + 1, by simpa using hj, by rw [Nat.add_right_comm, Nat.add_assoc]⟩

/-- Places below one child come before those below the children after it. -/
theorem pairwise_lt_append {before after : List (List ℕ)} (hbefore : before.Pairwise (· < ·))
    (hafter : after.Pairwise (· < ·))
    (hfrom : ∀ place ∈ after, ∃ k below, place = k :: below ∧ i < k) :
    (before.map (List.cons i) ++ after).Pairwise (· < ·) := by
  rw [List.pairwise_append, List.pairwise_map]
  refine ⟨hbefore.imp List.cons_lt_cons_self.2, hafter, ?_⟩
  intro _ hmem place hplace
  obtain ⟨_, -, rfl⟩ := List.mem_map.1 hmem
  obtain ⟨k, below, rfl, hk⟩ := hfrom place hplace
  exact List.cons_lt_cons_iff.2 (.inl hk)

theorem map_place_below (i : ℕ) (steps : List (Step α)) :
    (steps.map (Step.below i)).map Step.place = (steps.map Step.place).map (List.cons i) := by
  rw [List.map_map, List.map_map]
  rfl

theorem ascends_nil : Ascends (findFrom i []) (StartsFrom i []) ([] : List (Step α)) where
  ascending := .nil
  node_at := by simp
  mem_iff := by simp [StartsFrom]

theorem ascends_pruned : InPreorder e [⟨[], e, .prune, found⟩] where
  ascending := List.pairwise_singleton _ _
  node_at := by simp [at?]
  mem_iff := by simp

theorem Ascends.mem_below_iff (h : InPreorder e part) (i : ℕ) (place : List ℕ) :
    place ∈ (part.map (Step.below i)).map Step.place ↔ place = [i] ∨
      ∃ a ∈ part.map (Step.below i), a.verdict = .proceed ∧
        ∃ j < a.node.children.length, place = a.place ++ [j] := by
  constructor
  · intro hmem
    obtain ⟨_, ha, rfl⟩ := List.mem_map.1 hmem
    obtain ⟨a, ha', rfl⟩ := List.mem_map.1 ha
    rcases (h.mem_iff a.place).1 (List.mem_map_of_mem ha') with hroot | ⟨b, hb, hv, j, hj, hplace⟩
    · exact .inl (congrArg (List.cons i) hroot)
    · exact .inr ⟨b.below i, List.mem_map_of_mem hb, hv, j, hj, congrArg (List.cons i) hplace⟩
  · have hstep : ∀ {place}, place ∈ part.map Step.place →
        i :: place ∈ (part.map (Step.below i)).map Step.place := by
      intro place hplace
      obtain ⟨a, ha, rfl⟩ := List.mem_map.1 hplace
      exact List.mem_map_of_mem (List.mem_map_of_mem ha)
    rintro (rfl | ⟨_, hmem, hv, j, hj, rfl⟩)
    · exact hstep ((h.mem_iff []).2 (.inl rfl))
    · obtain ⟨b, hb, rfl⟩ := List.mem_map.1 hmem
      exact hstep ((h.mem_iff _).2 (.inr ⟨b, hb, hv, j, hj, rfl⟩))

theorem Ascends.cons (hpart : InPreorder e part)
    (hmore : Ascends (findFrom (i + 1) rest) (StartsFrom (i + 1) rest) more) :
    Ascends (findFrom i (e :: rest)) (StartsFrom i (e :: rest))
      (part.map (Step.below i) ++ more) where
  ascending := by
    rw [List.map_append, map_place_below]
    refine pairwise_lt_append hpart.ascending hmore.ascending fun _ hmem => ?_
    obtain ⟨a, ha, rfl⟩ := List.mem_map.1 hmem
    exact exists_of_findFrom (hmore.node_at a ha)
  node_at a hmem := by
    rcases List.mem_append.1 hmem with hbelow | ha
    · obtain ⟨a, ha, rfl⟩ := List.mem_map.1 hbelow
      exact findFrom_cons_self.trans (hpart.node_at a ha)
    · exact findFrom_cons_of_findFrom (hmore.node_at a ha)
  mem_iff place := by
    rw [List.map_append, List.mem_append, hpart.mem_below_iff, hmore.mem_iff, startsFrom_cons_iff]
    simp only [List.mem_append, or_and_right, exists_or]
    exact or_or_or_comm

theorem Ascends.node (h : Ascends (findFrom 0 e.children) (StartsFrom 0 e.children) steps) :
    InPreorder e (⟨[], e, .proceed, found⟩ :: steps) where
  ascending := by
    refine List.pairwise_cons.2 ⟨fun _ hmem => ?_, h.ascending⟩
    obtain ⟨a, ha, rfl⟩ := List.mem_map.1 hmem
    obtain ⟨k, below, hplace, -⟩ := exists_of_findFrom (h.node_at a ha)
    rw [hplace]
    exact List.nil_lt_cons _ _
  node_at := by
    refine List.forall_mem_cons.2 ⟨rfl, fun a ha => ?_⟩
    have hnode := h.node_at a ha
    obtain ⟨k, below, hplace, -⟩ := exists_of_findFrom hnode
    rw [hplace] at hnode ⊢
    exact hnode
  mem_iff place := by
    rw [List.map_cons, List.mem_cons, h.mem_iff]
    refine or_congr_right ?_
    simp [StartsFrom]

theorem inPreorder_walk (visit : Visitor σ α) (s : σ) (e : Expr) :
    InPreorder e (walk visit s e).2 := by
  refine (walk_induction visit (P := fun _ e r => InPreorder e r.2)
    (Q := fun _ i es r => Ascends (findFrom i es) (StartsFrom i es) r.2)
    ?proceed ?prune ?nil ?cons).1 s e
  case proceed => exact fun _ ih => ih.node
  case prune => exact fun _ => ascends_pruned
  case nil => exact fun _ => ascends_nil
  case cons => exact fun ihe ihes => ihe.cons ihes

end WarehouseAdapter.Expr
