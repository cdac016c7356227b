import Mathlib
import WarehouseAdapter.Query.Lineage

/-!
# Occurrences of parameters

The traversal of an expression finds its parameters in the order in which they stand in the tree,
and each of them under the name that it has there. A look-up then gives the name at the last one.
-/

namespace WarehouseAdapter

variable {p : ScalarParameter} {name : String} {places : List (ScalarParameter × String)}

namespace Expr

mutual

/-- The parameters of an expression from left to right, each with the alias directly around it or
else with its default name. -/
def occurrences : Expr → List (ScalarParameter × String)
  | named (parameter p) name => [(p, name)]
  | named e _ => occurrences e
  | parameter p => [(p, p.defaultName)]
  | call _ args _ => occurrencesList args
  | _ => []

def occurrencesList : List Expr → List (ScalarParameter × String)
  | [] => []
  | e :: rest => occurrences e ++ occurrencesList rest

end

theorem occurrencesList_append (as bs : List Expr) :
    occurrencesList (as ++ bs) = occurrencesList as ++ occurrencesList bs := by
  induction as with
  | nil => rfl
  | cons e as ih => rw [List.cons_append, occurrencesList, ih, occurrencesList, List.append_assoc]

/-- What is found at an expression comes before what its children hold; a match has no more. -/
theorem occurrences_eq (e : Expr) :
    e.occurrences = (visitParameter e).2.toList ++
      if (visitParameter e).1 = .proceed then occurrencesList e.children else [] := by
  cases e with
  | named e name => cases e <;> simp [occurrences, visitParameter, children, occurrencesList]
  | parameter p => simp [occurrences, visitParameter]
  | call f args t => simp [occurrences, visitParameter, children]
  | column | literal | table => simp [occurrences, visitParameter, children, occurrencesList]

theorem traversePending_visitParameter (pending : List Expr) :
    (traversePending (fun (_ : Unit) e => ((), visitParameter e)) () pending).2 =
      occurrencesList pending := by
  fun_induction traversePending (fun (_ : Unit) e => ((), visitParameter e)) () pending with
  | case1 => rfl
  | case2 _ e rest _ found hvisit _ out hrest ih =>
    obtain ⟨-, hvisit⟩ := Prod.mk.inj hvisit
    rw [hrest, occurrencesList_append] at ih
    rw [occurrencesList, occurrences_eq, hvisit, if_pos rfl, List.append_assoc, ← ih]
  | case3 _ e rest _ found hvisit _ out hrest ih =>
    obtain ⟨-, hvisit⟩ := Prod.mk.inj hvisit
    rw [hrest] at ih
    rw [occurrencesList, occurrences_eq, hvisit, if_neg (by simp), List.append_nil, ← ih]

theorem parameters_eq_occurrences (e : Expr) : e.parameters = e.occurrences := by
  rw [parameters, collect, traverse, traversePending_visitParameter, occurrencesList,
    occurrencesList, List.append_nil]

end Expr

/-- The name of a parameter at the last of its places. -/
def LastNamed (places : List (ScalarParameter × String)) (p : ScalarParameter) (name : String) :
    Prop :=
  ∃ earlier later, places = earlier ++ (p, name) :: later ∧ p ∉ later.map Prod.fst

theorem lookup_reverse_eq_some_iff : places.reverse.lookup p = some name ↔
    LastNamed places p name := by
  rw [List.lookup_eq_some_iff]
  constructor
  · rintro ⟨later, earlier, hplaces, hlater⟩
    refine ⟨earlier.reverse, later.reverse, ?_, ?_⟩
    · rw [← List.reverse_reverse places, hplaces]
      simp
    · intro hmem
      obtain ⟨q, hq, rfl⟩ := List.mem_map.1 hmem
      simpa using hlater q (List.mem_reverse.1 hq)
  · rintro ⟨earlier, later, rfl, hlater⟩
    refine ⟨later.reverse, earlier.reverse, by simp, fun q hq => ?_⟩
    rw [bne_iff_ne]
    rintro rfl
    exact hlater (List.mem_map.2 ⟨q, List.mem_reverse.1 hq, rfl⟩)

theorem Expr.parameterName?_eq_some_iff {e : Expr} :
    e.parameterName? p = some name ↔ LastNamed e.parameters p name := lookup_reverse_eq_some_iff

theorem LastNamed.mem (h : LastNamed places p name) : (p, name) ∈ places := by
  obtain ⟨earlier, later, rfl, -⟩ := h
  simp

end WarehouseAdapter
