import Mathlib
import WarehouseAdapter.Names

/-!
# Repeated names

The names reported as repeated are those that a list holds at least twice, each reported once. They
stand in the order of their second places, which is the order of their first places only where no
two of them change places in between.
-/

namespace WarehouseAdapter

variable {name : String} {names : List String}

/-- Where `nth` occurrences of either name are passed over, `a` comes before `b`. -/
def Precedes (nth : Nat) (names : List String) (a b : String) : Prop :=
  names.idxOfNth a nth < names.idxOfNth b nth

instance (nth : Nat) (names : List String) : DecidableRel (Precedes nth names) :=
  fun _ _ => Nat.decLt _ _

/-- `out` has the names that `names` holds at least twice, each once, in the order of their places
behind `nth` occurrences of each. -/
structure ListsRepeated (nth : Nat) (names out : List String) : Prop where
  nodup : out.Nodup
  mem_iff : ∀ name, name ∈ out ↔ 2 ≤ names.count name
  ascending : out.Pairwise (Precedes nth names)

/-- Of two repeated names the first to be seen is the first to be seen again. -/
def KeepsOrder (names : List String) : Prop :=
  ∀ a b, 2 ≤ names.count a → 2 ≤ names.count b → Precedes 0 names a b → Precedes 1 names a b

/-- A name is met for the second time where just one has gone before. -/
theorem mem_repeatedAfter_iff {seen : List String} : name ∈ repeatedAfter seen names ↔
    seen.count name ≤ 1 ∧ 2 ≤ seen.count name + names.count name := by
  induction names generalizing seen with
  | nil =>
    rw [List.count_nil]
    simp only [repeatedAfter, List.not_mem_nil, false_iff]
    omega
  | cons n rest ih =>
    rw [repeatedAfter]
    by_cases hn : n = name
    · subst hn
      split_ifs with hone
      · simp only [List.mem_cons, true_or, true_iff, List.count_cons_self]
        omega
      · rw [ih, List.count_cons_self, List.count_cons_self]
        omega
    · split_ifs with hone
      · simp [ih, hn, Ne.symm hn]
      · simp [ih, hn]

theorem nodup_repeatedAfter (seen names : List String) : (repeatedAfter seen names).Nodup := by
  induction names generalizing seen with
  | nil => exact List.nodup_nil
  | cons n rest ih =>
    rw [repeatedAfter]
    split_ifs with hone
    · refine List.nodup_cons.2 ⟨fun hn => ?_, ih _⟩
      have hseen := (mem_repeatedAfter_iff.1 hn).1
      rw [List.count_cons_self] at hseen
      omega
    · exact ih _

theorem repeatedAfter_concat {seen : List String} (hnames : name ∉ names) (hseen : name ∉ seen) :
    repeatedAfter seen (names ++ [name]) = repeatedAfter seen names := by
  induction names generalizing seen with
  | nil => simp [repeatedAfter, List.count_eq_zero_of_not_mem hseen]
  | cons n rest ih =>
    rw [List.mem_cons, not_or] at hnames
    have hseen' : name ∉ n :: seen := by
      rw [List.mem_cons, not_or]
      exact ⟨hnames.1, hseen⟩
    rw [List.cons_append, repeatedAfter, repeatedAfter, ih hnames.2 hseen']

/-- The names that stand in a list for the second time, in the order of these places. -/
def secondNames (names : List String) : List String :=
  (names.zipIdx.filter fun n => (names.take n.2).count n.1 = 1).map Prod.fst

theorem repeatedAfter_eq_secondNames {seen whole : List String}
    (h : whole = seen.reverse ++ names) : repeatedAfter seen names =
      ((names.zipIdx seen.length).filter fun n => (whole.take n.2).count n.1 = 1).map Prod.fst := by
  induction names generalizing seen with
  | nil => rfl
  | cons n rest ih =>
    have hbefore : (whole.take seen.length).count n = seen.count n := by
      rw [h, List.take_left' List.length_reverse, List.count_reverse]
    have hwhole : whole = (n :: seen).reverse ++ rest := by
      rw [h, List.reverse_cons, List.append_assoc, List.singleton_append]
    have hrest := ih hwhole
    rw [repeatedAfter, List.zipIdx_cons, List.filter_cons, hbefore]
    by_cases hone : seen.count n = 1
    · rw [if_pos hone, if_pos (decide_eq_true hone), List.map_cons, hrest]
      rfl
    · rw [if_neg hone, if_neg (by simpa using hone), hrest]
      rfl

theorem repeatedNames_eq_secondNames (names : List String) :
    repeatedNames names = secondNames names := repeatedAfter_eq_secondNames rfl

/-- A new name at the end changes nothing in what is repeated. -/
theorem repeatedNames_concat (h : name ∉ names) :
    repeatedNames (names ++ [name]) = repeatedNames names :=
  repeatedAfter_concat h (List.not_mem_nil)

theorem mem_repeatedNames_iff : name ∈ repeatedNames names ↔ 2 ≤ names.count name := by
  simp [repeatedNames, mem_repeatedAfter_iff]

theorem nodup_repeatedNames (names : List String) : (repeatedNames names).Nodup :=
  nodup_repeatedAfter [] names

/-- Put in front of `names`, `n` moves the place at which a name is reported by one. -/
theorem idxOfNth_cons_of_mem_repeatedAfter {seen : List String} {n : String}
    (h : name ∈ repeatedAfter (n :: seen) names) :
    (n :: names).idxOfNth name (1 - seen.count name) =
      names.idxOfNth name (1 - (n :: seen).count name) + 1 := by
  by_cases hn : n = name
  · subst hn
    have hseen := (mem_repeatedAfter_iff.1 h).1
    rw [List.count_cons_self] at hseen
    have hnone : seen.count n = 0 := by omega
    rw [List.idxOfNth_cons_of_beq (beq_self_eq_true n), List.count_cons_self, hnone]
    rfl
  · rw [List.idxOfNth_cons_of_not_beq (beq_false_of_ne hn), List.count_cons_of_ne hn]

theorem pairwise_repeatedAfter (seen names : List String) :
    (repeatedAfter seen names).Pairwise fun a b =>
      names.idxOfNth a (1 - seen.count a) < names.idxOfNth b (1 - seen.count b) := by
  induction names generalizing seen with
  | nil => exact List.Pairwise.nil
  | cons n rest ih =>
    have htail : (repeatedAfter (n :: seen) rest).Pairwise fun a b =>
        (n :: rest).idxOfNth a (1 - seen.count a) < (n :: rest).idxOfNth b (1 - seen.count b) := by
      refine (ih (n :: seen)).imp_of_mem fun ha hb hab => ?_
      rw [idxOfNth_cons_of_mem_repeatedAfter ha, idxOfNth_cons_of_mem_repeatedAfter hb]
      exact Nat.succ_lt_succ hab
    rw [repeatedAfter]
    split_ifs with hone
    · refine List.pairwise_cons.2 ⟨fun b hb => ?_, htail⟩
      -- the second place of `n` is the front, and all other names are met behind it
      rw [idxOfNth_cons_of_mem_repeatedAfter hb, hone,
        List.idxOfNth_cons_of_beq (beq_self_eq_true n)]
      exact Nat.succ_pos _
    · exact htail

theorem listsRepeated_one_repeatedNames (names : List String) :
    ListsRepeated 1 names (repeatedNames names) where
  nodup := nodup_repeatedNames names
  mem_iff _ := mem_repeatedNames_iff
  ascending := pairwise_repeatedAfter [] names

theorem repeatedNames_eq_nil_iff : repeatedNames names = [] ↔ names.Nodup := by
  simp only [List.eq_nil_iff_forall_not_mem, mem_repeatedNames_iff,
    List.nodup_iff_count_le_one, not_le, Nat.lt_succ_iff]

namespace ListsRepeated

variable {nth : Nat} {out out' : List String}

theorem mem (h : ListsRepeated nth names out) (hname : name ∈ out) : name ∈ names := by
  have hcount := (h.mem_iff name).1 hname
  exact List.count_pos_iff.1 (by omega)

theorem unique (h : ListsRepeated nth names out) (h' : ListsRepeated nth names out') :
    out = out' := by
  have hperm : out.Perm out' := (List.perm_ext_iff_of_nodup h.nodup h'.nodup).2 fun name =>
    (h.mem_iff name).trans (h'.mem_iff name).symm
  exact hperm.eq_of_pairwise (fun a b _ _ hab hba => absurd hab (Nat.lt_asymm hba))
    h.ascending h'.ascending

theorem zero_iff_keepsOrder (h : ListsRepeated 1 names out) :
    ListsRepeated 0 names out ↔ KeepsOrder names := by
  constructor
  · intro hfirst a b ha hb hab
    obtain ⟨i, hi, rfl⟩ := List.getElem_of_mem ((h.mem_iff a).2 ha)
    obtain ⟨j, hj, rfl⟩ := List.getElem_of_mem ((h.mem_iff b).2 hb)
    rcases Nat.lt_trichotomy i j with hij | rfl | hji
    · exact List.pairwise_iff_getElem.1 h.ascending i j hi hj hij
    · exact absurd hab (Nat.lt_irrefl _)
    · exact absurd hab (Nat.lt_asymm (List.pairwise_iff_getElem.1 hfirst.ascending j i hj hi hji))
  · intro hkeeps
    refine ⟨h.nodup, h.mem_iff, ?_⟩
    refine h.ascending.imp_of_mem fun {a b} ha hb hsecond => ?_
    rcases Nat.lt_trichotomy (names.idxOfNth a 0) (names.idxOfNth b 0) with hlt | heq | hgt
    · exact hlt
    · rw [List.idxOfNth_zero, List.idxOfNth_zero, List.idxOf_inj (h.mem ha)] at heq
      exact absurd (heq ▸ hsecond) (Nat.lt_irrefl _)
    · have hback := hkeeps b a ((h.mem_iff b).1 hb) ((h.mem_iff a).1 ha) hgt
      exact absurd hsecond (Nat.lt_asymm hback)

end ListsRepeated

theorem repeatedNames_reports (names : List String) :
    (∀ out, ListsRepeated 1 names out ↔ out = repeatedNames names) ∧
      (repeatedNames names = [] ↔ names.Nodup) ∧
      (ListsRepeated 0 names (repeatedNames names) ↔ KeepsOrder names) := by
  have hlists := listsRepeated_one_repeatedNames names
  refine ⟨fun out => ⟨fun h => h.unique hlists, ?_⟩, repeatedNames_eq_nil_iff,
    hlists.zero_iff_keepsOrder⟩
  rintro rfl
  exact hlists

/-- In `a, b, b, a` the first name to be seen is the last one to be seen again. -/
theorem not_listsRepeated_zero : ¬ ∀ names : List String,
    ListsRepeated 0 names (repeatedNames names) ∧ (repeatedNames names = [] ↔ names.Nodup) := by
  intro h
  have hnames : repeatedNames ["a", "b", "b", "a"] = ["b", "a"] := by decide
  have hascending := (h ["a", "b", "b", "a"]).1.ascending
  rw [hnames] at hascending
  revert hascending
  decide

end WarehouseAdapter
