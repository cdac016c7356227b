import WarehouseAdapter.Proofs.ByteOrder
import WarehouseAdapter.Proofs.DataType.Precedence

/-!
# The order of types as a linear order

The comparison of types tells apart all types and is antisymmetric and transitive, at any depth of
arrays and structs. So a list of types has one arrangement in ascending order without repetition,
which is a matter of its members only, and what the list unifies to is one as well, down to the two
types that a complaint names.
-/

namespace WarehouseAdapter

theorem Primitive.all_getElem?_rank (p : Primitive) : all[p.rank]? = some p := by
  cases p <;> rfl

theorem Primitive.rank_injective : Function.Injective rank := by
  intro p q h
  have hp := p.all_getElem?_rank
  rw [h, q.all_getElem?_rank] at hp
  exact (Option.some.inj hp).symm

instance : Std.TransCmp Primitive.order := inferInstanceAs (Std.TransCmp (compareOn Primitive.rank))

theorem Primitive.order_eq_iff {p q : Primitive} : p.order q = .eq ↔ p = q := by
  rw [order, compare_eq_iff_eq, rank_injective.eq_iff]

namespace DataType

/-- The place of a former among the formers. -/
def variant : DataType → ℕ
  | primitive _ => 0
  | array _ => 1
  | struct _ => 2
  | unrecognized _ => 3

/-- By the bytes of the names and, where the names are the same, by the types. -/
def FieldBefore (f g : String × DataType) : Prop :=
  bytes f.1 < bytes g.1 ∨ f.1 = g.1 ∧ order f.2 g.2 = .lt

variable {s t u : DataType} {a b c : List (String × DataType)} {types types' : List DataType}

theorem order_of_variant_lt (h : s.variant < t.variant) : order s t = .lt := by
  cases s <;> cases t <;> simp [variant, order] at h ⊢

theorem variant_le_of_order (h : order s t = .lt) : s.variant ≤ t.variant := by
  cases s <;> cases t <;> simp [variant, order] at h ⊢

theorem orderFields_swap (h : ∀ f ∈ a, ∀ t, order f.2 t = (order t f.2).swap) :
    orderFields a b = (orderFields b a).swap := by
  induction a generalizing b with
  | nil => cases b <;> rfl
  | cons f a ih =>
    cases b with
    | nil => rfl
    | cons g b =>
      obtain ⟨hf, ha⟩ := List.forall_mem_cons.1 h
      rw [orderFields, orderFields, Ordering.swap_then, Ordering.swap_then, ← ih ha, ← hf,
        ← Std.OrientedOrd.eq_swap]

theorem order_swap (s t : DataType) : order s t = (order t s).swap := by
  induction s generalizing t with
  | primitive p =>
    cases t with
    | primitive q =>
      rw [order, order]
      exact Std.OrientedCmp.eq_swap
    | array | struct | unrecognized => rfl
  | array element ih =>
    cases t with
    | array element' => exact ih element'
    | primitive | struct | unrecognized => rfl
  | struct a ih =>
    cases t with
    | struct b => exact orderFields_swap ih
    | primitive | array | unrecognized => rfl
  | unrecognized kind =>
    cases t with
    | unrecognized kind' => exact Std.OrientedOrd.eq_swap
    | primitive | array | struct => rfl

theorem orderFields_eq_iff (h : ∀ f ∈ a, ∀ t, order f.2 t = .eq ↔ f.2 = t) :
    orderFields a b = .eq ↔ a = b := by
  induction a generalizing b with
  | nil => cases b <;> simp [orderFields]
  | cons f a ih =>
    cases b with
    | nil => simp [orderFields]
    | cons g b =>
      obtain ⟨hf, ha⟩ := List.forall_mem_cons.1 h
      rw [orderFields, Ordering.then_eq_eq, Ordering.then_eq_eq, hf, ih ha, compare_eq_iff_eq,
        List.cons.injEq, Prod.ext_iff, and_assoc]

theorem order_eq_iff (s t : DataType) : order s t = .eq ↔ s = t := by
  induction s generalizing t with
  | primitive p =>
    cases t with
    | primitive q => rw [order, Primitive.order_eq_iff, primitive.injEq]
    | array | struct | unrecognized => simp [order]
  | array element ih =>
    cases t with
    | array element' => rw [order, ih, array.injEq]
    | primitive | struct | unrecognized => simp [order]
  | struct a ih =>
    cases t with
    | struct b => rw [order, orderFields_eq_iff ih, struct.injEq]
    | primitive | array | unrecognized => simp [order]
  | unrecognized kind =>
    cases t with
    | unrecognized kind' => rw [order, compare_eq_iff_eq, unrecognized.injEq]
    | primitive | array | struct => simp [order]

theorem orderFields_eq_lt_iff : orderFields a b = .lt ↔ List.Lex FieldBefore a b := by
  induction a generalizing b with
  | nil => cases b <;> simp [orderFields]
  | cons f a ih =>
    cases b with
    | nil => simp [orderFields]
    | cons g b =>
      rw [orderFields, Ordering.then_eq_lt, Ordering.then_eq_lt, compare_eq_lt_iff_bytes_lt,
        compare_eq_iff_eq, order_eq_iff, ih, List.cons_lex_cons_iff, FieldBefore, Prod.ext_iff]
      tauto

/-- Transitive through the fields of the middle list, where the order of their types is. -/
theorem lex_fieldBefore_trans
    (h : ∀ f ∈ b, ∀ s u, order s f.2 = .lt → order f.2 u = .lt → order s u = .lt)
    (hab : List.Lex FieldBefore a b) (hbc : List.Lex FieldBefore b c) :
    List.Lex FieldBefore a c := by
  induction hab generalizing c with
  | nil =>
    cases hbc with
    | rel => exact .nil
    | cons => exact .nil
  | cons _ ih =>
    cases hbc with
    | rel hgk => exact .rel hgk
    | cons hbc => exact .cons (ih (List.forall_mem_cons.1 h).2 hbc)
  | @rel f _ g _ hfg =>
    cases hbc with
    | cons => exact .rel hfg
    | @rel _ _ k _ hgk =>
      refine .rel ?_
      rcases hfg with hfg | ⟨hname, hfg⟩
      · rcases hgk with hgk | ⟨hname, -⟩
        · exact .inl (List.lt_trans hfg hgk)
        · exact .inl (hname ▸ hfg)
      · rcases hgk with hgk | ⟨hname', hgk⟩
        · exact .inl (hname ▸ hgk)
        · exact .inr ⟨hname.trans hname', (List.forall_mem_cons.1 h).1 _ _ hfg hgk⟩

/-- Types of different formers stand in the order of their formers. -/
theorem order_lt_trans_of_variant (hst : order s t = .lt) (htu : order t u = .lt)
    (h : s.variant = t.variant → t.variant = u.variant → order s u = .lt) : order s u = .lt := by
  have hst' := variant_le_of_order hst
  have htu' := variant_le_of_order htu
  by_cases hvariant : s.variant < u.variant
  · exact order_of_variant_lt hvariant
  · exact h (by omega) (by omega)

theorem order_lt_trans (hst : order s t = .lt) (htu : order t u = .lt) : order s u = .lt := by
  induction t generalizing s u with
  | primitive q =>
    refine order_lt_trans_of_variant hst htu fun hs hu => ?_
    cases s with
    | array | struct | unrecognized => cases hs
    | primitive p =>
      cases u with
      | array | struct | unrecognized => cases hu
      | primitive r =>
        rw [order] at hst htu ⊢
        exact Std.TransCmp.lt_trans hst htu
  | array element ih =>
    refine order_lt_trans_of_variant hst htu fun hs hu => ?_
    cases s with
    | primitive | struct | unrecognized => cases hs
    | array first =>
      cases u with
      | primitive | struct | unrecognized => cases hu
      | array last =>
        rw [order] at hst htu ⊢
        exact ih hst htu
  | struct b ih =>
    refine order_lt_trans_of_variant hst htu fun hs hu => ?_
    cases s with
    | primitive | array | unrecognized => cases hs
    | struct a =>
      cases u with
      | primitive | array | unrecognized => cases hu
      | struct c =>
        rw [order, orderFields_eq_lt_iff] at hst htu ⊢
        exact lex_fieldBefore_trans (fun f hf _ _ => ih f hf) hst htu
  | unrecognized kind =>
    refine order_lt_trans_of_variant hst htu fun hs hu => ?_
    cases s with
    | primitive | array | struct => cases hs
    | unrecognized first =>
      cases u with
      | primitive | array | struct => cases hu
      | unrecognized last =>
        rw [order] at hst htu ⊢
        exact Std.TransCmp.lt_trans hst htu

instance : Std.LawfulEqCmp order where
  compare_self := (order_eq_iff _ _).2 rfl
  eq_of_compare := (order_eq_iff _ _).1

instance : Std.TransCmp order where
  eq_swap := order_swap _ _
  isLE_trans {s t u} hst htu := by
    rw [Ordering.isLE_iff_eq_lt_or_eq_eq] at hst htu ⊢
    rcases hst with hst | hst
    · rcases htu with htu | htu
      · exact .inl (order_lt_trans hst htu)
      · exact .inl ((order_eq_iff t u).1 htu ▸ hst)
    · exact (order_eq_iff s t).1 hst ▸ htu

theorem eraseReps_loop_eq {α : Type} [DecidableEq α] (x : α) (xs acc : List α) :
    List.eraseRepsBy.loop (· == ·) x xs acc = acc.reverse ++ xs.destutter' (· ≠ ·) x := by
  induction xs generalizing x acc with
  | nil => simp [List.eraseRepsBy.loop]
  | cons y ys ih =>
    rw [List.eraseRepsBy.loop]
    by_cases h : x = y
    · rw [beq_iff_eq.2 h, ih x acc, List.destutter'_cons_neg _ (not_not.2 h)]
    · rw [beq_eq_false_iff_ne.2 h, ih y (x :: acc), List.destutter'_cons_pos _ h]
      simp

/-- Repetitions side by side are dropped. -/
theorem eraseReps_eq_destutter {α : Type} [DecidableEq α] (xs : List α) :
    xs.eraseReps = xs.destutter (· ≠ ·) := by
  cases xs with
  | nil => rfl
  | cons x xs => exact eraseReps_loop_eq x xs []

theorem pairwise_sorted (types : List DataType) :
    (sorted types).Pairwise fun s t => (order s t).isLE := by
  apply List.pairwise_mergeSort
  · exact fun _ _ _ => Std.TransCmp.isLE_trans
  · intro s t
    rw [order_swap t s]
    cases order s t <;> rfl

/-- In ascending order, and so without repetition. -/
theorem pairwise_distinctSorted (types : List DataType) :
    (distinctSorted types).Pairwise fun s t => order s t = .lt := by
  have hdestutter : distinctSorted types = (sorted types).destutter (· ≠ ·) :=
    eraseReps_eq_destutter _
  have hsorted : (distinctSorted types).Pairwise fun s t => (order s t).isLE :=
    (pairwise_sorted types).sublist (hdestutter ▸ List.destutter_sublist _ _)
  have hne : (distinctSorted types).IsChain (· ≠ ·) := hdestutter ▸ List.isChain_destutter _ _
  have htrans : Trans (fun s t : DataType => order s t = .lt) (fun s t => order s t = .lt)
      fun s t => order s t = .lt := ⟨order_lt_trans⟩
  have hle := hsorted.isChain
  rw [List.isChain_iff_forall_rel_of_append_cons_cons] at hle hne
  rw [← List.isChain_iff_pairwise, List.isChain_iff_forall_rel_of_append_cons_cons]
  intro s t before behind hsplit
  rcases Ordering.isLE_iff_eq_lt_or_eq_eq.1 (hle hsplit) with hlt | heq
  · exact hlt
  · exact absurd ((order_eq_iff s t).1 heq) (hne hsplit)

theorem distinctSorted_congr (h : ∀ t, t ∈ types ↔ t ∈ types') :
    distinctSorted types = distinctSorted types' := by
  have hnodup : ∀ types, (distinctSorted types).Nodup := by
    intro types
    refine (pairwise_distinctSorted types).imp fun hlt heq => ?_
    rw [(order_eq_iff _ _).2 heq] at hlt
    cases hlt
  have hperm : (distinctSorted types).Perm (distinctSorted types') := by
    rw [List.perm_ext_iff_of_nodup (hnodup types) (hnodup types')]
    simp only [mem_distinctSorted, h, implies_true]
  refine hperm.eq_of_pairwise ?_ (pairwise_distinctSorted types) (pairwise_distinctSorted types')
  intro s t _ _ hst hts
  rw [order_swap s t, hts] at hst
  cases hst

/-- What a list of types unifies to, or which two types it is said not to unify, is a matter of its
members, since the order of types is total, transitive and antisymmetric. Of types of different
formers the former decides; of structs the first field that differs, by its name and then its
type. -/
theorem highest_of_same_members :
    (∀ types types' : List DataType, (∀ t, t ∈ types ↔ t ∈ types') →
        highest types = highest types') ∧
      Std.TransCmp order ∧ Std.LawfulEqCmp order ∧
      (∀ s t : DataType, s.variant < t.variant → order s t = .lt) ∧
      ∀ a b, order (struct a) (struct b) = .lt ↔ List.Lex FieldBefore a b := by
  refine ⟨fun types types' h => ?_, inferInstance, inferInstance, fun _ _ => order_of_variant_lt,
    fun a b => ?_⟩
  · rw [highest, highest, distinctSorted_congr h]
  · rw [order, orderFields_eq_lt_iff]

/-- The complaint names what the first two members unify to, in whichever order they are given. -/
theorem highest_of_same_members_apart :
    let types := [array date, array double, array boolean, array double]
    let types' := [array boolean, array date, array double]
    (∀ t, t ∈ types ↔ t ∈ types') ∧ highest types' = .error (.incompatible double date) ∧
      highest types = .error (.incompatible double date) := by
  intro types types'
  have hmembers : ∀ t, t ∈ types ↔ t ∈ types' := by
    intro t
    simp only [types, types', List.mem_cons, List.not_mem_nil, or_false]
    tauto
  have herror : highest types' = .error (.incompatible double date) := by cbv
  exact ⟨hmembers, herror, (highest_of_same_members.1 types types' hmembers).trans herror⟩

end DataType

end WarehouseAdapter
