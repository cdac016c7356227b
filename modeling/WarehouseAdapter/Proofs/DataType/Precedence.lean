import WarehouseAdapter.DataType.Precedence
import WarehouseAdapter.Proofs.DataType.Castability

/-!
# Precedence as a least upper bound

The join of two types is what both cast to and what casts to everything that both cast to; it fails
when there is no such type. The fold over a list inherits this, so a list of types is unified to its
least upper bound in the order of castability or, when it has no upper bound, not at all.
-/

namespace WarehouseAdapter

theorem mem_eraseReps_loop {α : Type} [BEq α] [LawfulBEq α] {x a : α} {rest acc : List α} :
    x ∈ List.eraseRepsBy.loop (· == ·) a rest acc ↔ x = a ∨ x ∈ rest ∨ x ∈ acc := by
  induction rest generalizing a acc with
  | nil =>
    rw [List.eraseRepsBy.loop, List.mem_reverse, List.mem_cons]
    simp
  | cons b rest ih =>
    rw [List.eraseRepsBy.loop]
    by_cases h : a = b
    · rw [beq_iff_eq.2 h, ih, List.mem_cons, h]
      tauto
    · rw [beq_eq_false_iff_ne.2 h, ih, List.mem_cons, List.mem_cons]
      tauto

theorem mem_eraseReps {α : Type} [BEq α] [LawfulBEq α] {x : α} {xs : List α} :
    x ∈ xs.eraseReps ↔ x ∈ xs := by
  cases xs with
  | nil => rfl
  | cons a rest =>
    change x ∈ List.eraseRepsBy.loop (· == ·) a rest [] ↔ _
    rw [mem_eraseReps_loop, List.mem_cons]
    simp

theorem Primitive.join?_eq_some {p q r : Primitive} (h : p.join? q = some r) (o : Primitive) :
    r.CastsTo o ↔ p.CastsTo o ∧ q.CastsTo o := by
  have hall : ∀ p ∈ all, ∀ q ∈ all, ∀ r ∈ p.join? q, ∀ o ∈ all,
      (r.CastsTo o ↔ p.CastsTo o ∧ q.CastsTo o) := by decide +kernel
  exact hall p p.mem_all q q.mem_all r h o o.mem_all

theorem Primitive.join?_eq_none {p q : Primitive} (h : p.join? q = none) :
    p ≠ null ∧ q ≠ null ∧ ∀ o, ¬ (p.CastsTo o ∧ q.CastsTo o) := by
  have hall : ∀ p ∈ all, ∀ q ∈ all, p.join? q = none →
      p ≠ null ∧ q ≠ null ∧ ∀ o ∈ all, ¬ (p.CastsTo o ∧ q.CastsTo o) := by decide +kernel
  obtain ⟨hp, hq, ho⟩ := hall p p.mem_all q q.mem_all h
  exact ⟨hp, hq, fun o => ho o o.mem_all⟩

theorem Primitive.join?_eq_some_null {p q : Primitive} :
    p.join? q = some null ↔ p = null ∧ q = null := by
  have hall : ∀ p ∈ all, ∀ q ∈ all, (p.join? q = some null ↔ p = null ∧ q = null) := by
    decide +kernel
  exact hall p p.mem_all q q.mem_all

namespace DataType

/-- A complaint about two types that no type is above. -/
def IsConflict (e : SchemaError) : Prop :=
  ∃ s t, e = .incompatible s t ∧ ∀ w, ¬ (s ≤ w ∧ t ≤ w)

/-- The outcome of unifying: a well-formed type below the types in `bounds` and no others, or a
complaint when there are none. -/
def Unifies (bounds : DataType → Prop) (x : Except SchemaError DataType) : Prop :=
  (∃ u, x = .ok u ∧ u.WellFormed ∧ ∀ w, u ≤ w ↔ bounds w) ∨
    (∃ e, x = .error e ∧ IsConflict e) ∧ ∀ w, ¬ bounds w

variable {a b : List (String × DataType)} {s t : DataType}

theorem unifies_ok (t : DataType) (ht : t.WellFormed) {bounds : DataType → Prop}
    (h : ∀ w, t ≤ w ↔ bounds w) : Unifies bounds (.ok t) :=
  .inl ⟨t, rfl, ht, h⟩

theorem unifies_error {e : SchemaError} (he : IsConflict e) {bounds : DataType → Prop}
    (h : ∀ w, ¬ bounds w) : Unifies bounds (.error e) :=
  .inr ⟨⟨e, rfl, he⟩, h⟩

theorem unifies_incompatible (h : ∀ w, ¬ (s ≤ w ∧ t ≤ w)) :
    Unifies (fun w => s ≤ w ∧ t ≤ w) (.error (.incompatible s t)) :=
  unifies_error ⟨s, t, rfl, h⟩ h

theorem join_primitive (p q : Primitive) :
    Unifies (fun w => primitive p ≤ w ∧ primitive q ≤ w) (join (primitive p) (primitive q)) := by
  rw [join, Primitive.join]
  cases h : p.join? q with
  | some r =>
    have hnull : r = .null ↔ p = .null ∧ q = .null := by
      rw [← Primitive.join?_eq_some_null, h, Option.some.injEq]
    apply unifies_ok (primitive r) trivial
    intro w
    cases w with
    | primitive o => exact Primitive.join?_eq_some h o
    | array | struct | unrecognized => exact hnull
  | none =>
    obtain ⟨hp, hq, ho⟩ := Primitive.join?_eq_none h
    apply unifies_incompatible
    rintro w ⟨hpw, hqw⟩
    cases w with
    | primitive o => exact ho o ⟨hpw, hqw⟩
    | array | struct | unrecognized => exact hp hpw

/-- Null gives way to any type, and another primitive unifies with primitives only. -/
theorem join_primitive_other (p : Primitive) (ht : t.WellFormed) (hprim : ∀ q, t ≠ primitive q) :
    Unifies (fun w => primitive p ≤ w ∧ t ≤ w) (join (primitive p) t) ∧
      Unifies (fun w => t ≤ w ∧ primitive p ≤ w) (join t (primitive p)) := by
  have hjoin : join (primitive p) t =
        (if p = .null then .ok t else .error (.incompatible (primitive p) t)) ∧
      join t (primitive p) =
        (if p = .null then .ok t else .error (.incompatible t (primitive p))) := by
    cases t with
    | primitive q => exact absurd rfl (hprim q)
    | array | struct | unrecognized => exact ⟨rfl, rfl⟩
  rw [hjoin.1, hjoin.2]
  by_cases hp : p = .null
  · subst p
    rw [if_pos rfl, if_pos rfl]
    exact ⟨unifies_ok t ht (by simp), unifies_ok t ht (by simp)⟩
  · rw [if_neg hp, if_neg hp]
    have hno : ∀ w, ¬ (primitive p ≤ w ∧ t ≤ w) := by
      rintro w ⟨hpw, htw⟩
      cases w with
      | primitive q =>
        cases t with
        | primitive q' => exact hprim q' rfl
        | array | struct | unrecognized => exact htw
      | array | struct | unrecognized => exact hp hpw
    exact ⟨unifies_incompatible hno, unifies_incompatible fun w h => hno w h.symm⟩

/-- What joining fields gives: fields of the same names above both lists, or a complaint. -/
def FieldsUnify (a b : List (String × DataType))
    (x : Except SchemaError (List (String × DataType))) : Prop :=
  (∃ c, x = .ok c ∧ c.map Prod.fst = a.map Prod.fst ∧ (∀ f ∈ c, f.2.WellFormed) ∧
      ∀ d, FieldsCastTo c d ↔ FieldsCastTo a d ∧ FieldsCastTo b d) ∨
    (∃ e, x = .error e ∧ IsConflict e) ∧ ∀ d, ¬ (FieldsCastTo a d ∧ FieldsCastTo b d)

theorem joinFields_unify (hnames : a.map Prod.fst = b.map Prod.fst)
    (hb : ∀ g ∈ b, g.2.WellFormed)
    (h : ∀ f ∈ a, ∀ t, t.WellFormed → Unifies (fun w => f.2 ≤ w ∧ t ≤ w) (join f.2 t)) :
    FieldsUnify a b (joinFields a b) := by
  induction a generalizing b with
  | nil =>
    cases b with
    | nil => exact .inl ⟨[], rfl, rfl, by simp, by simp⟩
    | cons g b => cases hnames
  | cons f a ih =>
    cases b with
    | nil => cases hnames
    | cons g b =>
      obtain ⟨hname, hnames⟩ := List.cons.inj hnames
      obtain ⟨hg, hb⟩ := List.forall_mem_cons.1 hb
      obtain ⟨hf, ha⟩ := List.forall_mem_cons.1 h
      change FieldsUnify _ _ (join f.2 g.2 >>= fun u => joinFields a b >>= fun rest =>
        .ok ((f.1, u) :: rest))
      rcases hf g.2 hg with ⟨u, hu, huwf, hle⟩ | ⟨⟨e, he, hconflict⟩, hno⟩
      · rw [hu]
        rcases ih hnames hb ha with ⟨c, hc, hcnames, hcwf, hcle⟩ | ⟨⟨e, he, hconflict⟩, hno⟩
        · rw [hc]
          refine .inl ⟨(f.1, u) :: c, rfl, ?_, List.forall_mem_cons.2 ⟨huwf, hcwf⟩, ?_⟩
          · rw [List.map_cons, List.map_cons, hcnames]
          · intro d
            cases d with
            | nil => exact ⟨False.elim, fun h => h.1.elim⟩
            | cons k d =>
              change f.1 = k.1 ∧ u ≤ k.2 ∧ FieldsCastTo c d ↔
                (f.1 = k.1 ∧ f.2 ≤ k.2 ∧ FieldsCastTo a d) ∧
                  g.1 = k.1 ∧ g.2 ≤ k.2 ∧ FieldsCastTo b d
              rw [hle, hcle, ← hname]
              tauto
        · rw [he]
          refine .inr ⟨⟨e, rfl, hconflict⟩, ?_⟩
          rintro d ⟨had, hbd⟩
          cases d with
          | nil => exact had
          | cons k d => exact hno d ⟨had.2.2, hbd.2.2⟩
      · rw [he]
        refine .inr ⟨⟨e, rfl, hconflict⟩, ?_⟩
        rintro d ⟨had, hbd⟩
        cases d with
        | nil => exact had
        | cons k d => exact hno k.2 ⟨had.2.1, hbd.2.1⟩

theorem join_unifies (s t : DataType) (hs : s.WellFormed) (ht : t.WellFormed) :
    Unifies (fun w => s ≤ w ∧ t ≤ w) (join s t) := by
  induction s generalizing t with
  | primitive p =>
    cases t with
    | primitive q => exact join_primitive p q
    | array | struct | unrecognized => exact (join_primitive_other p ht (by simp)).1
  | array element ih =>
    cases t with
    | primitive q => exact (join_primitive_other q hs (by simp)).2
    | array element' =>
      rw [join]
      rcases ih element' hs ht with ⟨u, hu, huwf, hle⟩ | ⟨⟨e, he, hconflict⟩, hno⟩
      · rw [hu]
        apply unifies_ok (array u) huwf
        intro w
        cases w with
        | array w => exact hle w
        | primitive | struct | unrecognized => exact ⟨False.elim, fun h => h.1.elim⟩
      · rw [he]
        apply unifies_error hconflict
        rintro w ⟨hs, ht⟩
        obtain ⟨v, rfl, hv⟩ := array_le_iff.1 hs
        exact hno v ⟨hv, ht⟩
    | struct | unrecognized =>
      apply unifies_incompatible
      rintro w ⟨hs, ht⟩
      obtain ⟨v, rfl, hv⟩ := array_le_iff.1 hs
      exact ht
  | struct a ih =>
    cases t with
    | primitive q => exact (join_primitive_other q hs (by simp)).2
    | struct b =>
      obtain ⟨hne, hnodup, ha⟩ := hs
      rw [wellFormedFields_iff] at ha
      rw [join]
      by_cases hnames : a.map Prod.fst = b.map Prod.fst
      · rw [if_pos hnames]
        rcases joinFields_unify hnames (wellFormedFields_iff.1 ht.2.2)
            (fun f hf t => ih f hf t (ha f hf)) with
          ⟨c, hc, hcnames, hcwf, hle⟩ | ⟨⟨e, he, hconflict⟩, hno⟩
        · have hcne : c ≠ [] := by
            rintro rfl
            exact hne (List.map_eq_nil_iff.1 hcnames.symm)
          have hof : ofFields c = .ok (struct c) :=
            ofFields_eq_ok_iff.2 ⟨⟨hcne, hcnames ▸ hnodup⟩, rfl⟩
          rw [hc]
          change Unifies _ (ofFields c)
          rw [hof]
          apply unifies_ok (struct c) ⟨hcne, hcnames ▸ hnodup, wellFormedFields_iff.2 hcwf⟩
          intro w
          cases w with
          | struct d => exact hle d
          | primitive | array | unrecognized => exact ⟨False.elim, fun h => h.1.elim⟩
        · rw [he]
          apply unifies_error hconflict
          rintro w ⟨hs, ht⟩
          obtain ⟨d, rfl, had⟩ := struct_le_iff.1 hs
          exact hno d ⟨had, ht⟩
      · rw [if_neg hnames]
        apply unifies_incompatible
        rintro w ⟨hs, ht⟩
        obtain ⟨d, rfl, had⟩ := struct_le_iff.1 hs
        exact hnames (had.names_eq.trans (FieldsCastTo.names_eq ht).symm)
    | array | unrecognized =>
      apply unifies_incompatible
      rintro w ⟨hs, ht⟩
      obtain ⟨v, rfl, hv⟩ := struct_le_iff.1 hs
      exact ht
  | unrecognized kind =>
    cases t with
    | primitive q => exact (join_primitive_other q hs (by simp)).2
    | unrecognized kind' =>
      rw [join]
      by_cases hk : kind = kind'
      · rw [if_pos hk, ← hk]
        exact unifies_ok (unrecognized kind) trivial (by simp)
      · rw [if_neg hk]
        apply unifies_incompatible
        rintro w ⟨hs, ht⟩
        rw [unrecognized_le_iff] at hs ht
        cases hs.symm.trans ht
        exact hk rfl
    | array | struct =>
      apply unifies_incompatible
      rintro w ⟨hs, ht⟩
      rw [unrecognized_le_iff.1 hs] at ht
      exact ht

theorem foldlM_join_unifies (rest : List DataType) (ht : t.WellFormed)
    (hrest : ∀ s ∈ rest, s.WellFormed) :
    Unifies (fun w => ∀ s ∈ t :: rest, s ≤ w) (rest.foldlM join t) := by
  induction rest generalizing t with
  | nil => exact unifies_ok t ht (by simp)
  | cons s rest ih =>
    obtain ⟨hs, hrest⟩ := List.forall_mem_cons.1 hrest
    rw [List.foldlM_cons]
    rcases join_unifies t s ht hs with ⟨u, hu, huwf, hle⟩ | ⟨⟨e, he, hconflict⟩, hno⟩
    · rw [hu]
      have hiff : ∀ w, (∀ x ∈ u :: rest, x ≤ w) ↔ ∀ x ∈ t :: s :: rest, x ≤ w := by
        intro w
        rw [List.forall_mem_cons, hle, and_assoc, List.forall_mem_cons, List.forall_mem_cons]
      have hu := ih huwf hrest
      simp only [hiff] at hu
      exact hu
    · rw [he]
      apply unifies_error hconflict
      intro w hw
      exact hno w ⟨hw t (by simp), hw s (by simp)⟩

theorem mem_distinctSorted {types : List DataType} : t ∈ distinctSorted types ↔ t ∈ types := by
  have hs : t ∈ sorted types ↔ t ∈ types := List.mem_mergeSort
  rw [distinctSorted, mem_eraseReps, hs]

theorem highest_unifies {types : List DataType} (hne : types ≠ [])
    (h : ∀ t ∈ types, t.WellFormed) :
    Unifies (fun w => ∀ t ∈ types, t ≤ w) (highest types) := by
  unfold highest
  split
  · rename_i he
    obtain ⟨t, ht⟩ := List.exists_mem_of_ne_nil types hne
    rw [← mem_distinctSorted, he] at ht
    cases ht
  · rename_i t rest he
    have hmem : ∀ s, s ∈ t :: rest ↔ s ∈ types := fun s => he ▸ mem_distinctSorted
    obtain ⟨ht, hrest⟩ := List.forall_mem_cons.1 fun s hs => h s ((hmem s).1 hs)
    have hu := foldlM_join_unifies rest ht hrest
    simp only [hmem] at hu
    exact hu

theorem highest_nil : highest [] = .error .emptyTypeSet := by
  simp [highest, distinctSorted, sorted, List.eraseReps, List.eraseRepsBy]

/-- A list that is not empty unifies to its least upper bound exactly when it has an upper bound;
otherwise two types are named that have none. -/
theorem highest_isLUB (types : List DataType) (h : ∀ t ∈ types, t.WellFormed) :
    (types = [] → highest types = .error .emptyTypeSet) ∧
      (types ≠ [] →
        ((∃ u, highest types = .ok u) ↔ BddAbove {t | t ∈ types}) ∧
        (∀ u, highest types = .ok u → u.WellFormed ∧ IsLUB {t | t ∈ types} u) ∧
        (¬ BddAbove {t | t ∈ types} →
          ∃ s t, highest types = .error (.incompatible s t) ∧ ¬ BddAbove {s, t})) := by
  constructor
  · rintro rfl
    exact highest_nil
  intro hne
  rcases highest_unifies hne h with ⟨u, hu, huwf, hle⟩ | ⟨⟨e, he, s, t, rfl, hst⟩, hno⟩
  · have hlub : IsLUB {t | t ∈ types} u := isLUB_iff_le_iff.2 hle
    refine ⟨⟨fun _ => ⟨u, hlub.1⟩, fun _ => ⟨u, hu⟩⟩, ?_, fun hb => absurd ⟨u, hlub.1⟩ hb⟩
    intro v hv
    cases hu.symm.trans hv
    exact ⟨huwf, hlub⟩
  · rw [he]
    have hb : ¬ BddAbove {t | t ∈ types} := fun ⟨w, hw⟩ => hno w hw
    refine ⟨iff_of_false ?_ hb, ?_, fun _ => ⟨s, t, rfl, ?_⟩⟩
    · rintro ⟨u, hu⟩
      cases hu
    · intro u hu
      cases hu
    · rintro ⟨w, hw⟩
      exact hst w ⟨hw (by simp), hw (by simp)⟩

theorem highest_isLUB_chain :
    (∀ t ∈ [struct [("a", int64), ("b", null)], struct [("a", double), ("b", array date)]],
        t.WellFormed) ∧
      IsLUB
        {t | t ∈ [struct [("a", int64), ("b", null)], struct [("a", double), ("b", array date)]]}
        (struct [("a", double), ("b", array date)]) := by
  have h : ∀ t ∈ [struct [("a", int64), ("b", null)], struct [("a", double), ("b", array date)]],
      t.WellFormed := by
    simp [WellFormed, WellFormedFields]
  exact ⟨h, (((highest_isLUB _ h).2 (by simp)).2.1 _ (by cbv)).2⟩

end DataType

end WarehouseAdapter
