import WarehouseAdapter.Proofs.Inference.OpenColumns
import WarehouseAdapter.Proofs.Schema.Derivations

/-!
# Lenient inference

A lenient inference parts from a strict one at columns of mixed values only, where the first present
value speaks for all of them. Its type is below the one that unifies them, so what a strict
inference settles a lenient one settles as well, with a type that casts to the strict one. A single
value has at most one type, so no column is left with several.
-/

namespace WarehouseAdapter

variable {c : Column} {aggressiveNull : Bool} {t : DataType} {values : List Value}

/-- Strictness matters only where the present values, of which there are some, are mixed. -/
theorem inferColumn_modes (c : Column) (aggressiveNull : Bool) :
    (∃ candidates, candidates.length ≤ 1 ∧
        ∀ strict, inferColumn c strict aggressiveNull = candidates) ∨
      (Value.present c.values ≠ [] ∧ ∀ strict, inferColumn c strict aggressiveNull =
        if strict then strictCandidates (Value.present c.values)
        else lenientCandidates (Value.present c.values)) := by
  unfold inferColumn
  dsimp only
  cases hempty : aggressiveNull && (Value.present c.values).isEmpty with
  | true => exact .inl ⟨[.null], le_rfl, fun _ => rfl⟩
  | false =>
    cases hdtype : c.dtype.type? with
    | some t => exact .inl ⟨[t], le_rfl, fun _ => rfl⟩
    | none =>
      cases hmixed : (SniffKind.ofValues (Value.present c.values)).isMixed with
      | false =>
        refine .inl ⟨(SniffKind.ofValues (Value.present c.values)).type?.toList, ?_, fun _ => rfl⟩
        exact Option.length_toList_le
      | true =>
        refine .inr ⟨fun hnone => ?_, fun _ => rfl⟩
        rw [hnone] at hmixed
        cases hmixed

theorem length_lenientCandidates_le (values : List Value) :
    (lenientCandidates values).length ≤ 1 := by
  cases values with
  | nil => exact Nat.zero_le 1
  | cons v rest => exact Option.length_toList_le

theorem length_inferColumn_lenient_le (c : Column) (aggressiveNull : Bool) :
    (inferColumn c false aggressiveNull).length ≤ 1 := by
  rcases inferColumn_modes c aggressiveNull with ⟨candidates, hlength, hsame⟩ | ⟨-, hmixed⟩
  · rw [hsame]
    exact hlength
  · rw [hmixed]
    exact length_lenientCandidates_le _

/-- The first of some values has a type that casts to the one settled for all of them. -/
theorem exists_lenientCandidates_le (hne : values ≠ []) (h : strictCandidates values = [t]) :
    ∃ u, lenientCandidates values = [u] ∧ u ≤ t := by
  obtain ⟨v, rest, rfl⟩ := List.exists_cons_of_ne_nil hne
  obtain ⟨u, hu, hut⟩ := le_of_strictCandidates h v List.mem_cons_self
  refine ⟨u, ?_, hut⟩
  rw [lenientCandidates, hu]
  rfl

theorem exists_inferColumn_lenient_le (h : inferColumn c true aggressiveNull = [t]) :
    ∃ u, inferColumn c false aggressiveNull = [u] ∧ u ≤ t := by
  rcases inferColumn_modes c aggressiveNull with ⟨candidates, -, hsame⟩ | ⟨hne, hmixed⟩
  · exact ⟨t, (hsame false).trans ((hsame true).symm.trans h), le_rfl⟩
  · rw [hmixed] at h ⊢
    exact exists_lenientCandidates_le hne h

namespace InferOptions

variable {o : InferOptions} {u : DataType}

theorem Settles.unique (ht : o.Settles c t) (hu : o.Settles c u) : t = u := by
  rcases ht with ht | ⟨hnone, ht⟩ <;> rcases hu with hu | ⟨hnone', hu⟩
  · exact Option.some.inj (ht.symm.trans hu)
  · cases ht.symm.trans hnone'
  · cases hu.symm.trans hnone
  · exact List.singleton_inj.1 (ht.symm.trans hu)

theorem Settles.lenient (h : Settles { o with strict := true } c t) :
    ∃ u, Settles { o with strict := false } c u ∧ u ≤ t := by
  rcases h with hgiven | ⟨hnone, h⟩
  · exact ⟨t, .inl hgiven, le_rfl⟩
  · obtain ⟨u, hu, hut⟩ := exists_inferColumn_lenient_le h
    exact ⟨u, .inr ⟨hnone, hu⟩, hut⟩

/-- The column of a schema that a column of a frame comes to. -/
def Gives (o : InferOptions) (c : Column) (p : String × DataType) : Prop :=
  p.1 = c.name ∧ o.Settles c p.2

theorem Gives.lenient {p : String × DataType} (h : Gives { o with strict := true } c p) :
    ∃ q, Gives { o with strict := false } c q ∧ q.1 = p.1 ∧ q.2 ≤ p.2 := by
  obtain ⟨hname, h⟩ := h
  obtain ⟨u, hu, hle⟩ := h.lenient
  exact ⟨(c.name, u), ⟨rfl, hu⟩, hname.symm, hle⟩

theorem ambiguous_report_lenient (o : InferOptions) (columns : List Column) :
    (report { o with strict := false } columns).ambiguous = [] := by
  rw [report, List.map_eq_nil_iff, List.filter_eq_nil_iff]
  intro c _ h
  have htwo := (of_decide_eq_true h).2
  have hone : (candidates { o with strict := false } c).length ≤ 1 :=
    length_inferColumn_lenient_le c o.aggressiveNull
  omega

end InferOptions

theorem inferSchema_eq_ok_iff {f : Frame} {o : InferOptions} {s : Schema} :
    inferSchema f o = .ok s ↔ List.Forall₂ o.Gives f.columns s.columns := by
  constructor
  · intro h
    obtain ⟨typed, htyped, hsettles, hcolumns⟩ := settled_of_inferSchema h
    rw [← htyped, hcolumns, List.forall₂_map_left_iff, List.forall₂_map_right_iff,
      List.forall₂_same]
    exact fun p hp => ⟨rfl, hsettles p hp⟩
  · intro h
    let type (c : Column) : DataType := Classical.epsilon (o.Settles c)
    have htype : ∀ c ∈ f.columns, o.Settles c (type c) := by
      intro c hc
      obtain ⟨p, -, hp⟩ := exists_forall₂_iff.1 ⟨_, h⟩ c hc
      exact Classical.epsilon_spec ⟨p.2, hp⟩
    have hlist : f.columns.map (fun c => (c.name, type c)) = s.columns := by
      rw [← List.forall₂_eq_eq_eq, List.forall₂_map_left_iff]
      refine h.imp fun c p hp => Prod.ext hp.1.symm ?_
      exact InferOptions.Settles.unique (Classical.epsilon_spec ⟨p.2, hp.2⟩) hp.2
    rw [inferSchema_of_settles htype, hlist, Schema.ofColumns_columns]

/-- Where a strict inference succeeds a lenient one does, with the same names and with types that
cast to the strict ones; and it never reports a column as ambiguous. -/
theorem inferSchema_lenient (f : Frame) (o : InferOptions) :
    (∀ s, inferSchema f { o with strict := true } = .ok s →
        ∃ s', inferSchema f { o with strict := false } = .ok s' ∧ s'.names = s.names ∧
          List.Forall₂ (· ≤ ·) s'.types s.types) ∧
      ∀ r, inferSchema f { o with strict := false } = .error (.undetermined r) →
        r.ambiguous = [] := by
  constructor
  · intro s hs
    obtain ⟨columns, hgiven, hbelow⟩ := exists_forall₂_between (inferSchema_eq_ok_iff.1 hs)
      fun _ _ => InferOptions.Gives.lenient
    have hnames : columns.map Prod.fst = s.names := by
      rw [← Schema.map_fst_columns, ← List.forall₂_eq_eq_eq, List.forall₂_map_left_iff,
        List.forall₂_map_right_iff]
      exact hbelow.imp fun _ _ h => h.1
    let s' := Schema.ofDistinct columns (hnames ▸ s.distinct)
    have hs' : s'.columns = columns := Schema.columns_ofDistinct _
    refine ⟨s', inferSchema_eq_ok_iff.2 (hs'.symm ▸ hgiven), hnames, ?_⟩
    rw [← Schema.map_snd_columns, ← Schema.map_snd_columns, hs', List.forall₂_map_left_iff,
      List.forall₂_map_right_iff]
    exact hbelow.imp fun _ _ h => h.2
  · intro r hr
    obtain ⟨-, rfl⟩ := inferSchema_eq_undetermined_iff.1 hr
    exact InferOptions.ambiguous_report_lenient o f.columns

/-- Lists and records of which the first knows less than the rest, beside dates, which have a type
in either way of inference only if it is given. -/
theorem inferSchema_lenient_nested :
    let f : Frame := ⟨[.ofValues "items" [.list [], .list [.int 1, .null], .list [.float ⟨0⟩]],
      .ofValues "day" [.date ⟨2020, 1, 2, by decide⟩],
      .ofValues "point" [.null, .record [("x", .int 1), ("y", .null)],
        .record [("x", .float ⟨0⟩), ("y", .str "far")]]]⟩
    let s : Schema := .ofDistinct [("items", .array .double), ("day", .date),
      ("point", .struct [("x", .double), ("y", .string)])] (by decide)
    (inferSchema f { strict := true, overrides := [("day", .date)] } = .ok s ∧
        ∃ s', inferSchema f { strict := false, overrides := [("day", .date)] } = .ok s' ∧
          s'.names = s.names ∧ List.Forall₂ (· ≤ ·) s'.types s.types) ∧
      inferSchema f { strict := false } = .error (.undetermined ⟨["day"], []⟩) ∧
        InferenceReport.ambiguous ⟨["day"], []⟩ = [] := by
  intro f s
  have hs : inferSchema f { strict := true, overrides := [("day", .date)] } = .ok s := by cbv
  have hr : inferSchema f { strict := false } = .error (.undetermined ⟨["day"], []⟩) := by cbv
  exact ⟨⟨hs, (inferSchema_lenient f { overrides := [("day", .date)] }).1 s hs⟩,
    hr, (inferSchema_lenient f {}).2 _ hr⟩

end WarehouseAdapter
