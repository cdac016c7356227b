import WarehouseAdapter.Proofs.Coercion.Inhabitants
import WarehouseAdapter.Proofs.FirstColumns

/-!
# What coercion leaves as it is

A value of a type is left as it is by a coercion to that type, and no other value is: so a second
coercion changes nothing. The same holds of frames. `Frame.Shaped` says that a frame has the columns
of a schema with values of their types; applying the schema gives such a frame, and leaves it alone,
although on the way its columns are taken out of a list that is rearranged.
-/

namespace WarehouseAdapter

variable {p : Primitive} {t : DataType} {v w : Value} {fields : List (String × DataType)}
  {pairs : List (String × Value)}

theorem coercePrimitive_of_kind (h : p.kind? = some v.kind) : coercePrimitive p v = .ok v := by
  cases p with
  | null => cases h
  | boolean | int64 | double | string | binary | date | time | timestamp | interval =>
    cases v <;> first | rfl | cases h

theorem coerceFields_of_fieldsInhabit (hfields : ∀ f ∈ fields, ∀ v, Inhabits f.2 v →
    coerce f.2 v = .ok v) (h : FieldsInhabit fields pairs) :
    coerceFields fields pairs = .ok (pairs, []) := by
  induction fields generalizing pairs with
  | nil =>
    rw [FieldsInhabit] at h
    rw [h, coerceFields]
  | cons f fields ih =>
    obtain ⟨name, t⟩ := f
    obtain ⟨hfield, hrest⟩ := List.forall_mem_cons.1 hfields
    rw [FieldsInhabit] at h
    obtain ⟨v, rest, rfl, hv, hinhabit⟩ := h
    rw [coerceFields, takeField_head]
    exact bind_eq_ok_iff.2 ⟨v, hfield v hv, bind_eq_ok_iff.2 ⟨_, ih hrest hinhabit, rfl⟩⟩

theorem coerce_of_inhabits (h : Inhabits t v) : coerce t v = .ok v := by
  induction t generalizing v with
  | primitive p =>
    rw [Inhabits] at h
    rcases h with rfl | ⟨hv, hkind⟩
    · exact coerce_of_isNull rfl _
    · exact coerce_primitive_eq_ok_iff.2 (.inr ⟨hv, coercePrimitive_of_kind hkind⟩)
  | array element ih =>
    rw [Inhabits] at h
    rcases h with rfl | ⟨items, rfl, hitems⟩
    · exact coerce_of_isNull rfl _
    · refine coerce_array_eq_ok_iff.2 (.inr ⟨items, items, rfl, rfl, ?_⟩)
      exact List.forall₂_same.2 fun v hv => ih (hitems v hv)
  | struct fields ih =>
    rw [Inhabits] at h
    rcases h with rfl | ⟨pairs, rfl, hpairs⟩
    · exact coerce_of_isNull rfl _
    · refine coerce_struct_eq_ok_iff.2 (.inr ⟨pairs, pairs, rfl, rfl, ?_⟩)
      exact coerceFields_of_fieldsInhabit (fun f hf v hv => ih f hf hv) hpairs
  | unrecognized kind =>
    rw [Inhabits] at h
    rcases h with rfl | hv
    · exact coerce_of_isNull rfl _
    · rw [coerce, hv, if_neg Bool.false_ne_true]

/-- Coercion gives values of the type, and these are the values that it leaves as they are. -/
theorem coerce_eq_self_iff_inhabits (t : DataType) :
    (∀ v w, coerce t v = .ok w → Inhabits t w ∧ coerce t w = .ok w) ∧
      ∀ v, coerce t v = .ok v ↔ Inhabits t v := by
  constructor
  · intro v w h
    have hw : Inhabits t w := inhabits_of_coerce h
    exact ⟨hw, coerce_of_inhabits hw⟩
  · exact fun v => ⟨inhabits_of_coerce, coerce_of_inhabits⟩

/-- A record without one of its fields and with a NaN is not a value of the type, and becomes one. -/
theorem coerce_eq_self_iff_inhabits_record :
    let t : DataType := .struct [("x", .double), ("days", .array .date)]
    let v : Value := .record [("days", .list [.str "2020-01-02", .float .nan])]
    let w : Value := .record [("x", .null), ("days", .list [.date ⟨2020, 1, 2, by decide⟩, .null])]
    coerce t v = .ok w ∧ ¬ Inhabits t v ∧ Inhabits t w ∧ coerce t w = .ok w := by
  intro t v w
  have h : coerce t v = .ok w := rfl
  obtain ⟨hresult, hself⟩ := coerce_eq_self_iff_inhabits t
  refine ⟨h, fun hv => ?_, hresult v w h⟩
  have hsame : v = w := Except.ok.inj (((hself v).2 hv).symm.trans h)
  simp [v, w] at hsame

/-- The columns of the schema in their order, each with the machine type and values of its type. -/
def Frame.Shaped (f : Frame) (s : Schema) : Prop :=
  List.Forall₂ (fun p c => c.name = p.1 ∧ c.dtype = p.2.dtype ∧ ∀ v ∈ c.values, Inhabits p.2 v)
    s.columns f.columns

variable {s : Schema} {f g : Frame}

theorem shaped_of_applyTo (h : s.applyTo f = .ok g) : g.Shaped s := by
  refine (forall₂_of_applyTo h).imp fun p c => ?_
  rintro ⟨d, -, -, hc⟩
  obtain ⟨hname, hdtype, hvalues⟩ := coerceColumn_eq_ok_iff.1 hc
  exact ⟨hname, hdtype, forall_mem_of_forall₂ hvalues fun v w => inhabits_of_coerce⟩

theorem Frame.Shaped.names_eq (h : f.Shaped s) : f.names = s.names := by
  rw [Frame.names, ← Schema.map_fst_columns, ← List.forall₂_eq_eq_eq, List.forall₂_map_left_iff,
    List.forall₂_map_right_iff]
  exact h.flip.imp fun p c hc => hc.1

/-- Each name finds its own column, which the coercion of its values leaves as it is. -/
theorem applyTo_of_shaped (h : f.Shaped s) : s.applyTo f = .ok f := by
  have hnodup : f.names.Nodup := h.names_eq ▸ s.distinct
  rw [applyTo_of_nodup hnodup, Schema.applyToFirst, map_eq_ok_iff]
  refine ⟨f.columns, mapM_eq_ok_iff.2 (List.forall₂_iff_zip.2 ⟨h.length_eq, ?_⟩), rfl⟩
  intro p c hpc
  obtain ⟨hname, hdtype, hvalues⟩ := List.forall₂_zip h hpc
  have hfound : f.column? p.1 = some c := hname ▸ column?_of_mem hnodup (List.of_mem_zip hpc).2
  refine convertFirst_eq_ok_iff.2 ⟨c, hfound, coerceColumn_eq_ok_iff.2 ⟨hname, hdtype, ?_⟩⟩
  exact List.forall₂_same.2 fun v hv => coerce_of_inhabits (hvalues v hv)

theorem applyTo_eq_self_iff : s.applyTo f = .ok f ↔ f.Shaped s :=
  ⟨shaped_of_applyTo, applyTo_of_shaped⟩

/-- A frame that has been reshaped stays as it is when it is reshaped again. -/
theorem applyTo_reshaped (h : s.applyTo f = .ok g) : s.applyTo g = .ok g :=
  applyTo_eq_self_iff.2 (shaped_of_applyTo h)

/-- The columns are taken out in an order other than that of the frame, and the last one is left. -/
theorem applyTo_reshaped_records :
    let s : Schema := .ofDistinct [("at", .timestamp), ("r", .struct [("x", .double), ("d", .date)]),
      ("id", .int64)] (by decide)
    let f : Frame := ⟨[.ofValues "id" [.float ⟨0x401C000000000000⟩, .float .nan],
      .ofValues "at" [.str "2020-01-02 03:04:05", .null],
      .ofValues "r" [.record [("d", .str "2020-01-02")], .record [("x", .int 1)]],
      .ofValues "note" [.null, .bool true]]⟩
    ∃ g, s.applyTo f = .ok g ∧ s.applyTo g = .ok g := by
  intro s f
  obtain ⟨g, hg⟩ : ∃ g, s.applyTo f = .ok g := ⟨_, rfl⟩
  exact ⟨g, hg, applyTo_reshaped hg⟩

end WarehouseAdapter
