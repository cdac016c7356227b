import WarehouseAdapter.Proofs.Coercion.Records

/-!
# The order of pairs

A record converts to a struct by its keys and by the value under each name, and neither changes when
its pairs change places. Arrays and structs carry this outwards, so the pairs of a record at any
depth may change places. Only a type that keeps a value as it is would show their order.
-/

namespace WarehouseAdapter

namespace DataType

mutual

/-- No part of the type is kept by its name only. -/
def Recognized : DataType → Prop
  | primitive _ => True
  | array element => element.Recognized
  | struct fields => FieldsRecognized fields
  | unrecognized _ => False

def FieldsRecognized : List (String × DataType) → Prop
  | [] => True
  | (_, t) :: rest => t.Recognized ∧ FieldsRecognized rest

end

theorem fieldsRecognized_iff {fields : List (String × DataType)} :
    FieldsRecognized fields ↔ ∀ f ∈ fields, f.2.Recognized := by
  induction fields with
  | nil => simp [FieldsRecognized]
  | cons f fields ih => rw [FieldsRecognized, List.forall_mem_cons, ih]

end DataType

/-- The pairs of one record inside the value change places. -/
inductive Value.Rearranged : Value → Value → Prop
  | here {pairs pairs' : List (String × Value)} (h : pairs.Perm pairs') :
      Rearranged (.record pairs) (.record pairs')
  | item {v w : Value} (before behind : List Value) (h : Rearranged v w) :
      Rearranged (.list (before ++ v :: behind)) (.list (before ++ w :: behind))
  | field {v w : Value} (before behind : List (String × Value)) (name : String)
      (h : Rearranged v w) :
      Rearranged (.record (before ++ (name, v) :: behind)) (.record (before ++ (name, w) :: behind))

variable {name key : String} {t element : DataType} {v w : Value} {items : List Value}
  {fields : List (String × DataType)} {pairs pairs' before behind : List (String × Value)}

theorem toOption_coerce_record_of_ne (hr : t.Recognized) (h : ∀ fields, t ≠ .struct fields) :
    (coerce t (.record pairs)).toOption = none := by
  cases t with
  | primitive p => cases p <;> rfl
  | array element => rfl
  | struct fields => exact absurd rfl (h fields)
  | unrecognized kind => exact hr.elim

theorem toOption_coerce_list_of_ne (hr : t.Recognized) (h : ∀ element, t ≠ .array element) :
    (coerce t (.list items)).toOption = none := by
  cases t with
  | primitive p => cases p <;> rfl
  | array element => exact absurd rfl (h element)
  | struct fields => rfl
  | unrecognized kind => exact hr.elim

/-- Only the keys of a record and the values under the declared names count. -/
theorem toOption_coerce_record_congr (hnodup : (fields.map Prod.fst).Nodup)
    (hkeys : (pairs'.map Prod.fst).Perm (pairs.map Prod.fst))
    (hvalues : (pairs.map Prod.fst).Nodup → ∀ f ∈ fields,
      (coerce f.2 (fieldValue pairs' f.1)).toOption = (coerce f.2 (fieldValue pairs f.1)).toOption) :
    (coerce (.struct fields) (.record pairs')).toOption =
      (coerce (.struct fields) (.record pairs)).toOption := by
  rw [toOption_eq_toOption_iff]
  intro u
  rw [coerce_record_eq_ok_iff hnodup, coerce_record_eq_ok_iff hnodup, keysAmong_iff_of_perm hkeys]
  refine and_congr_right fun hamong => exists_congr fun out => and_congr_right fun _ => ?_
  refine forall₂_congr_of_mem fun f hf q => and_congr_right fun _ => ?_
  exact toOption_eq_toOption_iff.1 (hvalues hamong.distinct f hf) q.2

theorem forall₂_append_cons_congr {α β : Type} {S : α → β → Prop} {a b : α} {as bs : List α}
    {cs : List β} (h : ∀ c, S a c ↔ S b c) :
    List.Forall₂ S (as ++ a :: bs) cs ↔ List.Forall₂ S (as ++ b :: bs) cs := by
  induction as generalizing cs with
  | nil => simp only [List.nil_append, List.forall₂_cons_left_iff, h]
  | cons a' as ih => simp only [List.cons_append, List.forall₂_cons_left_iff, ih]

theorem coerce_list_eq_ok_iff : coerce (.array element) (.list items) = .ok w ↔
    ∃ out, w = .list out ∧ List.Forall₂ (fun a b => coerce element a = .ok b) items out := by
  rw [coerce_array_eq_ok_iff]
  simp [Value.isNull]

theorem toOption_coerce_list_congr (before behind : List Value)
    (h : (coerce element w).toOption = (coerce element v).toOption) :
    (coerce (.array element) (.list (before ++ w :: behind))).toOption =
      (coerce (.array element) (.list (before ++ v :: behind))).toOption := by
  rw [toOption_eq_toOption_iff] at h ⊢
  intro u
  rw [coerce_list_eq_ok_iff, coerce_list_eq_ok_iff]
  exact exists_congr fun out => and_congr_right fun _ => forall₂_append_cons_congr h

/-- Under every key, the record has what it had, or the new value in place of the old one. -/
theorem fieldValue_append_cons {P : Value → Value → Prop} (hrefl : ∀ u, P u u) (h : P v w) :
    P (fieldValue (before ++ (name, v) :: behind) key)
      (fieldValue (before ++ (name, w) :: behind) key) := by
  rcases lookup_append_cons before behind name key v w with heq | ⟨hv, hw⟩
  · rw [fieldValue, fieldValue, heq]
    exact hrefl _
  · rw [fieldValue, fieldValue, hv, hw]
    exact h

theorem toOption_coerce_of_rearranged (h : v.Rearranged w) (ht : t.WellFormed)
    (hr : t.Recognized) : (coerce t w).toOption = (coerce t v).toOption := by
  induction h generalizing t with
  | here hperm =>
    cases t with
    | primitive | array | unrecognized =>
      rw [toOption_coerce_record_of_ne hr (by simp), toOption_coerce_record_of_ne hr (by simp)]
    | struct fields =>
      refine toOption_coerce_record_congr ht.2.1 (hperm.map Prod.fst).symm fun hdistinct f _ => ?_
      rw [fieldValue, fieldValue, lookup_eq_of_perm hperm hdistinct]
  | item before behind _ ih =>
    cases t with
    | primitive | struct | unrecognized =>
      rw [toOption_coerce_list_of_ne hr (by simp), toOption_coerce_list_of_ne hr (by simp)]
    | array element => exact toOption_coerce_list_congr before behind (ih ht hr)
  | @field v w before behind name _ ih =>
    cases t with
    | primitive | array | unrecognized =>
      rw [toOption_coerce_record_of_ne hr (by simp), toOption_coerce_record_of_ne hr (by simp)]
    | struct fields =>
      refine toOption_coerce_record_congr ht.2.1 (by simp) fun _ f hf => ?_
      -- the key may be repeated: then only its first pair is under the name
      have hfield := ih (DataType.wellFormedFields_iff.1 ht.2.2 f hf)
        (DataType.fieldsRecognized_iff.1 hr f hf)
      exact fieldValue_append_cons (P := fun a b => (coerce f.2 b).toOption = (coerce f.2 a).toOption)
        (fun _ => rfl) hfield

/-- A record converts when its keys are distinct and declared and each value converts to the type of
its field; the result has a pair for every declared field. The pairs of records at any depth may
stand in any order. -/
theorem coerce_record_in_any_order :
    (∀ fields pairs, (DataType.struct fields).WellFormed →
      ((∃ w, coerce (.struct fields) (.record pairs) = .ok w) ↔ Convertible fields pairs) ∧
        ∀ w, coerce (.struct fields) (.record pairs) = .ok w →
          ∃ out, w = .record out ∧ List.Forall₂ (FieldConverted pairs) fields out) ∧
      ∀ (t : DataType) (v w : Value), t.WellFormed → t.Recognized →
        Relation.ReflTransGen Value.Rearranged v w →
        (coerce t w).toOption = (coerce t v).toOption := by
  refine ⟨fun fields pairs ht => ?_, fun t v w ht hr h => ?_⟩
  · exact ⟨exists_coerce_record_iff ht.2.1, fun w => forall₂_fieldConverted ht.2.1⟩
  · induction h with
    | refl => rfl
    | tail _ hstep ih => exact (toOption_coerce_of_rearranged hstep ht hr).trans ih

/-- A missing field, and a record inside a list with its pairs the other way round. -/
theorem coerce_record_in_any_order_dates :
    let fields : List (String × DataType) := [("x", .double), ("d", .date)]
    let v := Value.list [.null, .record [("d", .str "2020-01-02"), ("x", .int 1)]]
    let w := Value.list [.null, .record [("x", .int 1), ("d", .str "2020-01-02")]]
    (DataType.struct fields).WellFormed ∧ Convertible fields [("d", .str "2020-01-02")] ∧
      (DataType.array (.struct fields)).Recognized ∧ Relation.ReflTransGen Value.Rearranged v w ∧
      (coerce (.array (.struct fields)) w).toOption =
        (coerce (.array (.struct fields)) v).toOption := by
  intro fields v w
  have ht : (DataType.struct fields).WellFormed :=
    ⟨by simp [fields], by decide, trivial, trivial, trivial⟩
  have hr : (DataType.array (.struct fields)).Recognized := ⟨trivial, trivial, trivial⟩
  have hvw : Relation.ReflTransGen Value.Rearranged v w :=
    .single (.item [.null] [] (.here (.swap _ _ _)))
  obtain ⟨hrecord, horder⟩ := coerce_record_in_any_order
  exact ⟨ht, (hrecord fields _ ht).1.1 ⟨_, rfl⟩, hr, hvw, horder _ v w ht hr hvw⟩

end WarehouseAdapter
