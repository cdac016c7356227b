import WarehouseAdapter.Proofs.Coercion.Records
import WarehouseAdapter.Proofs.Parameter.RepeatedKeys

/-!
# Parameters read back as values

A bound parameter is a value again: a scalar its wire value, an array the list of its values, a
struct the record of its children. Binding and coercion treat dates and instants by rules of their
own and records by different walks: one looks up the first pair of each field, the other takes pairs
out and wants none left. Of a value that binds, coercion to the same type gives the parameter read
back exactly when no record of the value repeats a key and no float of it is a NaN.
-/

namespace WarehouseAdapter

mutual

def BoundParameter.toValue : BoundParameter → Value
  | scalar _ _ w => w.toValue
  | array _ _ ws => .list (ws.map WireValue.toValue)
  | struct _ children => .record (fieldValues children)

def BoundParameter.fieldValues : List BoundParameter → List (String × Value)
  | [] => []
  | b :: rest => (b.name, b.toValue) :: fieldValues rest

end

mutual

/-- No record inside repeats a key, and no float inside is a NaN. -/
def Value.IsRegular : Value → Prop
  | float x => x.isNaN = false
  | list items => ItemsRegular items
  | record pairs => (pairs.map Prod.fst).Nodup ∧ FieldsRegular pairs
  | _ => True

def Value.ItemsRegular : List Value → Prop
  | [] => True
  | v :: rest => v.IsRegular ∧ ItemsRegular rest

def Value.FieldsRegular : List (String × Value) → Prop
  | [] => True
  | (_, v) :: rest => v.IsRegular ∧ FieldsRegular rest

end

open BoundParameter (fieldValues)

variable {name : String} {p : Primitive} {t : DataType} {v w : Value} {b : BoundParameter}
  {items : List Value} {fields : List (String × DataType)} {pairs others : List (String × Value)}

theorem itemsRegular_iff : Value.ItemsRegular items ↔ ∀ v ∈ items, v.IsRegular := by
  induction items with
  | nil => simp [Value.ItemsRegular]
  | cons v items ih => rw [Value.ItemsRegular, List.forall_mem_cons, ih]

theorem fieldsRegular_iff : Value.FieldsRegular pairs ↔ ∀ p ∈ pairs, p.2.IsRegular := by
  induction pairs with
  | nil => simp [Value.FieldsRegular]
  | cons p pairs ih => rw [Value.FieldsRegular, List.forall_mem_cons, ih]

theorem Value.IsRegular.isNull_eq_false (h : v.IsRegular) (hv : v ≠ .null) : v.isNull = false := by
  cases v with
  | null => exact absurd rfl hv
  | float x => exact h
  | bool | int | str | bytes | date | time | dateTime | timestamp | timedelta | list | record => rfl

theorem Primitive.Admits.isRegular (h : p.Admits v) (hv : v.isNull = false) : v.IsRegular := by
  cases v with
  | float x => exact hv
  | list items => cases p <;> exact h.elim
  | record pairs => cases p <;> exact h.elim
  | null | bool | int | str | bytes | date | time | dateTime | timestamp | timedelta => trivial

theorem WireValue.toValue_ne_null (w : WireValue) : w.toValue ≠ .null := by
  cases w <;> simp [toValue]

/-- Where a scalar rule of binding applies, the conversion of that value gives the same scalar. -/
theorem coercePrimitive_of_bindScalar {role : Role} {w : WireValue}
    (hrole : DataType.role (.primitive p) = .ok role) (h : bindScalar role v = .ok w) :
    coercePrimitive p v = .ok w.toValue := by
  cases p with
  | null | binary | time | interval => cases hrole
  | string | int64 | double | boolean =>
    cases hrole
    cases v <;> cases h
    rfl
  | timestamp =>
    cases hrole
    cases v with
    | str s =>
      rw [bindScalar] at h
      rw [coercePrimitive]
      cases hs : Timestamp.ofText? s with
      | none =>
        rw [hs] at h
        cases h
      | some ts =>
        rw [hs] at h
        cases h
        rfl
    | timestamp | dateTime | date =>
      cases h
      rfl
    | null | bool | int | float | bytes | time | timedelta | list | record => cases h
  | date =>
    cases hrole
    cases v with
    | str s =>
      rw [bindScalar] at h
      rw [coercePrimitive]
      cases hs : DateTime.ofText? s with
      | none =>
        rw [hs] at h
        cases h
      | some dt =>
        rw [hs] at h
        cases h
        rfl
    | timestamp | dateTime | date =>
      cases h
      rfl
    | null | bool | int | float | bytes | time | timedelta | list | record => cases h

theorem coerce_primitive_iff_isRegular {role : Role} {w : WireValue}
    (hrole : DataType.role (.primitive p) = .ok role) (h : bindScalar role v = .ok w) :
    coerce (.primitive p) v = .ok w.toValue ↔ v.IsRegular := by
  have hadmits : p.Admits v := (bindScalar_succeedsIff hrole v).ok_iff.1 ⟨w, h⟩
  rw [coerce_primitive_eq_ok_iff]
  constructor
  · rintro (⟨-, hnull⟩ | ⟨hv, -⟩)
    · exact absurd hnull w.toValue_ne_null
    · exact hadmits.isRegular hv
  · intro hregular
    have hne : v ≠ .null := by
      rintro rfl
      exact Primitive.not_admits_null hadmits
    exact .inr ⟨hregular.isNull_eq_false hne, coercePrimitive_of_bindScalar hrole h⟩

theorem bindSingle_eq_ok_iff : bindSingle name t v = .ok b ↔
    ∃ role w, t.role = .ok role ∧ bindScalar role v = .ok w ∧ b = .scalar name w.wireType w := by
  rw [bindSingle, bind_eq_ok_iff]
  simp only [bind_eq_ok_iff, exists_and_left]
  simp [pure, Except.pure, eq_comm]

theorem bindArray_eq_ok_iff {element : DataType} : bindArray name element items = .ok b ↔
    ∃ w role values, WireType.ofType? element = some w ∧ element.role = .ok role ∧
      List.Forall₂ (fun v value => bindScalar role v = .ok value) items values ∧
      b = .array name w values := by
  unfold bindArray
  cases WireType.ofType? element with
  | none => simp
  | some w =>
    simp only [bind_eq_ok_iff, mapM_eq_ok_iff]
    simp [pure, Except.pure, eq_comm]

theorem bindFields_cons_eq_ok_iff {parameter : String} {children : List BoundParameter} :
    bindFields parameter ((name, t) :: fields) pairs = .ok children ↔
      ∃ v b rest, pairs.lookup name = some v ∧ bindParameter name t v = .ok b ∧
        bindFields parameter fields pairs = .ok rest ∧ children = b :: rest := by
  rw [bindFields]
  cases pairs.lookup name with
  | none => simp
  | some v =>
    refine (bind_cons_eq_ok_iff (f := id)).trans ?_
    simp

/-- Fields bound from a record are its fields converted, and use it up, exactly when the record has
just the declared keys, each once, and regular values. -/
theorem coerceFields_eq_fieldValues_iff {parameter : String} {children : List BoundParameter}
    (hnodup : (fields.map Prod.fst).Nodup)
    (hfields : ∀ f ∈ fields, ∀ v b, bindParameter f.1 f.2 v = .ok b →
      (coerce f.2 v = .ok b.toValue ↔ v.IsRegular))
    (hb : bindFields parameter fields pairs = .ok children) :
    coerceFields fields pairs = .ok (fieldValues children, []) ↔
      (∀ p ∈ pairs, p.1 ∈ fields.map Prod.fst) ∧ (pairs.map Prod.fst).Nodup ∧
        ∀ p ∈ pairs, p.2.IsRegular := by
  induction fields generalizing pairs children with
  | nil =>
    cases hb
    rw [coerceFields, fieldValues]
    cases pairs with
    | nil => simp
    | cons pair pairs =>
      refine iff_of_false (by simp) fun h => ?_
      exact absurd (h.1 pair (by simp)) (by simp)
  | cons f fields ih =>
    obtain ⟨name, t⟩ := f
    obtain ⟨hfield, hfields⟩ := List.forall_mem_cons.1 hfields
    rw [List.map_cons, List.nodup_cons] at hnodup
    obtain ⟨v, b, rest, hv, hbind, hrest, rfl⟩ := bindFields_cons_eq_ok_iff.1 hb
    obtain ⟨others, htake, hperm, hlookup⟩ := takeField_of_lookup hv
    have hname : b.name = name := ((bindParameter_succeedsIff name t v).of_ok hbind).1
    have hother : ∀ f ∈ fields, f.1 ≠ name :=
      fun f hf => ne_of_mem_of_not_mem (List.mem_map_of_mem (f := Prod.fst) hf) hnodup.1
    have hrest' : bindFields parameter fields others = .ok rest := by
      rw [bindFields_congr parameter fun f hf => hlookup f.1 (hother f hf), hrest]
    have hcoerce : coerceFields ((name, t) :: fields) pairs = .ok (fieldValues (b :: rest), []) ↔
        v.IsRegular ∧ coerceFields fields others = .ok (fieldValues rest, []) := by
      rw [coerceFields_cons_eq_ok_iff htake, fieldValues, hname, ← hfield v b hbind]
      simp [eq_comm]
    have hforall : ∀ P : String × Value → Prop,
        (∀ p ∈ pairs, P p) ↔ P (name, v) ∧ ∀ p ∈ others, P p := by
      intro P
      simp only [hperm.mem_iff, List.forall_mem_cons]
    rw [hcoerce, ih hnodup.2 hfields hrest', (hperm.map Prod.fst).nodup_iff, hforall, hforall,
      List.map_cons, List.map_cons, List.nodup_cons]
    simp only [List.mem_cons, true_or, true_and]
    -- no other field has the name, so another pair of it is one too many
    constructor
    · rintro ⟨hregular, hkeys, hothers, hregulars⟩
      refine ⟨fun p hp => .inr (hkeys p hp), ⟨fun hmem => ?_, hothers⟩, hregular, hregulars⟩
      obtain ⟨p, hp, hpname⟩ := List.mem_map.1 hmem
      exact hnodup.1 (hpname ▸ hkeys p hp)
    · rintro ⟨hkeys, ⟨hnotMem, hothers⟩, hregular, hregulars⟩
      refine ⟨hregular, fun p hp => (hkeys p hp).resolve_left fun hpname => ?_, hothers, hregulars⟩
      exact hnotMem (hpname ▸ List.mem_map_of_mem hp)

theorem forall₂_map_iff {α β γ : Type} {S : α → β → Prop} {C : α → γ → Prop} {P : α → Prop}
    {g : β → γ} {as : List α} {bs : List β} (h : List.Forall₂ S as bs)
    (hS : ∀ a b, S a b → (C a (g b) ↔ P a)) :
    List.Forall₂ C as (bs.map g) ↔ ∀ a ∈ as, P a := by
  induction h with
  | nil => simp
  | cons hab _ ih => rw [List.map_cons, List.forall₂_cons, List.forall_mem_cons, hS _ _ hab, ih]

/-- Of a value that binds, coercion to the same type gives the parameter read back exactly when no
record of the value repeats a key and no float of it is a NaN. -/
theorem coerce_eq_toValue_iff (ht : t.WellFormed) (hb : bindParameter name t v = .ok b) :
    coerce t v = .ok b.toValue ↔ v.IsRegular := by
  induction t generalizing name v b with
  | primitive p =>
    have hsingle : bindSingle name (.primitive p) v = .ok b := by
      rw [← hb]
      cases v <;> rfl
    obtain ⟨role, w, hrole, hw, rfl⟩ := bindSingle_eq_ok_iff.1 hsingle
    exact coerce_primitive_iff_isRegular hrole hw
  | unrecognized kind =>
    have hadmits := (bindParameter_succeedsIff name _ v).ok_iff.1 ⟨b, hb⟩
    exact absurd hadmits DataType.not_admits_unrecognized
  | array element =>
    have hadmits := (bindParameter_succeedsIff name _ v).ok_iff.1 ⟨b, hb⟩
    obtain ⟨p, items, rfl, rfl, -, -⟩ := DataType.admits_array_iff.1 hadmits
    obtain ⟨w, role, values, -, hrole, hvalues, rfl⟩ := bindArray_eq_ok_iff.1 hb
    rw [coerce_array_eq_ok_iff, Value.IsRegular, itemsRegular_iff, ← forall₂_map_iff hvalues
      fun v value hvalue => coerce_primitive_iff_isRegular hrole hvalue]
    simp [Value.isNull, BoundParameter.toValue]
  | struct fields ih =>
    have hadmits := (bindParameter_succeedsIff name _ v).ok_iff.1 ⟨b, hb⟩
    obtain ⟨pairs, rfl, hkeys, -⟩ := DataType.admits_struct_iff.1 hadmits
    obtain ⟨-, hnodup, hwf⟩ := ht
    rw [DataType.wellFormedFields_iff] at hwf
    rw [bindParameter, unexpected?_eq_none_iff.2 hkeys] at hb
    obtain ⟨children, hchildren, rfl⟩ := map_eq_ok_iff.1 hb
    have hfields := (coerceFields_eq_fieldValues_iff hnodup
      (fun f hf v b hbind => ih f hf (hwf f hf) hbind) hchildren).trans (and_iff_right hkeys)
    rw [coerce_struct_eq_ok_iff, Value.IsRegular, fieldsRegular_iff, ← hfields]
    simp [Value.isNull, BoundParameter.toValue]

theorem coerce_eq_toValue_iff_dates :
    (DataType.struct [("day", .date), ("at", .array .timestamp)]).WellFormed ∧
      ∃ b, bindParameter "p" (.struct [("day", .date), ("at", .array .timestamp)])
          (.record [("at", .list [.date ⟨2020, 1, 2, by decide⟩]), ("day", .str "2020-01-02")]) =
            .ok b ∧
        coerce (.struct [("day", .date), ("at", .array .timestamp)])
          (.record [("at", .list [.date ⟨2020, 1, 2, by decide⟩]), ("day", .str "2020-01-02")]) =
            .ok b.toValue := by
  have ht : (DataType.struct [("day", .date), ("at", .array .timestamp)]).WellFormed :=
    ⟨by simp, by decide, trivial, trivial, trivial⟩
  have hb : bindParameter "p" (.struct [("day", .date), ("at", .array .timestamp)])
      (.record [("at", .list [.date ⟨2020, 1, 2, by decide⟩]), ("day", .str "2020-01-02")]) =
        .ok (.struct "p" [.scalar "day" .date (.date ⟨2020, 1, 2, by decide⟩),
          .array "at" .timestamp [.timestamp ⟨.atMidnight ⟨2020, 1, 2, by decide⟩⟩]]) := by cbv
  exact ⟨ht, _, hb, (coerce_eq_toValue_iff ht hb).2 (by simp [Value.IsRegular,
    Value.ItemsRegular, Value.FieldsRegular])⟩

end WarehouseAdapter
