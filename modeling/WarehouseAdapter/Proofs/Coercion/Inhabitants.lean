import WarehouseAdapter.Proofs.Inference.Coercion

/-!
# Values of a type

Null is a value of every type, and a NaN is a value of none. A primitive type has the values of one
kind, an array the lists of values of its element type, a struct the records of its fields in their
order. What a coercion gives is a value of the type that it was asked for.
-/

namespace WarehouseAdapter

/-- The kind of the values that a primitive type has besides null. -/
def Primitive.kind? : Primitive → Option ValueKind
  | null => none
  | boolean => some .bool
  | int64 => some .int
  | double => some .float
  | string => some .str
  | binary => some .bytes
  | date => some .date
  | time => some .time
  | timestamp => some .timestamp
  | interval => some .timedelta

mutual

def Inhabits : DataType → Value → Prop
  | .primitive p, v => v = .null ∨ v.isNull = false ∧ p.kind? = some v.kind
  | .array element, v => v = .null ∨ ∃ items, v = .list items ∧ ∀ w ∈ items, Inhabits element w
  | .struct fields, v => v = .null ∨ ∃ pairs, v = .record pairs ∧ FieldsInhabit fields pairs
  | .unrecognized _, v => v = .null ∨ v.isNull = false

def FieldsInhabit : List (String × DataType) → List (String × Value) → Prop
  | [], pairs => pairs = []
  | (name, t) :: fields, pairs =>
    ∃ v rest, pairs = (name, v) :: rest ∧ Inhabits t v ∧ FieldsInhabit fields rest

end

namespace Double

theorem isNaN_ofMagnitude (negative : Bool) {magnitude : ℕ} (h : magnitude ≤ infinityBits) :
    (ofMagnitude negative magnitude).isNaN = false := by
  have h52 : Nat.pow 2 52 = 4503599627370496 := rfl
  have h63 : Nat.pow 2 63 = 9223372036854775808 := rfl
  rw [infinityBits, h52] at h
  have hbits : (ofMagnitude negative magnitude).bits.toNat =
      (if negative then 9223372036854775808 else 0) + magnitude := by
    rw [ofMagnitude, h63, UInt64.toNat_ofNat']
    refine Nat.mod_eq_of_lt ?_
    split_ifs <;> omega
  rw [isNaN, exponentField, fractionField, hbits, h52, Bool.and_eq_false_iff]
  -- only the magnitude of infinity fills the exponent field, and its fraction is zero
  by_cases hlt : magnitude < 2047 * 4503599627370496
  · refine .inl ?_
    rw [beq_eq_false_iff_ne]
    split_ifs <;> omega
  · refine .inr ?_
    rw [bne_eq_false_iff_eq]
    split_ifs <;> omega

theorem isNaN_ofInt (n : ℤ) : (ofInt n).isNaN = false := by
  unfold ofInt nearest
  split_ifs
  · exact isNaN_ofMagnitude _ (Nat.zero_le _)
  · exact isNaN_ofMagnitude _ (Nat.min_le_right _ _)

end Double

variable {p : Primitive} {t : DataType} {v w : Value} {fields : List (String × DataType)}
  {pairs out left : List (String × Value)}

theorem kind_of_coercePrimitive (h : coercePrimitive p v = .ok w) : p.kind? = some w.kind := by
  unfold coercePrimitive at h
  split at h
  -- a float or a text is read first
  case h_3 | h_13 | h_17 =>
    split at h
    · cases h
      rfl
    · cases h
  case h_18 => cases h
  all_goals
    cases h
    rfl

theorem isNull_of_coercePrimitive (hv : v.isNull = false) (h : coercePrimitive p v = .ok w) :
    w.isNull = false := by
  have hkind := kind_of_coercePrimitive h
  cases w with
  | null => cases p <;> cases hkind
  | float x =>
    obtain rfl : p = .double := by cases p <;> first | rfl | cases hkind
    cases v with
    | float y =>
      cases h
      exact hv
    | int n =>
      cases h
      exact Double.isNaN_ofInt n.toInt
    | null | bool | str | bytes | date | time | dateTime | timestamp | timedelta | list | record =>
      cases h
  | bool | int | str | bytes | date | time | dateTime | timestamp | timedelta | list | record => rfl

theorem fieldsInhabit_of_coerceFields
    (hfields : ∀ f ∈ fields, ∀ v w, coerce f.2 v = .ok w → Inhabits f.2 w)
    (h : coerceFields fields pairs = .ok (out, left)) : FieldsInhabit fields out := by
  induction fields generalizing pairs out left with
  | nil =>
    cases h
    rw [FieldsInhabit]
  | cons f fields ih =>
    obtain ⟨name, t⟩ := f
    obtain ⟨hfield, hrest⟩ := List.forall_mem_cons.1 hfields
    rw [coerceFields] at h
    obtain ⟨w, hw, h⟩ := bind_eq_ok_iff.1 h
    obtain ⟨r, hr, h⟩ := bind_eq_ok_iff.1 h
    cases h
    rw [FieldsInhabit]
    exact ⟨w, r.1, rfl, hfield _ w hw, ih hrest hr⟩

theorem coerce_primitive_eq_ok_iff : coerce (.primitive p) v = .ok w ↔
    (v.isNull = true ∧ w = .null) ∨ (v.isNull = false ∧ coercePrimitive p v = .ok w) := by
  rw [coerce]
  by_cases hv : v.isNull = true
  · simp [hv, eq_comm]
  · simp [hv]

theorem coerce_array_eq_ok_iff {element : DataType} : coerce (.array element) v = .ok w ↔
    (v.isNull = true ∧ w = .null) ∨ ∃ items out, v = .list items ∧ w = .list out ∧
      List.Forall₂ (fun a b => coerce element a = .ok b) items out := by
  by_cases hv : v.isNull = true
  · rw [coerce_of_isNull hv]
    cases v with
    | list items => cases hv
    | _ => simp [hv, eq_comm]
  · cases v with
    | list items =>
      rw [coerce, if_neg hv]
      simp only [map_eq_ok_iff, mapM_eq_ok_iff, hv, Value.list.injEq]
      simp [eq_comm, and_comm]
    | _ => simp [coerce, hv]

theorem coerce_struct_eq_ok_iff : coerce (.struct fields) v = .ok w ↔
    (v.isNull = true ∧ w = .null) ∨ ∃ pairs out, v = .record pairs ∧ w = .record out ∧
      coerceFields fields pairs = .ok (out, []) := by
  by_cases hv : v.isNull = true
  · rw [coerce_of_isNull hv]
    cases v with
    | record pairs => cases hv
    | _ => simp [hv, eq_comm]
  · cases v with
    | record pairs =>
      rw [coerce, if_neg hv]
      constructor
      · intro h
        obtain ⟨⟨out, left⟩, hr, h⟩ := bind_eq_ok_iff.1 h
        cases left with
        | nil =>
          cases h
          exact .inr ⟨pairs, out, rfl, rfl, hr⟩
        | cons pair left => cases h
      · rintro (⟨hnull, -⟩ | ⟨pairs', out, hpairs, rfl, hr⟩)
        · exact absurd hnull hv
        · cases hpairs
          exact bind_eq_ok_iff.2 ⟨_, hr, rfl⟩
    | _ => simp [coerce, hv]

/-- A coercion gives a value of the type asked for. -/
theorem inhabits_of_coerce (h : coerce t v = .ok w) : Inhabits t w := by
  induction t generalizing v w with
  | primitive p =>
    rw [Inhabits]
    rcases coerce_primitive_eq_ok_iff.1 h with ⟨-, rfl⟩ | ⟨hv, hw⟩
    · exact .inl rfl
    · exact .inr ⟨isNull_of_coercePrimitive hv hw, kind_of_coercePrimitive hw⟩
  | array element ih =>
    rw [Inhabits]
    rcases coerce_array_eq_ok_iff.1 h with ⟨-, rfl⟩ | ⟨items, out, rfl, rfl, hout⟩
    · exact .inl rfl
    · exact .inr ⟨out, rfl, forall_mem_of_forall₂ hout fun v w => ih⟩
  | struct fields ih =>
    rw [Inhabits]
    rcases coerce_struct_eq_ok_iff.1 h with ⟨-, rfl⟩ | ⟨pairs, out, rfl, rfl, hout⟩
    · exact .inl rfl
    · exact .inr ⟨out, rfl, fieldsInhabit_of_coerceFields (fun f hf v w => ih f hf) hout⟩
  | unrecognized kind =>
    rw [coerce] at h
    rw [Inhabits]
    by_cases hv : v.isNull = true
    · rw [if_pos hv] at h
      cases h
      exact .inl rfl
    · rw [if_neg hv] at h
      cases h
      exact .inr (by simpa using hv)

end WarehouseAdapter
