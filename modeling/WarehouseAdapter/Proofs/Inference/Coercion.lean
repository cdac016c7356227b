import WarehouseAdapter.Coercion
import WarehouseAdapter.Proofs.Inference.Values

/-!
# Coercion of values to types above their own

A value converts to every type above its own, with one exception: the order puts boolean below
int64 and double, but a boolean does not convert to a number. So the conversion fails exactly when
a boolean of the value stands where the type has a number, and with a complaint about a boolean.
-/

namespace WarehouseAdapter

open DataType (FieldsCastTo)

mutual

/-- A boolean inside the value stands where the type has a number. -/
def BooleanAsNumber : DataType → Value → Prop
  | .primitive p, v => v.kind = .bool ∧ (p = .int64 ∨ p = .double)
  | .array element, .list items => ∃ v ∈ items, BooleanAsNumber element v
  | .struct fields, .record pairs => FieldsBooleanAsNumber fields pairs
  | _, _ => False

def FieldsBooleanAsNumber : List (String × DataType) → List (String × Value) → Prop
  | [], _ => False
  | (name, t) :: rest, pairs =>
    (∃ p ∈ pairs, p.1 = name ∧ BooleanAsNumber t p.2) ∨ FieldsBooleanAsNumber rest pairs

end

/-- The complaint that a boolean does not convert to a number. -/
def IsBooleanFault (fault : CoercionFault) : Prop :=
  fault = .mismatch .bool .int64 ∨ fault = .mismatch .bool .double

theorem not_booleanAsNumber_of_isNull {v : Value} (h : v.isNull = true) (t : DataType) :
    ¬ BooleanAsNumber t v := by
  cases v with
  | null => cases t <;> simp [BooleanAsNumber, Value.kind]
  | float x => cases t <;> simp [BooleanAsNumber, Value.kind]
  | bool | int | str | bytes | date | time | dateTime | timestamp | timedelta | list | record =>
    cases h

theorem coerce_of_isNull {v : Value} (h : v.isNull = true) (t : DataType) :
    coerce t v = .ok .null := by
  unfold coerce
  cases t with
  | primitive | array | struct => exact if_pos h
  | unrecognized => exact congrArg Except.ok (if_pos h)

namespace Primitive

variable {p : Primitive}

theorem boolean_castsTo_iff : boolean.CastsTo p ↔ p = boolean ∨ p = int64 ∨ p = double := by
  cases p <;> decide

theorem int64_castsTo_iff : int64.CastsTo p ↔ p = int64 ∨ p = double := by
  cases p <;> decide

theorem date_castsTo_iff : date.CastsTo p ↔ p = date ∨ p = timestamp := by
  cases p <;> decide

theorem castsTo_iff_eq {q : Primitive} (h : p ≠ null ∧ p ≠ boolean ∧ p ≠ int64 ∧ p ≠ date) :
    p.CastsTo q ↔ q = p := by
  revert q
  have hall : ∀ p ∈ all, p ≠ null ∧ p ≠ boolean ∧ p ≠ int64 ∧ p ≠ date →
      ∀ q ∈ all, p.CastsTo q ↔ q = p := by decide +kernel
  exact fun {q} => hall p p.mem_all h q q.mem_all

end Primitive

theorem coercePrimitive_failsIff {v : Value} {p q : Primitive} (hv : v.isNull = false)
    (h : inferValue v = .ok (.primitive p)) (hpq : p.CastsTo q) :
    FailsIff IsBooleanFault (BooleanAsNumber (.primitive q) v) (coercePrimitive q v) := by
  have hother : ∀ p, p ≠ .null ∧ p ≠ .boolean ∧ p ≠ .int64 ∧ p ≠ .date → p.CastsTo q → q = p :=
    fun p hp => (Primitive.castsTo_iff_eq hp).1
  cases v with
  | null => cases hv
  | list items =>
    obtain ⟨types, -, ⟨-, he⟩ | ⟨u, -, -, he⟩⟩ := inferList_eq_ok_iff.1 h
    · cases he
    · cases he
  | record pairs =>
    obtain ⟨fields, -, -, he⟩ := inferRecord_eq_ok_iff.1 h
    cases he
  | bool b =>
    cases h
    rcases Primitive.boolean_castsTo_iff.1 hpq with rfl | rfl | rfl
    · exact failsIff_ok (by simp [BooleanAsNumber]) _
    · exact failsIff_error (by simp [BooleanAsNumber, Value.kind]) (.inl rfl)
    · exact failsIff_error (by simp [BooleanAsNumber, Value.kind]) (.inr rfl)
  | int n =>
    cases h
    rcases Primitive.int64_castsTo_iff.1 hpq with rfl | rfl
    · exact failsIff_ok (by simp [BooleanAsNumber, Value.kind]) _
    · exact failsIff_ok (by simp [BooleanAsNumber, Value.kind]) _
  | date d =>
    cases h
    rcases Primitive.date_castsTo_iff.1 hpq with rfl | rfl
    · exact failsIff_ok (by simp [BooleanAsNumber, Value.kind]) _
    · exact failsIff_ok (by simp [BooleanAsNumber, Value.kind]) _
  | float | str | bytes | time | dateTime | timestamp | timedelta =>
    cases h
    obtain rfl := hother _ (by decide) hpq
    exact failsIff_ok (by simp [BooleanAsNumber, Value.kind]) _

variable {fields a b : List (String × DataType)} {pairs : List (String × Value)}

theorem takeField_head {name : String} {v : Value} :
    takeField name ((name, v) :: pairs) = (v, pairs) := by
  rw [takeField, if_pos rfl]

theorem fieldsBooleanAsNumber_cons_of_notMem {name : String} {v : Value}
    (h : name ∉ fields.map Prod.fst) :
    FieldsBooleanAsNumber fields ((name, v) :: pairs) ↔ FieldsBooleanAsNumber fields pairs := by
  induction fields with
  | nil => exact Iff.rfl
  | cons f fields ih =>
    rw [List.map_cons, List.mem_cons, not_or] at h
    change (∃ p ∈ (name, v) :: pairs, p.1 = f.1 ∧ BooleanAsNumber f.2 p.2) ∨ _ ↔
      (∃ p ∈ pairs, p.1 = f.1 ∧ BooleanAsNumber f.2 p.2) ∨ _
    rw [ih h.2]
    simp [h.1]

theorem coerceFields_failsIff (hnodup : (pairs.map Prod.fst).Nodup)
    (h : inferFields pairs = .ok a) (hab : FieldsCastTo a b)
    (hpairs : ∀ p ∈ pairs, ∀ s t, inferValue p.2 = .ok s → s ≤ t →
      FailsIff IsBooleanFault (BooleanAsNumber t p.2) (coerce t p.2)) :
    FailsIff IsBooleanFault (FieldsBooleanAsNumber b pairs) (coerceFields b pairs) := by
  induction pairs generalizing a b with
  | nil =>
    cases h
    cases b with
    | nil => exact failsIff_ok not_false ([], [])
    | cons g b => exact hab.elim
  | cons pair pairs ih =>
    obtain ⟨s, rest, hs, hrest, rfl⟩ := inferFields_cons_eq_ok_iff.1 h
    cases b with
    | nil => exact hab.elim
    | cons g b =>
      obtain ⟨hname, hst, hab⟩ := hab
      obtain ⟨name, t⟩ := g
      obtain ⟨name', v⟩ := pair
      obtain rfl : name' = name := hname
      rw [List.map_cons, List.nodup_cons] at hnodup
      obtain ⟨hpair, hpairs⟩ := List.forall_mem_cons.1 hpairs
      have hb : name' ∉ b.map Prod.fst := by
        rw [← hab.names_eq, inferFields_names hrest]
        exact hnodup.1
      rw [coerceFields, takeField_head]
      have hfields := (ih hnodup.2 hrest hab hpairs)
      have hchain : FailsIff IsBooleanFault (BooleanAsNumber t v ∨ FieldsBooleanAsNumber b pairs)
          (coerce t v >>= fun w => coerceFields b pairs >>= fun r =>
            .ok ((name', w) :: r.1, r.2)) :=
        (hpair s t hs hst).bind fun w _ =>
          (hfields.bind fun r _ => failsIff_ok not_false _).congr (by simp)
      refine hchain.congr ?_
      change _ ↔ (∃ p ∈ (name', v) :: pairs, p.1 = name' ∧ BooleanAsNumber t p.2) ∨ _
      rw [fieldsBooleanAsNumber_cons_of_notMem hb]
      have hno : ¬ ∃ p ∈ pairs, p.1 = name' ∧ BooleanAsNumber t p.2 := by
        rintro ⟨p, hp, hname, -⟩
        exact hnodup.1 (List.mem_map.2 ⟨p, hp, hname⟩)
      simp only [List.mem_cons, or_and_right, exists_or, exists_eq_left, true_and, hno, or_false]

/-- A record of the declared names in the declared order is used up. -/
theorem coerceFields_used_up {r : List (String × Value) × List (String × Value)}
    (hnames : fields.map Prod.fst = pairs.map Prod.fst) (h : coerceFields fields pairs = .ok r) :
    r.2 = [] := by
  induction fields generalizing pairs r with
  | nil =>
    cases h
    exact List.map_eq_nil_iff.1 hnames.symm
  | cons f fields ih =>
    cases pairs with
    | nil => cases hnames
    | cons pair pairs =>
      obtain ⟨hname, hrest⟩ := List.cons.inj hnames
      obtain ⟨name, t⟩ := f
      obtain ⟨name', v⟩ := pair
      obtain rfl : name = name' := hname
      rw [coerceFields, takeField_head] at h
      obtain ⟨w, -, h⟩ := bind_eq_ok_iff.1 h
      obtain ⟨r', hr', h⟩ := bind_eq_ok_iff.1 h
      cases h
      have hused : r'.2 = [] := ih hrest hr'
      exact hused

theorem coerce_primitive_failsIff {v : Value} {p : Primitive} {t : DataType}
    (h : inferValue v = .ok (.primitive p)) (hp : p ≠ .null) (hst : .primitive p ≤ t) :
    FailsIff IsBooleanFault (BooleanAsNumber t v) (coerce t v) := by
  rcases DataType.primitive_le_iff.1 hst with hnull | ⟨q, rfl, hpq⟩
  · exact absurd hnull hp
  by_cases hv : v.isNull = true
  · rw [coerce_of_isNull hv]
    exact failsIff_ok (not_booleanAsNumber_of_isNull hv _) Value.null
  · rw [coerce, if_neg hv]
    exact coercePrimitive_failsIff (by simpa using hv) h hpq

/-- A value converts to a type above its own unless that takes a boolean for a number. -/
theorem coerce_failsIff {v : Value} {s t : DataType} (h : inferValue v = .ok s) (hst : s ≤ t) :
    FailsIff IsBooleanFault (BooleanAsNumber t v) (coerce t v) := by
  induction v generalizing s t with
  | null =>
    cases h
    rw [coerce_of_isNull rfl]
    exact failsIff_ok (not_booleanAsNumber_of_isNull rfl t) Value.null
  | bool | int | float | str | bytes | date | time | dateTime | timestamp | timedelta =>
    cases h
    exact coerce_primitive_failsIff rfl (by decide) hst
  | list items ih =>
    obtain ⟨u, rfl⟩ : ∃ u, s = .array u := by
      obtain ⟨types, -, ⟨-, rfl⟩ | ⟨u, -, -, rfl⟩⟩ := inferList_eq_ok_iff.1 h
      · exact ⟨_, rfl⟩
      · exact ⟨u, rfl⟩
    obtain ⟨element, rfl, hu⟩ := DataType.array_le_iff.1 hst
    have hitems : ∀ v ∈ items, FailsIff IsBooleanFault (BooleanAsNumber element v)
        (coerce element v) := by
      intro v hv
      obtain ⟨s, hs, hsu⟩ := inferList_le h v hv
      exact ih v hv hs (hsu.trans hu)
    exact (FailsIff.mapM hitems).map Value.list
  | record pairs ih =>
    obtain ⟨a, ha, ⟨-, hnodup⟩, rfl⟩ := inferRecord_eq_ok_iff.1 h
    obtain ⟨b, rfl, hab⟩ := DataType.struct_le_iff.1 hst
    rw [inferFields_names ha] at hnodup
    have hfields := coerceFields_failsIff hnodup ha hab fun p hp s t => ih p hp
    have hnames : b.map Prod.fst = pairs.map Prod.fst := by
      rw [← hab.names_eq, inferFields_names ha]
    rw [coerce, if_neg (by simp [Value.isNull])]
    have hbool : FieldsBooleanAsNumber b pairs ∨ False ↔
        BooleanAsNumber (.struct b) (.record pairs) := by rw [or_false, BooleanAsNumber]
    refine FailsIff.congr (hfields.bind ?_) hbool
    rintro ⟨out, left⟩ hr
    obtain rfl : left = [] := coerceFields_used_up hnames hr
    exact failsIff_ok not_false _

end WarehouseAdapter
