import WarehouseAdapter.Parameter.Binding
import WarehouseAdapter.Proofs.Except

/-!
# Values that a parameter admits

`DataType.Admits` says which values a declared type takes, without roles, errors or wire values:
scalars take their own kind, and dates and instants also each other and the texts that spell them;
an array takes a list of such scalars; a struct takes a record of declared keys in which the first
pair under each declared name holds a value for its field. Binding succeeds on just these values,
and the bound parameter then has the shape of the type (`DataType.Mirrors`).

`DataType.Reaches` follows binding into a value, from each field to the first pair under its name.
No part that it reaches is null, and no part of the type lacks a wire form.
-/

namespace WarehouseAdapter

namespace Primitive

def IsWire (p : Primitive) : Prop :=
  p ∈ [string, int64, double, boolean, timestamp, date]

def Admits : Primitive → Value → Prop
  | string, .str _ => True
  | int64, .int _ => True
  | double, .float _ => True
  | boolean, .bool _ => True
  | timestamp, .timestamp _ => True
  | timestamp, .dateTime _ => True
  | timestamp, .date _ => True
  | timestamp, .str s => ∃ ts, Timestamp.ofText? s = some ts
  | date, .timestamp _ => True
  | date, .dateTime _ => True
  | date, .date _ => True
  | date, .str s => ∃ dt, DateTime.ofText? s = some dt
  | _, _ => False

end Primitive

namespace DataType

mutual

def Admits : DataType → Value → Prop
  | primitive p, v => p.Admits v
  | array (primitive p), .list items => p.IsWire ∧ ∀ v ∈ items, p.Admits v
  | struct fields, .record pairs =>
    (∀ p ∈ pairs, p.1 ∈ fields.map Prod.fst) ∧ FieldsAdmit fields pairs
  | _, _ => False

def FieldsAdmit : List (String × DataType) → List (String × Value) → Prop
  | [], _ => True
  | (name, t) :: rest, pairs =>
    (∃ v, pairs.lookup name = some v ∧ t.Admits v) ∧ FieldsAdmit rest pairs

end

mutual

/-- A bound parameter of the shape and the wire types of a declared type. -/
def Mirrors : DataType → BoundParameter → Prop
  | primitive p, .scalar _ w value => WireType.ofType? (primitive p) = some w ∧ value.wireType = w
  | array element, .array _ w values =>
    WireType.ofType? element = some w ∧ ∀ value ∈ values, value.wireType = w
  | struct fields, .struct _ children => FieldsMirror fields children
  | _, _ => False

/-- Parameters for the fields, in order and under their names. -/
def FieldsMirror : List (String × DataType) → List BoundParameter → Prop
  | [], [] => True
  | (name, t) :: rest, b :: children => (b.name = name ∧ t.Mirrors b) ∧ FieldsMirror rest children
  | _, _ => False

end

mutual

/-- Made of structs, of scalars on the wire and of arrays of these. -/
def HasWireForm : DataType → Prop
  | primitive p => p.IsWire
  | array (primitive p) => p.IsWire
  | array _ => False
  | struct fields => FieldsHaveWireForm fields
  | unrecognized _ => False

def FieldsHaveWireForm : List (String × DataType) → Prop
  | [] => True
  | (_, t) :: rest => t.HasWireForm ∧ FieldsHaveWireForm rest

end

/-- Binding a value to a type comes to a part of the value and binds it to a part of the type. -/
inductive Reaches : DataType → Value → DataType → Value → Prop
  | self (t v) : Reaches t v t v
  | item {element items v} (hv : v ∈ items) : Reaches (array element) (.list items) element v
  | field {fields pairs name s v t w} (hs : (name, s) ∈ fields) (hv : pairs.lookup name = some v)
      (h : Reaches s v t w) : Reaches (struct fields) (.record pairs) t w

end DataType

open DataType (FieldsAdmit FieldsMirror FieldsHaveWireForm)

variable {p : Primitive} {t s : DataType} {v w : Value} {name : String}
  {fields : List (String × DataType)} {pairs : List (String × Value)}

theorem Primitive.Admits.isWire (h : p.Admits v) : p.IsWire := by
  cases p with
  | string | int64 | double | boolean | timestamp | date => simp [IsWire]
  | null | binary | time | interval => cases v <;> exact h.elim

theorem Primitive.not_admits_null : ¬ p.Admits .null := by
  cases p <;> exact id

theorem fieldsAdmit_iff :
    FieldsAdmit fields pairs ↔
      ∀ f ∈ fields, ∃ v, pairs.lookup f.1 = some v ∧ f.2.Admits v := by
  induction fields with
  | nil => simp [FieldsAdmit]
  | cons f fields ih => rw [FieldsAdmit, List.forall_mem_cons, ih]

theorem fieldsHaveWireForm_iff :
    FieldsHaveWireForm fields ↔ ∀ f ∈ fields, f.2.HasWireForm := by
  induction fields with
  | nil => simp [FieldsHaveWireForm]
  | cons f fields ih => rw [FieldsHaveWireForm, List.forall_mem_cons, ih]

namespace DataType

theorem admits_primitive_iff : (primitive p).Admits v ↔ p.Admits v := by rw [Admits]

theorem not_admits_unrecognized {kind : String} : ¬ (unrecognized kind).Admits v := by
  simp [Admits]

theorem admits_array_iff :
    (array s).Admits v ↔ ∃ p items, s = primitive p ∧ v = .list items ∧ p.IsWire ∧
      ∀ item ∈ items, p.Admits item := by
  cases s with
  | array | struct | unrecognized => simp [Admits]
  | primitive p => cases v <;> simp [Admits]

theorem admits_struct_iff :
    (struct fields).Admits v ↔ ∃ pairs, v = .record pairs ∧
      (∀ p ∈ pairs, p.1 ∈ fields.map Prod.fst) ∧
      ∀ f ∈ fields, ∃ w, pairs.lookup f.1 = some w ∧ f.2.Admits w := by
  cases v <;> simp [Admits, fieldsAdmit_iff]

end DataType

/-- The scalar rules, one role at a time. -/
theorem bindScalar_succeedsIff {role : Role} (h : DataType.role (.primitive p) = .ok role)
    (v : Value) :
    SucceedsIff (fun w => WireType.ofType? (.primitive p) = some w.wireType) (p.Admits v)
      (bindScalar role v) := by
  cases p with
  | null | binary | time | interval => cases h
  | string =>
    cases h
    cases v with
    | str s => exact succeedsIff_ok trivial rfl
    | null | bool | int | float | bytes | date | time | dateTime | timestamp | timedelta | list
    | record => exact succeedsIff_error id _
  | int64 =>
    cases h
    cases v with
    | int n => exact succeedsIff_ok trivial rfl
    | null | bool | float | str | bytes | date | time | dateTime | timestamp | timedelta | list
    | record => exact succeedsIff_error id _
  | double =>
    cases h
    cases v with
    | float x => exact succeedsIff_ok trivial rfl
    | null | bool | int | str | bytes | date | time | dateTime | timestamp | timedelta | list
    | record => exact succeedsIff_error id _
  | boolean =>
    cases h
    cases v with
    | bool b => exact succeedsIff_ok trivial rfl
    | null | int | float | str | bytes | date | time | dateTime | timestamp | timedelta | list
    | record => exact succeedsIff_error id _
  | timestamp =>
    cases h
    cases v with
    | timestamp | dateTime | date => exact succeedsIff_ok trivial rfl
    | str s =>
      rw [bindScalar]
      cases hs : Timestamp.ofText? s with
      | some ts => exact succeedsIff_ok ⟨ts, hs⟩ rfl
      | none => exact succeedsIff_error (by simp [Primitive.Admits, hs]) _
    | null | bool | int | float | bytes | time | timedelta | list | record =>
      exact succeedsIff_error id _
  | date =>
    cases h
    cases v with
    | timestamp | dateTime | date => exact succeedsIff_ok trivial rfl
    | str s =>
      rw [bindScalar]
      cases hs : DateTime.ofText? s with
      | some dt => exact succeedsIff_ok ⟨dt, hs⟩ rfl
      | none => exact succeedsIff_error (by simp [Primitive.Admits, hs]) _
    | null | bool | int | float | bytes | time | timedelta | list | record =>
      exact succeedsIff_error id _

theorem role_primitive_succeedsIff (p : Primitive) :
    SucceedsIff (fun role => DataType.role (.primitive p) = .ok role) p.IsWire
      (DataType.role (.primitive p)) := by
  cases p with
  | string | int64 | double | boolean | timestamp | date =>
    exact succeedsIff_ok (by simp [Primitive.IsWire]) rfl
  | null | binary | time | interval => exact succeedsIff_error (by simp [Primitive.IsWire]) _

theorem ofType?_primitive_eq_none_iff : WireType.ofType? (.primitive p) = none ↔ ¬ p.IsWire := by
  cases p <;> simp [WireType.ofType?, Primitive.IsWire]

theorem bindSingle_primitive_succeedsIff (name : String) (p : Primitive) (v : Value) :
    SucceedsIff (fun b => b.name = name ∧ (DataType.primitive p).Mirrors b) (p.Admits v)
      (bindSingle name (.primitive p) v) := by
  have hscalar : ∀ role, DataType.role (.primitive p) = .ok role →
      SucceedsIff (fun b => b.name = name ∧ (DataType.primitive p).Mirrors b) (p.Admits v)
        (bindScalar role v >>= fun w => .ok (.scalar name w.wireType w)) := by
    intro role hrole
    refine ((bindScalar_succeedsIff hrole v).bind (q := True) fun w hw => ?_).congr (by simp)
    exact succeedsIff_ok trivial ⟨rfl, by rw [DataType.Mirrors]; exact ⟨hw, rfl⟩⟩
  refine ((role_primitive_succeedsIff p).bind hscalar).congr ?_
  exact and_iff_right_of_imp Primitive.Admits.isWire

theorem bindArray_succeedsIff (name : String) (element : DataType) (items : List Value) :
    SucceedsIff (fun b => b.name = name ∧ (DataType.array element).Mirrors b)
      ((DataType.array element).Admits (.list items)) (bindArray name element items) := by
  cases element with
  | array | struct | unrecognized => exact succeedsIff_error (by simp [DataType.Admits]) _
  | primitive p =>
    rw [bindArray]
    cases hw : WireType.ofType? (.primitive p) with
    | none =>
      have hp : ¬ p.IsWire := ofType?_primitive_eq_none_iff.1 hw
      exact succeedsIff_error (by simp [DataType.Admits, hp]) _
    | some w =>
      have hitems : ∀ role, DataType.role (.primitive p) = .ok role →
          SucceedsIff (fun b => b.name = name ∧ (DataType.array (.primitive p)).Mirrors b)
            (∀ v ∈ items, p.Admits v)
            (items.mapM (bindScalar role) >>= fun values => .ok (.array name w values)) := by
        intro role hrole
        have hall := SucceedsIff.mapM fun v (_ : v ∈ items) => bindScalar_succeedsIff hrole v
        refine (hall.bind (q := True) fun values hvalues => ?_).congr (by simp)
        refine succeedsIff_ok trivial ⟨rfl, ?_⟩
        rw [DataType.Mirrors]
        refine ⟨hw, fun value hvalue => ?_⟩
        have := hw.symm.trans (hvalues value hvalue)
        exact (Option.some.inj this).symm
      refine ((role_primitive_succeedsIff p).bind hitems).congr ?_
      rw [DataType.Admits]

theorem unexpected?_eq_none_iff :
    unexpected? fields pairs = none ↔ ∀ p ∈ pairs, p.1 ∈ fields.map Prod.fst := by
  simp [unexpected?]

theorem bindFields_succeedsIff (parameter : String)
    (h : ∀ f ∈ fields, ∀ name v, SucceedsIff (fun b => b.name = name ∧ f.2.Mirrors b)
      (f.2.Admits v) (bindParameter name f.2 v)) :
    SucceedsIff (FieldsMirror fields) (FieldsAdmit fields pairs)
      (bindFields parameter fields pairs) := by
  induction fields with
  | nil =>
    rw [bindFields]
    exact succeedsIff_ok (by simp [FieldsAdmit]) (by simp [FieldsMirror])
  | cons f fields ih =>
    obtain ⟨name, t⟩ := f
    obtain ⟨hf, hfields⟩ := List.forall_mem_cons.1 h
    rw [bindFields]
    cases hv : pairs.lookup name with
    | none => exact succeedsIff_error (by simp [FieldsAdmit, hv]) _
    | some v =>
      have hrest : ∀ b, b.name = name ∧ t.Mirrors b →
          SucceedsIff (FieldsMirror ((name, t) :: fields)) (FieldsAdmit fields pairs)
            (do return b :: (← bindFields parameter fields pairs)) := by
        intro b hb
        refine ((ih hfields).bind (q := True) fun children hchildren => ?_).congr (by simp)
        exact succeedsIff_ok trivial (by rw [FieldsMirror]; exact ⟨hb, hchildren⟩)
      exact ((hf name v).bind hrest).congr (by simp [FieldsAdmit, hv])

theorem bindParameter_primitive (name : String) (p : Primitive) (v : Value) :
    bindParameter name (.primitive p) v = bindSingle name (.primitive p) v := by
  cases v <;> rfl

theorem bindParameter_unrecognized (name kind : String) (v : Value) :
    bindParameter name (.unrecognized kind) v = bindSingle name (.unrecognized kind) v := by
  cases v <;> rfl

theorem bindParameter_array_of_ne (name : String) (h : ∀ items, v ≠ .list items) :
    bindParameter name (.array s) v = .error (.noRule .array v.kind) := by
  cases v with
  | list items => exact absurd rfl (h items)
  | null | bool | int | float | str | bytes | date | time | dateTime | timestamp | timedelta
  | record => rfl

theorem bindParameter_struct_of_ne (name : String) (h : ∀ pairs, v ≠ .record pairs) :
    bindParameter name (.struct fields) v = .error (.noRule .struct v.kind) := by
  cases v with
  | record pairs => exact absurd rfl (h pairs)
  | null | bool | int | float | str | bytes | date | time | dateTime | timestamp | timedelta
  | list => rfl

theorem bindParameter_struct_succeedsIff (name : String)
    (h : ∀ f ∈ fields, ∀ name v, SucceedsIff (fun b => b.name = name ∧ f.2.Mirrors b)
      (f.2.Admits v) (bindParameter name f.2 v)) :
    SucceedsIff (fun b => b.name = name ∧ (DataType.struct fields).Mirrors b)
      ((DataType.struct fields).Admits (.record pairs))
      (bindParameter name (.struct fields) (.record pairs)) := by
  rw [bindParameter, DataType.Admits]
  cases hkeys : unexpected? fields pairs with
  | some key =>
    refine succeedsIff_error (fun hadmits => ?_) _
    rw [unexpected?_eq_none_iff.2 hadmits.1] at hkeys
    cases hkeys
  | none =>
    have hdeclared := unexpected?_eq_none_iff.1 hkeys
    have hfields : SucceedsIff (FieldsMirror fields) (FieldsAdmit fields pairs)
        (bindFields name fields pairs) := bindFields_succeedsIff name h
    refine (hfields.map (BoundParameter.struct name) fun children hchildren => ?_).congr
      (and_iff_right hdeclared).symm
    exact ⟨rfl, by rw [DataType.Mirrors]; exact hchildren⟩

theorem bindParameter_succeedsIff (name : String) (t : DataType) (v : Value) :
    SucceedsIff (fun b => b.name = name ∧ t.Mirrors b) (t.Admits v) (bindParameter name t v) := by
  induction t generalizing name v with
  | primitive p =>
    rw [bindParameter_primitive]
    exact (bindSingle_primitive_succeedsIff name p v).congr DataType.admits_primitive_iff.symm
  | unrecognized kind =>
    rw [bindParameter_unrecognized]
    exact succeedsIff_error DataType.not_admits_unrecognized _
  | array element =>
    by_cases hv : ∃ items, v = .list items
    · obtain ⟨items, rfl⟩ := hv
      exact bindArray_succeedsIff name element items
    · rw [bindParameter_array_of_ne name (not_exists.1 hv)]
      refine succeedsIff_error (fun h => hv ?_) _
      obtain ⟨-, items, -, hitems, -⟩ := DataType.admits_array_iff.1 h
      exact ⟨items, hitems⟩
  | struct fields ih =>
    by_cases hv : ∃ pairs, v = .record pairs
    · obtain ⟨pairs, rfl⟩ := hv
      exact bindParameter_struct_succeedsIff name ih
    · rw [bindParameter_struct_of_ne name (not_exists.1 hv)]
      refine succeedsIff_error (fun h => hv ?_) _
      obtain ⟨pairs, hpairs, -⟩ := DataType.admits_struct_iff.1 h
      exact ⟨pairs, hpairs⟩

namespace DataType.Admits

theorem hasWireForm (h : t.Admits v) : t.HasWireForm := by
  induction t generalizing v with
  | primitive p =>
    rw [HasWireForm]
    exact (admits_primitive_iff.1 h).isWire
  | unrecognized kind => exact absurd h not_admits_unrecognized
  | array element =>
    obtain ⟨p, items, rfl, -, hp, -⟩ := admits_array_iff.1 h
    rwa [HasWireForm]
  | struct fields ih =>
    obtain ⟨pairs, -, -, hfields⟩ := admits_struct_iff.1 h
    rw [HasWireForm, fieldsHaveWireForm_iff]
    intro f hf
    obtain ⟨w, -, hw⟩ := hfields f hf
    exact ih f hf hw

theorem ne_null (h : t.Admits v) : v ≠ .null := by
  rintro rfl
  cases t with
  | primitive p => exact Primitive.not_admits_null (admits_primitive_iff.1 h)
  | unrecognized kind => exact not_admits_unrecognized h
  | array element =>
    obtain ⟨-, items, -, hnull, -⟩ := admits_array_iff.1 h
    cases hnull
  | struct fields =>
    obtain ⟨pairs, hnull, -⟩ := admits_struct_iff.1 h
    cases hnull

/-- Each part that binding comes to is admissible where it stands. -/
theorem of_reaches (h : t.Admits v) (hr : t.Reaches v s w) : s.Admits w := by
  induction hr with
  | self => exact h
  | @item element items w hw =>
    obtain ⟨p, items, rfl, he, -, hitems⟩ := admits_array_iff.1 h
    cases he
    exact admits_primitive_iff.2 (hitems w hw)
  | field hs hv _ ih =>
    obtain ⟨pairs, he, -, hfields⟩ := admits_struct_iff.1 h
    cases he
    obtain ⟨w, hw, hadmits⟩ := hfields _ hs
    cases hv.symm.trans hw
    exact ih hadmits

end DataType.Admits

/-- Binding succeeds on just the admissible values, and in the shape of the type. Nothing that it
comes to in such a value is null or stands under a type without a wire form. -/
theorem bindParameter_admits (name : String) (t : DataType) (v : Value) :
    ((∃ b, bindParameter name t v = .ok b) ↔ t.Admits v) ∧
      (∀ b, bindParameter name t v = .ok b → b.name = name ∧ t.Mirrors b) ∧
      (t.Admits v → ∀ s w, t.Reaches v s w → w ≠ .null ∧ s.HasWireForm) := by
  have hsucceeds := bindParameter_succeedsIff name t v
  refine ⟨hsucceeds.ok_iff, fun b hb => hsucceeds.of_ok hb, ?_⟩
  intro hadmits s w hr
  have hpart := hadmits.of_reaches hr
  exact ⟨hpart.ne_null, hpart.hasWireForm⟩

theorem bindParameter_admits_nested :
    (DataType.struct [("at", .struct [("day", .date)])]).Admits
        (.record [("at", .record [("day", .str "2020-01-02")])]) ∧
      ∃ b, bindParameter "p" (.struct [("at", .struct [("day", .date)])])
          (.record [("at", .record [("day", .str "2020-01-02")])]) = .ok b ∧
        DataType.Mirrors (.struct [("at", .struct [("day", .date)])]) b := by
  have hday : DateTime.ofText? "2020-01-02" = some (.atMidnight ⟨2020, 1, 2, by decide⟩) := by
    decide +kernel
  have hinner : (DataType.struct [("day", .date)]).Admits
      (.record [("day", .str "2020-01-02")]) := by
    refine DataType.admits_struct_iff.2 ⟨_, rfl, by simp, List.forall_mem_singleton.2 ?_⟩
    exact ⟨_, rfl, DataType.admits_primitive_iff.2 ⟨_, hday⟩⟩
  have hadmits : (DataType.struct [("at", .struct [("day", .date)])]).Admits
      (.record [("at", .record [("day", .str "2020-01-02")])]) := by
    refine DataType.admits_struct_iff.2 ⟨_, rfl, by simp, List.forall_mem_singleton.2 ?_⟩
    exact ⟨_, rfl, hinner⟩
  obtain ⟨hok, hshape, -⟩ := bindParameter_admits "p" (.struct [("at", .struct [("day", .date)])])
    (.record [("at", .record [("day", .str "2020-01-02")])])
  obtain ⟨b, hb⟩ := hok.2 hadmits
  exact ⟨hadmits, b, hb, (hshape b hb).2⟩

end WarehouseAdapter
