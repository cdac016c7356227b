import Mathlib
import WarehouseAdapter.DataType.Basic

/-!
# The order of castability

One type is below another when it casts to it without being asked: null to every type, boolean to
int64 to double, date to timestamp, an array by its element, a struct field by field to a struct
with the same names in the same order. Everything else casts to itself only. This is a partial
order, and what is above a type of some form has that form.
-/

namespace WarehouseAdapter

namespace Primitive

def casts : List (Primitive × Primitive) :=
  [(boolean, int64), (int64, double), (boolean, double), (date, timestamp)]

def CastsTo (p q : Primitive) : Prop := p = q ∨ p = null ∨ (p, q) ∈ casts

instance : DecidableRel CastsTo := fun p q =>
  inferInstanceAs (Decidable (p = q ∨ p = null ∨ (p, q) ∈ casts))

theorem mem_all (p : Primitive) : p ∈ all := by cases p <;> decide

theorem castsTo_trans {p q r : Primitive} (hpq : p.CastsTo q) (hqr : q.CastsTo r) :
    p.CastsTo r := by
  have h : ∀ p ∈ all, ∀ q ∈ all, ∀ r ∈ all, p.CastsTo q → q.CastsTo r → p.CastsTo r := by
    decide +kernel
  exact h p p.mem_all q q.mem_all r r.mem_all hpq hqr

theorem castsTo_null_iff {p : Primitive} : p.CastsTo null ↔ p = null := by cases p <;> decide

theorem castsTo_antisymm {p q : Primitive} (hpq : p.CastsTo q) (hqp : q.CastsTo p) : p = q := by
  have h : ∀ p ∈ all, ∀ q ∈ all, p.CastsTo q → q.CastsTo p → p = q := by decide +kernel
  exact h p p.mem_all q q.mem_all hpq hqp

end Primitive

namespace DataType

mutual

def CastsTo : DataType → DataType → Prop
  | primitive p, primitive q => p.CastsTo q
  | primitive p, _ => p = .null
  | array a, array b => CastsTo a b
  | struct a, struct b => FieldsCastTo a b
  | unrecognized k, unrecognized l => k = l
  | _, _ => False

def FieldsCastTo : List (String × DataType) → List (String × DataType) → Prop
  | [], [] => True
  | (m, s) :: a, (n, t) :: b => m = n ∧ CastsTo s t ∧ FieldsCastTo a b
  | _, _ => False

end

theorem FieldsCastTo.names_eq {a b : List (String × DataType)} (h : FieldsCastTo a b) :
    a.map Prod.fst = b.map Prod.fst := by
  induction a generalizing b with
  | nil =>
    cases b with
    | nil => rfl
    | cons g b => exact h.elim
  | cons f a ih =>
    cases b with
    | nil => exact h.elim
    | cons g b =>
      obtain ⟨hn, -, hab⟩ := h
      rw [List.map_cons, List.map_cons, hn, ih hab]

variable {s t u : DataType} {a b c : List (String × DataType)}

theorem fieldsCastTo_refl (h : ∀ f ∈ a, f.2.CastsTo f.2) : FieldsCastTo a a := by
  induction a with
  | nil => trivial
  | cons f a ih =>
    obtain ⟨hf, ha⟩ := List.forall_mem_cons.1 h
    exact ⟨rfl, hf, ih ha⟩

theorem fieldsCastTo_trans (h : ∀ f ∈ a, ∀ t u, f.2.CastsTo t → t.CastsTo u → f.2.CastsTo u)
    (hab : FieldsCastTo a b) (hbc : FieldsCastTo b c) : FieldsCastTo a c := by
  induction a generalizing b c with
  | nil =>
    cases b with
    | nil => exact hbc
    | cons g b => exact hab.elim
  | cons f a ih =>
    cases b with
    | nil => exact hab.elim
    | cons g b =>
      cases c with
      | nil => exact hbc.elim
      | cons k c =>
        obtain ⟨hf, ha⟩ := List.forall_mem_cons.1 h
        exact ⟨hab.1.trans hbc.1, hf g.2 k.2 hab.2.1 hbc.2.1, ih ha hab.2.2 hbc.2.2⟩

theorem fieldsCastTo_antisymm (h : ∀ f ∈ a, ∀ t, f.2.CastsTo t → t.CastsTo f.2 → f.2 = t)
    (hab : FieldsCastTo a b) (hba : FieldsCastTo b a) : a = b := by
  induction a generalizing b with
  | nil =>
    cases b with
    | nil => rfl
    | cons g b => exact hab.elim
  | cons f a ih =>
    cases b with
    | nil => exact hab.elim
    | cons g b =>
      obtain ⟨hf, ha⟩ := List.forall_mem_cons.1 h
      rw [ih ha hab.2.2 hba.2.2, Prod.ext hab.1 (hf g.2 hab.2.1 hba.2.1)]

theorem castsTo_refl (t : DataType) : t.CastsTo t := by
  induction t with
  | primitive p => exact .inl rfl
  | array element ih => exact ih
  | struct fields ih => exact fieldsCastTo_refl ih
  | unrecognized kind => rfl

theorem null_castsTo (t : DataType) : null.CastsTo t := by
  cases t with
  | primitive q => exact .inr (.inl rfl)
  | array | struct | unrecognized => rfl

theorem castsTo_trans (hst : s.CastsTo t) (htu : t.CastsTo u) : s.CastsTo u := by
  induction s generalizing t u with
  | primitive p =>
    by_cases hp : p = .null
    · subst p
      exact null_castsTo u
    cases t with
    | array | struct | unrecognized => exact absurd hst hp
    | primitive q =>
      cases u with
      | primitive r => exact Primitive.castsTo_trans hst htu
      | array | struct | unrecognized =>
        obtain rfl : q = .null := htu
        exact absurd (Primitive.castsTo_null_iff.1 hst) hp
  | array element ih =>
    cases t with
    | primitive | struct | unrecognized => exact hst.elim
    | array element' =>
      cases u with
      | primitive | struct | unrecognized => exact htu.elim
      | array element'' => exact ih hst htu
  | struct fields ih =>
    cases t with
    | primitive | array | unrecognized => exact hst.elim
    | struct fields' =>
      cases u with
      | primitive | array | unrecognized => exact htu.elim
      | struct fields'' => exact fieldsCastTo_trans (fun f hf t u => ih f hf) hst htu
  | unrecognized kind =>
    cases t with
    | primitive | struct | array => exact hst.elim
    | unrecognized kind' =>
      obtain rfl : kind = kind' := hst
      exact htu

theorem castsTo_antisymm (hst : s.CastsTo t) (hts : t.CastsTo s) : s = t := by
  induction s generalizing t with
  | primitive p =>
    cases t with
    | primitive q => exact congrArg primitive (Primitive.castsTo_antisymm hst hts)
    | array | struct | unrecognized => exact hts.elim
  | array element ih =>
    cases t with
    | primitive | struct | unrecognized => exact hst.elim
    | array element' => exact congrArg array (ih hst hts)
  | struct fields ih =>
    cases t with
    | primitive | array | unrecognized => exact hst.elim
    | struct fields' =>
      exact congrArg struct (fieldsCastTo_antisymm (fun f hf t => ih f hf) hst hts)
  | unrecognized kind =>
    cases t with
    | primitive | struct | array => exact hst.elim
    | unrecognized kind' => exact congrArg unrecognized hst

instance : PartialOrder DataType where
  le := CastsTo
  le_refl := castsTo_refl
  le_trans _ _ _ := castsTo_trans
  le_antisymm _ _ := castsTo_antisymm

@[simp] theorem null_le (t : DataType) : null ≤ t := null_castsTo t

theorem primitive_le_iff {p : Primitive} :
    primitive p ≤ t ↔ p = .null ∨ ∃ q, t = primitive q ∧ p.CastsTo q := by
  constructor
  · intro h
    cases t with
    | primitive q => exact .inr ⟨q, rfl, h⟩
    | array | struct | unrecognized => exact .inl h
  · rintro (rfl | ⟨q, rfl, h⟩)
    · exact null_le t
    · exact h

theorem array_le_iff : array s ≤ t ↔ ∃ u, t = array u ∧ s ≤ u := by
  constructor
  · intro h
    cases t with
    | array u => exact ⟨u, rfl, h⟩
    | primitive | struct | unrecognized => exact h.elim
  · rintro ⟨u, rfl, h⟩
    exact h

theorem struct_le_iff : struct a ≤ t ↔ ∃ b, t = struct b ∧ FieldsCastTo a b := by
  constructor
  · intro h
    cases t with
    | struct b => exact ⟨b, rfl, h⟩
    | primitive | array | unrecognized => exact h.elim
  · rintro ⟨b, rfl, h⟩
    exact h

theorem unrecognized_le_iff {kind : String} : unrecognized kind ≤ t ↔ t = unrecognized kind := by
  constructor
  · intro h
    cases t with
    | unrecognized kind' => exact congrArg unrecognized (Eq.symm h)
    | primitive | array | struct => exact h.elim
  · rintro rfl
    exact le_rfl

end DataType

end WarehouseAdapter
