import WarehouseAdapter.Proofs.Transposition
import WarehouseAdapter.Inference.Sniff

/-!
# What a machine type promises

A machine type other than `object` promises present values of one scalar kind, and booleans and
integers promise that no value is missing. The columns made from values alone, and those of frames
made from rows, keep the promise with one exception: integers among floats, and nothing else beside
them, get the machine type of floats.
-/

namespace WarehouseAdapter

variable {values : List Value} {c : Column}

/-- The present values are integers and floats, some of each. -/
structure MixesNumbers (values : List Value) : Prop where
  number : ∀ v ∈ Value.present values, v.kind = .int ∨ v.kind = .float
  exists_int : ∃ v ∈ Value.present values, v.kind = .int
  exists_float : ∃ v ∈ Value.present values, v.kind = .float

namespace Dtype

/-- What a machine type says about the kinds of the present values and about missing ones. -/
inductive Covers (hasNull : Bool) (kinds : List ValueKind) : Dtype → Prop
  | bool (hkinds : ∀ k ∈ kinds, k = .bool) (hnull : hasNull = false) : Covers hasNull kinds bool
  | int64 (hkinds : ∀ k ∈ kinds, k = .int) (hnull : hasNull = false) : Covers hasNull kinds int64
  | float64 (hkinds : ∀ k ∈ kinds, k = .int ∨ k = .float) : Covers hasNull kinds float64
  | datetimeNs (hkinds : ∀ k ∈ kinds, k.scalar = .dateTime) : Covers hasNull kinds datetimeNs
  | timedeltaNs (hkinds : ∀ k ∈ kinds, k = .timedelta) : Covers hasNull kinds timedeltaNs
  | object : Covers hasNull kinds object

theorem isNumber_iff {k : ValueKind} : isNumber k = true ↔ k = .int ∨ k = .float := by
  cases k <;> decide

theorem isInstant_iff {k : ValueKind} : isInstant k = true ↔ k.scalar = .dateTime := by
  cases k <;> decide

theorem covers_ofKinds (hasNull : Bool) (kinds : List ValueKind) :
    Covers hasNull kinds (ofKinds hasNull kinds) := by
  unfold ofKinds
  split_ifs with hnone hbool hint hnumber hinstant hdelta
  · exact .object
  · obtain ⟨hkinds, hnull⟩ := Bool.and_eq_true_iff.1 hbool
    exact .bool (by simpa using hkinds) (by simpa using hnull)
  · obtain ⟨hkinds, hnull⟩ := Bool.and_eq_true_iff.1 hint
    exact .int64 (by simpa using hkinds) (by simpa using hnull)
  · exact .float64 fun k hk => isNumber_iff.1 (List.all_eq_true.1 hnumber k hk)
  · exact .datetimeNs fun k hk => isInstant_iff.1 (List.all_eq_true.1 hinstant k hk)
  · exact .timedeltaNs (by simpa using hdelta)
  · exact .object

theorem ofKinds_of_numbers {hasNull : Bool} {kinds : List ValueKind}
    (h : ∀ k ∈ kinds, k = .int ∨ k = .float) (hfloat : .float ∈ kinds) :
    ofKinds hasNull kinds = float64 := by
  have hnotall : ∀ k, k ≠ .float → kinds.all (· == k) = false := by
    intro k hk
    apply List.all_eq_false.2
    exact ⟨.float, hfloat, by simpa using hk.symm⟩
  have hnumber : kinds.all isNumber = true :=
    List.all_eq_true.2 fun k hk => isNumber_iff.2 (h k hk)
  have hne : kinds.isEmpty = false := by
    simpa using List.ne_nil_of_mem hfloat
  simp [ofKinds, hne, hnumber, hnotall .bool (by decide), hnotall .int (by decide)]

end Dtype

namespace Column

/-- A column that the library makes from values: alone, or as a column of a frame made from rows. -/
inductive Built : Column → Prop
  | ofValues (name : String) (values : List Value) : Built (Column.ofValues name values)
  | ofRows {names rows f c} (hf : Frame.ofRows names rows = .ok f) (hc : c ∈ f.columns) : Built c

/-- What any machine type but `object` promises. -/
structure KeepsPromise (c : Column) : Prop where
  one_kind : c.dtype ≠ .object → ∃ k : ScalarKind, ∀ v ∈ Value.present c.values, v.kind.scalar = k
  no_null : c.dtype = .bool ∨ c.dtype = .int64 → ∀ v ∈ c.values, v.isNull = false

theorem Built.dtype_eq (h : c.Built) : c.dtype = Dtype.ofValues c.values := by
  cases h with
  | ofValues name values => rfl
  | ofRows hf hc =>
    exact ((Frame.ofRows_eq_ok_iff_transposes.1 hf).2).dtype_eq c hc

theorem Built.covers (h : c.Built) :
    c.dtype.Covers (c.values.any Value.isNull) ((Value.present c.values).map Value.kind) := by
  rw [h.dtype_eq]
  exact Dtype.covers_ofKinds _ _

theorem Built.no_null (h : c.Built) (hdtype : c.dtype = .bool ∨ c.dtype = .int64) :
    ∀ v ∈ c.values, v.isNull = false := by
  have hnull : c.values.any Value.isNull = false := by
    have hcovers := h.covers
    rcases hdtype with hdtype | hdtype
    all_goals
      rw [hdtype] at hcovers
      cases hcovers
      assumption
  intro v hv
  exact Bool.eq_false_iff.2 (List.any_eq_false.1 hnull v hv)

/-- Only numbers can be of two kinds under one machine type. -/
theorem Built.exists_kind (h : c.Built) (hdtype : c.dtype ≠ .object)
    (hmixes : ¬ MixesNumbers c.values) :
    ∃ k : ScalarKind, ∀ v ∈ Value.present c.values, v.kind.scalar = k := by
  have hcovers := h.covers
  cases hd : c.dtype
  all_goals
    rw [hd] at hcovers
    cases hcovers
  case object => exact absurd hd hdtype
  case bool hkinds _ => exact ⟨.bool, fun v hv => by rw [List.forall_mem_map.1 hkinds v hv]; rfl⟩
  case int64 hkinds _ => exact ⟨.int, fun v hv => by rw [List.forall_mem_map.1 hkinds v hv]; rfl⟩
  case timedeltaNs hkinds =>
    exact ⟨.timedelta, fun v hv => by rw [List.forall_mem_map.1 hkinds v hv]; rfl⟩
  case datetimeNs hkinds => exact ⟨.dateTime, List.forall_mem_map.1 hkinds⟩
  case float64 hkinds =>
    have hnumber := List.forall_mem_map.1 hkinds
    by_cases hint : ∃ v ∈ Value.present c.values, v.kind = .int
    · refine ⟨.int, fun v hv => ?_⟩
      rcases hnumber v hv with hk | hk
      · rw [hk]; rfl
      · exact absurd ⟨hnumber, hint, v, hv, hk⟩ hmixes
    · refine ⟨.float, fun v hv => ?_⟩
      rcases hnumber v hv with hk | hk
      · exact absurd ⟨v, hv, hk⟩ hint
      · rw [hk]; rfl

theorem Built.dtype_of_mixesNumbers (h : c.Built) (hmixes : MixesNumbers c.values) :
    c.dtype = .float64 := by
  obtain ⟨v, hv, hfloat⟩ := hmixes.exists_float
  rw [h.dtype_eq]
  exact Dtype.ofKinds_of_numbers (List.forall_mem_map.2 hmixes.number)
    (List.mem_map.2 ⟨v, hv, hfloat⟩)

theorem keepsPromise_iff_not_mixesNumbers (h : c.Built) :
    (c.KeepsPromise ↔ ¬ MixesNumbers c.values) ∧
      (MixesNumbers c.values → c.dtype = .float64) ∧
      (c.dtype = .bool ∨ c.dtype = .int64 → ∀ v ∈ c.values, v.isNull = false) := by
  refine ⟨⟨fun hkeeps hmixes => ?_, fun hmixes => ?_⟩, h.dtype_of_mixesNumbers, h.no_null⟩
  · have hdtype := h.dtype_of_mixesNumbers hmixes
    obtain ⟨k, hk⟩ := hkeeps.one_kind (by rw [hdtype]; decide)
    obtain ⟨v, hv, hint⟩ := hmixes.exists_int
    obtain ⟨w, hw, hfloat⟩ := hmixes.exists_float
    have hsame : v.kind.scalar = w.kind.scalar := (hk v hv).trans (hk w hw).symm
    rw [hint, hfloat] at hsame
    cases hsame
  · exact ⟨fun hdtype => h.exists_kind hdtype hmixes, h.no_null⟩

/-- Integers beside a missing value are kept as floats, and are of one kind. -/
theorem keepsPromise_iff_not_mixesNumbers_widened :
    let c := Column.ofValues "n" [.int 1, .null, .int 2]
    c.Built ∧ c.KeepsPromise ∧ c.dtype = .float64 := by
  intro c
  have hbuilt : c.Built := .ofValues "n" _
  refine ⟨hbuilt, (keepsPromise_iff_not_mixesNumbers hbuilt).1.2 fun hmixes => ?_, by decide⟩
  obtain ⟨v, hv, hfloat⟩ := hmixes.exists_float
  have hall : ∀ v ∈ Value.present c.values, v.kind = .int := by simp [c, Column.ofValues,
    Value.present, Value.isNull, Value.kind]
  cases (hall v hv).symm.trans hfloat

/-- An integer beside a float: the machine type is that of floats. -/
theorem not_keepsPromise :
    ¬ ∀ (name : String) (values : List Value), (Column.ofValues name values).KeepsPromise := by
  intro h
  have hkeeps := h "n" [.int 1, .float ⟨0x4000000000000000⟩]
  obtain ⟨k, hk⟩ := hkeeps.one_kind (by decide +kernel)
  have hint : ScalarKind.int = k :=
    hk (.int 1) (by simp [Column.ofValues, Value.present, Value.isNull])
  have hnotnan : (⟨0x4000000000000000⟩ : Double).isNaN = false := by decide +kernel
  have hfloat : ScalarKind.float = k := hk (.float ⟨0x4000000000000000⟩)
    (by simp [Column.ofValues, Value.present, Value.isNull, hnotnan])
  cases hint.trans hfloat.symm

end Column

end WarehouseAdapter
