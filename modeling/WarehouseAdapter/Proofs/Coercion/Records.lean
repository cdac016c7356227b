import WarehouseAdapter.Proofs.Coercion.Inhabitants
import WarehouseAdapter.Proofs.DistinctKeys

/-!
# Records under struct types

A record gives up the first pair of each declared name, and what is left over is noticed only at the
end. What comes of it can be said without the order of the pairs: a record converts when its keys
are distinct and declared and its values convert to the types of their fields. So the pairs of any
record inside a value may change places, as long as no part of the type keeps values unread.
-/

namespace WarehouseAdapter

/-- The value under a key, or null. -/
def fieldValue (pairs : List (String × Value)) (name : String) : Value :=
  (pairs.lookup name).getD .null

/-- The keys are distinct and all of them are among the names. -/
structure KeysAmong (names : List String) (pairs : List (String × Value)) : Prop where
  distinct : (pairs.map Prod.fst).Nodup
  declared : ∀ key ∈ pairs.map Prod.fst, key ∈ names

/-- The keys are distinct, and each pair belongs to a field to whose type its value converts. -/
structure Convertible (fields : List (String × DataType)) (pairs : List (String × Value)) :
    Prop where
  distinct : (pairs.map Prod.fst).Nodup
  converts : ∀ p ∈ pairs, ∃ t, (p.1, t) ∈ fields ∧ ∃ w, coerce t p.2 = .ok w

/-- A pair of the result is converted from the value under the name of its field. -/
def TakenFrom (pairs : List (String × Value)) (f : String × DataType) (q : String × Value) : Prop :=
  q.1 = f.1 ∧ coerce f.2 (fieldValue pairs f.1) = .ok q.2

/-- A pair of the result, for a field of the type. -/
structure FieldConverted (pairs : List (String × Value)) (f : String × DataType)
    (q : String × Value) : Prop where
  name_eq : q.1 = f.1
  missing : f.1 ∉ pairs.map Prod.fst → q.2 = .null
  present : ∀ v, (f.1, v) ∈ pairs → coerce f.2 v = .ok q.2

variable {name key : String} {t : DataType} {v w : Value} {f : String × DataType}
  {q : String × Value} {fields : List (String × DataType)} {names : List String}
  {pairs pairs' others out : List (String × Value)}

theorem coerceFields_cons_eq_ok_iff {out left : List (String × Value)}
    (h : takeField name pairs = (v, others)) :
    coerceFields ((name, t) :: fields) pairs = .ok (out, left) ↔
      ∃ w rest, coerce t v = .ok w ∧ coerceFields fields others = .ok (rest, left) ∧
        out = (name, w) :: rest := by
  rw [coerceFields, h]
  simp only [bind_eq_ok_iff]
  simp [pure, Except.pure, eq_comm]

/-- Taking out a field takes the first pair of its name and leaves the others. -/
theorem takeField_of_lookup (h : pairs.lookup name = some v) :
    ∃ others, takeField name pairs = (v, others) ∧ pairs.Perm ((name, v) :: others) ∧
      ∀ key, key ≠ name → others.lookup key = pairs.lookup key := by
  induction pairs with
  | nil => cases h
  | cons pair pairs ih =>
    obtain ⟨k, w⟩ := pair
    by_cases hk : k = name
    · subst hk
      obtain rfl : w = v := by simpa using h
      refine ⟨pairs, takeField_head, .refl _, fun key hkey => ?_⟩
      rw [List.lookup_cons, beq_eq_false_iff_ne.2 hkey]
    · have hbeq : (name == k) = false := beq_eq_false_iff_ne.2 (Ne.symm hk)
      rw [List.lookup_cons, hbeq] at h
      obtain ⟨others, htake, hperm, hlookup⟩ := ih h
      refine ⟨(k, w) :: others, ?_, ?_, fun key hkey => ?_⟩
      · rw [takeField, if_neg hk, htake]
      · exact (hperm.cons (k, w)).trans (.swap _ _ _)
      · rw [List.lookup_cons, List.lookup_cons, hlookup key hkey]

theorem takeField_of_lookup_eq_none (h : pairs.lookup name = none) :
    takeField name pairs = (.null, pairs) := by
  induction pairs with
  | nil => rfl
  | cons pair pairs ih =>
    obtain ⟨k, w⟩ := pair
    rw [lookup_eq_none_iff_notMem, List.map_cons, List.mem_cons, not_or,
      ← lookup_eq_none_iff_notMem] at h
    rw [takeField, if_neg (Ne.symm h.1), ih h.2]

theorem KeysAmong.of_perm (hperm : (pairs.map Prod.fst).Perm (pairs'.map Prod.fst))
    (h : KeysAmong names pairs) : KeysAmong names pairs' :=
  ⟨hperm.nodup_iff.1 h.distinct, fun key hkey => h.declared key (hperm.mem_iff.2 hkey)⟩

theorem keysAmong_iff_of_perm (hperm : (pairs.map Prod.fst).Perm (pairs'.map Prod.fst)) :
    KeysAmong names pairs ↔ KeysAmong names pairs' := ⟨.of_perm hperm, .of_perm hperm.symm⟩

/-- What is left after a field has been taken out has the keys of the other fields. -/
theorem keysAmong_cons_iff (hname : name ∉ names) :
    KeysAmong (name :: names) ((name, v) :: others) ↔ KeysAmong names others := by
  constructor
  · intro ⟨hdistinct, hdeclared⟩
    rw [List.map_cons, List.nodup_cons] at hdistinct
    refine ⟨hdistinct.2, fun key hkey => ?_⟩
    have hmem := hdeclared key (List.mem_cons_of_mem _ hkey)
    exact (List.mem_cons.1 hmem).resolve_left (ne_of_mem_of_not_mem hkey hdistinct.1)
  · intro ⟨hdistinct, hdeclared⟩
    refine ⟨List.nodup_cons.2 ⟨fun hmem => hname (hdeclared name hmem), hdistinct⟩, ?_⟩
    exact List.forall_mem_cons.2 ⟨List.mem_cons_self, fun key hkey =>
      List.mem_cons_of_mem _ (hdeclared key hkey)⟩

theorem keysAmong_cons_of_notMem (hname : name ∉ pairs.map Prod.fst) :
    KeysAmong (name :: names) pairs ↔ KeysAmong names pairs := by
  constructor
  · intro ⟨hdistinct, hdeclared⟩
    refine ⟨hdistinct, fun key hkey => ?_⟩
    exact (List.mem_cons.1 (hdeclared key hkey)).resolve_left (ne_of_mem_of_not_mem hkey hname)
  · intro ⟨hdistinct, hdeclared⟩
    exact ⟨hdistinct, fun key hkey => List.mem_cons_of_mem _ (hdeclared key hkey)⟩

theorem exists_takeField (hname : name ∉ names) (pairs : List (String × Value)) :
    ∃ others, takeField name pairs = (fieldValue pairs name, others) ∧
      (KeysAmong (name :: names) pairs ↔ KeysAmong names others) ∧
      ∀ key ∈ names, fieldValue others key = fieldValue pairs key := by
  cases hlookup : pairs.lookup name with
  | none =>
    have hnotMem := lookup_eq_none_iff_notMem.1 hlookup
    refine ⟨pairs, ?_, keysAmong_cons_of_notMem hnotMem, fun _ _ => rfl⟩
    rw [takeField_of_lookup_eq_none hlookup, fieldValue, hlookup, Option.getD_none]
  | some v =>
    obtain ⟨others, htake, hperm, hothers⟩ := takeField_of_lookup hlookup
    have hkeys : KeysAmong (name :: names) pairs ↔ KeysAmong (name :: names) ((name, v) :: others) :=
      keysAmong_iff_of_perm (hperm.map Prod.fst)
    refine ⟨others, ?_, hkeys.trans (keysAmong_cons_iff hname), ?_⟩
    · rw [htake, fieldValue, hlookup, Option.getD_some]
    · intro key hkey
      rw [fieldValue, fieldValue, hothers key (ne_of_mem_of_not_mem hkey hname)]

/-- A record is used up exactly when its keys are distinct and declared; the values of the result
are those under the declared names. -/
theorem coerceFields_eq_ok_iff (hnodup : (fields.map Prod.fst).Nodup) :
    coerceFields fields pairs = .ok (out, []) ↔
      KeysAmong (fields.map Prod.fst) pairs ∧ List.Forall₂ (TakenFrom pairs) fields out := by
  induction fields generalizing pairs out with
  | nil =>
    rw [coerceFields, List.forall₂_nil_left_iff]
    constructor
    · intro h
      cases h
      exact ⟨⟨List.nodup_nil, fun _ hkey => hkey⟩, rfl⟩
    · rintro ⟨⟨-, hdeclared⟩, rfl⟩
      have hnil : pairs.map Prod.fst = [] :=
        List.eq_nil_iff_forall_not_mem.2 fun key hkey => List.not_mem_nil (hdeclared key hkey)
      rw [List.map_eq_nil_iff.1 hnil]
  | cons f fields ih =>
    obtain ⟨name, t⟩ := f
    rw [List.map_cons, List.nodup_cons] at hnodup
    obtain ⟨others, htake, hkeys, hvalues⟩ := exists_takeField hnodup.1 pairs
    -- the other fields find the same values in what this one has left
    have hrest : ∀ rest, List.Forall₂ (TakenFrom others) fields rest ↔
        List.Forall₂ (TakenFrom pairs) fields rest := by
      intro rest
      refine forall₂_congr_of_mem fun f hf q => ?_
      rw [TakenFrom, TakenFrom, hvalues f.1 (List.mem_map_of_mem hf)]
    rw [coerceFields_cons_eq_ok_iff htake, List.map_cons, hkeys, List.forall₂_cons_left_iff]
    simp only [ih hnodup.2, hrest]
    constructor
    · rintro ⟨w, rest, hw, ⟨hamong, hfields⟩, rfl⟩
      exact ⟨hamong, _, rest, ⟨rfl, hw⟩, hfields, rfl⟩
    · rintro ⟨hamong, ⟨key, w⟩, rest, ⟨rfl, hw⟩, hfields, rfl⟩
      exact ⟨w, rest, hw, ⟨hamong, hfields⟩, rfl⟩

theorem coerce_record_eq_ok_iff (hnodup : (fields.map Prod.fst).Nodup) :
    coerce (.struct fields) (.record pairs) = .ok w ↔ KeysAmong (fields.map Prod.fst) pairs ∧
      ∃ out, w = .record out ∧ List.Forall₂ (TakenFrom pairs) fields out := by
  rw [coerce_struct_eq_ok_iff]
  constructor
  · rintro (⟨hnull, -⟩ | ⟨_, out, hpairs, rfl, hout⟩)
    · cases hnull
    · cases hpairs
      obtain ⟨hamong, hfields⟩ := (coerceFields_eq_ok_iff hnodup).1 hout
      exact ⟨hamong, out, rfl, hfields⟩
  · rintro ⟨hamong, out, rfl, hfields⟩
    exact .inr ⟨pairs, out, rfl, rfl, (coerceFields_eq_ok_iff hnodup).2 ⟨hamong, hfields⟩⟩

/-- With distinct keys, each field has a pair of its own or none. -/
theorem fieldConverted_iff (hnodup : (pairs.map Prod.fst).Nodup) :
    FieldConverted pairs f q ↔ TakenFrom pairs f q := by
  rw [TakenFrom, fieldValue]
  cases hlookup : pairs.lookup f.1 with
  | none =>
    have hnotMem := lookup_eq_none_iff_notMem.1 hlookup
    rw [Option.getD_none, coerce_of_isNull rfl]
    constructor
    · exact fun h => ⟨h.name_eq, congrArg Except.ok (h.missing hnotMem).symm⟩
    · rintro ⟨hname, hnull⟩
      refine ⟨hname, fun _ => (Except.ok.inj hnull).symm, fun v hv => ?_⟩
      exact absurd (List.mem_map_of_mem (f := Prod.fst) hv) hnotMem
  | some v =>
    have hmem := mem_of_lookup hlookup
    rw [Option.getD_some]
    constructor
    · exact fun h => ⟨h.name_eq, h.present v hmem⟩
    · rintro ⟨hname, hv⟩
      refine ⟨hname, fun hnotMem => ?_, fun u hu => ?_⟩
      · exact absurd (List.mem_map_of_mem (f := Prod.fst) hmem) hnotMem
      · rw [← lookup_eq_some_iff_mem hnodup, hlookup] at hu
        cases hu
        exact hv

theorem exists_takenFrom_iff : (∃ q, TakenFrom pairs f q) ↔
    ∃ w, coerce f.2 (fieldValue pairs f.1) = .ok w :=
  ⟨fun ⟨q, _, hq⟩ => ⟨q.2, hq⟩, fun ⟨w, hw⟩ => ⟨(f.1, w), rfl, hw⟩⟩

theorem convertible_iff (hnodup : (fields.map Prod.fst).Nodup) : Convertible fields pairs ↔
    KeysAmong (fields.map Prod.fst) pairs ∧ ∀ f ∈ fields, ∃ q, TakenFrom pairs f q := by
  simp only [exists_takenFrom_iff]
  constructor
  · intro ⟨hdistinct, hconverts⟩
    refine ⟨⟨hdistinct, List.forall_mem_map.2 fun p hp => ?_⟩, fun f hf => ?_⟩
    · obtain ⟨t, ht, -⟩ := hconverts p hp
      exact List.mem_map_of_mem (f := Prod.fst) ht
    · rw [fieldValue]
      cases hlookup : pairs.lookup f.1 with
      | none => exact ⟨.null, coerce_of_isNull rfl _⟩
      | some v =>
        obtain ⟨t, ht, hw⟩ := hconverts _ (mem_of_lookup hlookup)
        have hsame := List.inj_on_of_nodup_map hnodup ht hf rfl
        rwa [← hsame]
  · rintro ⟨⟨hdistinct, hdeclared⟩, hfields⟩
    refine ⟨hdistinct, fun p hp => ?_⟩
    obtain ⟨f, hf, hname⟩ := List.mem_map.1 (hdeclared p.1 (List.mem_map_of_mem hp))
    have hvalue := hfields f hf
    rw [hname, fieldValue, (lookup_eq_some_iff_mem hdistinct).2 hp, Option.getD_some] at hvalue
    exact ⟨f.2, hname ▸ hf, hvalue⟩

theorem exists_coerce_record_iff (hnodup : (fields.map Prod.fst).Nodup) :
    (∃ w, coerce (.struct fields) (.record pairs) = .ok w) ↔ Convertible fields pairs := by
  rw [convertible_iff hnodup, ← exists_forall₂_iff]
  simp only [coerce_record_eq_ok_iff hnodup]
  constructor
  · rintro ⟨w, hamong, out, rfl, hfields⟩
    exact ⟨hamong, out, hfields⟩
  · rintro ⟨hamong, out, hfields⟩
    exact ⟨_, hamong, out, rfl, hfields⟩

theorem forall₂_fieldConverted (hnodup : (fields.map Prod.fst).Nodup)
    (h : coerce (.struct fields) (.record pairs) = .ok w) :
    ∃ out, w = .record out ∧ List.Forall₂ (FieldConverted pairs) fields out := by
  obtain ⟨hamong, out, rfl, hfields⟩ := (coerce_record_eq_ok_iff hnodup).1 h
  exact ⟨out, rfl, hfields.imp fun f q => (fieldConverted_iff hamong.distinct).2⟩

end WarehouseAdapter
