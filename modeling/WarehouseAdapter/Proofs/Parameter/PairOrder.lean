import WarehouseAdapter.Proofs.Coercion.RecordOrder
import WarehouseAdapter.Proofs.Parameter.RepeatedKeys

/-!
# Parameters with their pairs in another order

Binding goes through the declared fields, so it does not see in which order the pairs of a record
stand unless it stops at undeclared keys, of which it reports the first. At which record it stops is
settled by the fields before: they are bound. So the pairs of any record may change places where no
key is repeated: binding gives the same, or it stops at the same record and reports a key that is
undeclared there.
-/

namespace WarehouseAdapter

mutual

/-- No record inside repeats a key. -/
def Value.DistinctKeys : Value → Prop
  | list items => ItemsDistinct items
  | record pairs => (pairs.map Prod.fst).Nodup ∧ PairsDistinct pairs
  | _ => True

def Value.ItemsDistinct : List Value → Prop
  | [] => True
  | v :: rest => v.DistinctKeys ∧ ItemsDistinct rest

def Value.PairsDistinct : List (String × Value) → Prop
  | [] => True
  | (_, v) :: rest => v.DistinctKeys ∧ PairsDistinct rest

end

def Undeclared (fields : List (String × DataType)) (pairs : List (String × Value)) (key : String) :
    Prop :=
  key ∈ pairs.map Prod.fst ∧ key ∉ fields.map Prod.fst

/-- Binding stops at a record for its undeclared keys. The names of fields lead to it, and at each
of them the fields before are bound. -/
inductive DataType.StopsAt : DataType → Value → List String → List (String × DataType) →
    List (String × Value) → Prop
  | here {fields pairs key} (h : Undeclared fields pairs key) :
      StopsAt (struct fields) (.record pairs) [] fields pairs
  | field {before behind pairs name t v path fields' pairs'}
      (hdeclared : ∀ key, ¬ Undeclared (before ++ (name, t) :: behind) pairs key)
      (hbefore : DataType.FieldsAdmit before pairs) (hv : pairs.lookup name = some v)
      (h : StopsAt t v path fields' pairs') :
      StopsAt (struct (before ++ (name, t) :: behind)) (.record pairs) (name :: path) fields' pairs'

def DataType.Stops (t : DataType) (v : Value) : Prop :=
  ∃ path fields pairs, t.StopsAt v path fields pairs

/-- Whatever the type is, binding stops at the same record, but for the order of its keys, or it
stops at none and gives the same. -/
structure Value.BindsAlike (v w : Value) : Prop where
  stopsAt : ∀ {t : DataType} {path fields pairs}, t.StopsAt v path fields pairs →
    ∃ pairs', t.StopsAt w path fields pairs' ∧ (pairs.map Prod.fst).Perm (pairs'.map Prod.fst)
  bindParameter_eq : ∀ (name : String) {t : DataType}, ¬ t.Stops v →
    bindParameter name t w = bindParameter name t v

/-- Two records of the same keys, with values under each key that bind alike. -/
structure RecordsAlike (pairs pairs' : List (String × Value)) : Prop where
  keys : (pairs.map Prod.fst).Perm (pairs'.map Prod.fst)
  values : ∀ key v, pairs.lookup key = some v → ∃ w, pairs'.lookup key = some w ∧ v.BindsAlike w

variable {name parameter key : String} {t element : DataType} {v w : Value} {items : List Value}
  {role : Role} {e : BindingError} {f : String × DataType} {fields : List (String × DataType)}
  {pairs pairs' : List (String × Value)} {path : List String}

theorem itemsDistinct_iff : Value.ItemsDistinct items ↔ ∀ v ∈ items, v.DistinctKeys := by
  induction items with
  | nil => simp [Value.ItemsDistinct]
  | cons v items ih => rw [Value.ItemsDistinct, List.forall_mem_cons, ih]

theorem pairsDistinct_iff : Value.PairsDistinct pairs ↔ ∀ p ∈ pairs, p.2.DistinctKeys := by
  induction pairs with
  | nil => simp [Value.PairsDistinct]
  | cons p pairs ih => rw [Value.PairsDistinct, List.forall_mem_cons, ih]

theorem distinctKeys_list_iff : (Value.list items).DistinctKeys ↔ ∀ v ∈ items, v.DistinctKeys := by
  rw [Value.DistinctKeys, itemsDistinct_iff]

theorem distinctKeys_record_iff : (Value.record pairs).DistinctKeys ↔
    (pairs.map Prod.fst).Nodup ∧ ∀ p ∈ pairs, p.2.DistinctKeys := by
  rw [Value.DistinctKeys, pairsDistinct_iff]

theorem Value.DistinctKeys.of_rearranged (hv : v.DistinctKeys) (h : v.Rearranged w) :
    w.DistinctKeys := by
  induction h with
  | here hperm =>
    rw [distinctKeys_record_iff] at hv ⊢
    exact ⟨(hperm.map Prod.fst).nodup_iff.1 hv.1, fun p hp => hv.2 p (hperm.mem_iff.2 hp)⟩
  | item before behind _ ih =>
    rw [distinctKeys_list_iff, List.forall_mem_append, List.forall_mem_cons] at hv ⊢
    exact ⟨hv.1, ih hv.2.1, hv.2.2⟩
  | field before behind name _ ih =>
    rw [distinctKeys_record_iff, List.forall_mem_append, List.forall_mem_cons] at hv ⊢
    exact ⟨by simpa using hv.1, hv.2.1, ih hv.2.2.1, hv.2.2.2⟩

theorem undeclared_iff_of_perm (h : (pairs.map Prod.fst).Perm (pairs'.map Prod.fst)) :
    Undeclared fields pairs key ↔ Undeclared fields pairs' key := by
  rw [Undeclared, Undeclared, h.mem_iff]

theorem unexpected?_eq_none_iff_undeclared :
    unexpected? fields pairs = none ↔ ∀ key, ¬ Undeclared fields pairs key := by
  rw [unexpected?_eq_none_iff]
  simp [Undeclared]

theorem undeclared_of_unexpected? (h : unexpected? fields pairs = some key) :
    Undeclared fields pairs key := by
  obtain ⟨p, hp, rfl⟩ := Option.map_eq_some_iff.1 h
  exact ⟨List.mem_map_of_mem (List.mem_of_find?_eq_some hp), by simpa using List.find?_some hp⟩

/-- Binds a declared field to the first value under its name. -/
def bindField (parameter : String) (pairs : List (String × Value)) (f : String × DataType) :
    Except BindingError BoundParameter :=
  match pairs.lookup f.1 with
  | none => .error (.missingField parameter f.1)
  | some v => bindParameter f.1 f.2 v

theorem bindFields_eq_mapM (parameter : String) (fields : List (String × DataType))
    (pairs : List (String × Value)) :
    bindFields parameter fields pairs = fields.mapM (bindField parameter pairs) := by
  induction fields with
  | nil => rw [bindFields]; rfl
  | cons f fields ih =>
    rw [bindFields, List.mapM_cons, bindField, ih]
    cases pairs.lookup f.1 <;> rfl

theorem exists_bindField_iff : (∃ b, bindField parameter pairs f = .ok b) ↔
    ∃ v, pairs.lookup f.1 = some v ∧ f.2.Admits v := by
  rw [bindField]
  cases pairs.lookup f.1 with
  | none => simp
  | some v =>
    rw [(bindParameter_succeedsIff f.1 f.2 v).ok_iff]
    simp

theorem forall_exists_bindField_iff :
    (∀ f ∈ fields, ∃ b, bindField parameter pairs f = .ok b) ↔
      DataType.FieldsAdmit fields pairs := by
  rw [fieldsAdmit_iff]
  exact forall₂_congr fun _ _ => exists_bindField_iff

theorem bindField_of_lookup (h : pairs.lookup f.1 = some v) :
    bindField parameter pairs f = bindParameter f.1 f.2 v := by
  rw [bindField, h]

theorem bindParameter_record_of_declared (h : ∀ key, ¬ Undeclared fields pairs key) :
    bindParameter name (.struct fields) (.record pairs) =
      (fields.mapM (bindField name pairs)).map (.struct name) := by
  rw [bindParameter, unexpected?_eq_none_iff_undeclared.2 h, bindFields_eq_mapM]

theorem bindScalar_ne_unexpectedField :
    bindScalar role v ≠ .error (.unexpectedField parameter key) := by
  fun_cases bindScalar role v <;> simp

theorem role_ne_unexpectedField : t.role ≠ .error (.unexpectedField parameter key) := by
  fun_cases DataType.role t <;> simp

theorem bindSingle_ne_unexpectedField :
    bindSingle name t v ≠ .error (.unexpectedField parameter key) := by
  intro h
  rcases bind_eq_error_iff.1 h with hrole | ⟨role, -, h⟩
  · exact role_ne_unexpectedField hrole
  · rcases bind_eq_error_iff.1 h with hscalar | ⟨w, -, h⟩
    · exact bindScalar_ne_unexpectedField hscalar
    · cases h

theorem bindArray_ne_unexpectedField :
    bindArray name element items ≠ .error (.unexpectedField parameter key) := by
  intro h
  rw [bindArray] at h
  cases hw : WireType.ofType? element with
  | none => rw [hw] at h; cases h
  | some w =>
    rw [hw] at h
    rcases bind_eq_error_iff.1 h with hrole | ⟨role, -, h⟩
    · exact role_ne_unexpectedField hrole
    · rcases bind_eq_error_iff.1 h with hitems | ⟨values, -, h⟩
      · obtain ⟨item, -, hitem⟩ := exists_of_mapM_eq_error hitems
        exact bindScalar_ne_unexpectedField hitem
      · cases h

theorem DataType.StopsAt.exists_unexpected? (h : t.StopsAt v path fields pairs) :
    ∃ key, unexpected? fields pairs = some key := by
  induction h with
  | here h =>
    by_contra hnone
    refine unexpected?_eq_none_iff_undeclared.1 ?_ _ h
    exact Option.eq_none_iff_forall_ne_some.2 (not_exists.1 hnone)
  | field _ _ _ _ ih => exact ih

theorem DataType.StopsAt.bindParameter_eq (name : String) (h : t.StopsAt v path fields pairs)
    (hkey : unexpected? fields pairs = some key) :
    bindParameter name t v = .error (.unexpectedField (path.getLastD name) key) := by
  induction h generalizing name with
  | here =>
    rw [bindParameter, hkey]
    rfl
  | @field before behind inner name' t v path fields' pairs' hdeclared hbefore hv _ ih =>
    rw [bindParameter_record_of_declared hdeclared, map_eq_error_iff, mapM_eq_error_iff]
    refine ⟨before, (name', t), behind, rfl, forall_exists_bindField_iff.2 hbefore, ?_⟩
    rw [bindField_of_lookup hv, ih name' hkey, List.getLastD_cons]

theorem exists_stopsAt_of_bindParameter
    (h : bindParameter name t v = .error (.unexpectedField parameter key)) :
    ∃ path fields pairs, t.StopsAt v path fields pairs ∧ path.getLastD name = parameter ∧
      unexpected? fields pairs = some key := by
  induction t generalizing name v with
  | primitive p =>
    rw [bindParameter_primitive] at h
    exact absurd h bindSingle_ne_unexpectedField
  | unrecognized kind =>
    rw [bindParameter_unrecognized] at h
    exact absurd h bindSingle_ne_unexpectedField
  | array element =>
    by_cases hv : ∃ items, v = .list items
    · obtain ⟨items, rfl⟩ := hv
      exact absurd h bindArray_ne_unexpectedField
    · rw [bindParameter_array_of_ne name (not_exists.1 hv)] at h
      cases h
  | struct fields ih =>
    by_cases hv : ∃ pairs, v = .record pairs
    · obtain ⟨pairs, rfl⟩ := hv
      cases hkey : unexpected? fields pairs with
      | some k =>
        rw [bindParameter, hkey] at h
        cases h
        exact ⟨[], fields, pairs, .here (undeclared_of_unexpected? hkey), rfl, hkey⟩
      | none =>
        have hdeclared := unexpected?_eq_none_iff_undeclared.1 hkey
        rw [bindParameter_record_of_declared hdeclared, map_eq_error_iff, mapM_eq_error_iff] at h
        obtain ⟨before, f, behind, rfl, hbefore, hf⟩ := h
        cases hv : pairs.lookup f.1 with
        | none =>
          rw [bindField, hv] at hf
          cases hf
        | some v =>
          rw [bindField_of_lookup hv] at hf
          obtain ⟨path, fields', pairs', hstops, hlast, hkey'⟩ := ih f (by simp) hf
          refine ⟨f.1 :: path, fields', pairs', ?_, List.getLastD_cons.trans hlast, hkey'⟩
          exact .field hdeclared (forall_exists_bindField_iff.1 hbefore) hv hstops
    · rw [bindParameter_struct_of_ne name (not_exists.1 hv)] at h
      cases h

/-- An undeclared key is reported just where binding stops at a record: the first one there. -/
theorem bindParameter_eq_unexpectedField_iff :
    bindParameter name t v = .error (.unexpectedField parameter key) ↔
      ∃ path fields pairs, t.StopsAt v path fields pairs ∧ path.getLastD name = parameter ∧
        unexpected? fields pairs = some key := by
  refine ⟨exists_stopsAt_of_bindParameter, ?_⟩
  rintro ⟨path, fields, pairs, hstops, rfl, hkey⟩
  exact hstops.bindParameter_eq name hkey

theorem not_stops_of_bindParameter {b : BoundParameter} (hb : bindParameter name t v = .ok b) :
    ¬ t.Stops v := by
  rintro ⟨path, fields, pairs, hstops⟩
  obtain ⟨key, hkey⟩ := hstops.exists_unexpected?
  cases hb.symm.trans (hstops.bindParameter_eq name hkey)

namespace Value.BindsAlike

theorem refl (v : Value) : v.BindsAlike v where
  stopsAt h := ⟨_, h, .refl _⟩
  bindParameter_eq _ _ _ := rfl

theorem admits (h : v.BindsAlike w) (hadmits : t.Admits v) : t.Admits w := by
  rw [← (bindParameter_succeedsIff "" t _).ok_iff] at hadmits ⊢
  obtain ⟨b, hb⟩ := hadmits
  exact ⟨b, (h.bindParameter_eq "" (not_stops_of_bindParameter hb)).trans hb⟩

theorem not_stops (h : v.BindsAlike w) (hv : ¬ t.Stops v) : ¬ t.Stops w := by
  rintro ⟨path, fields, pairs, hw⟩
  obtain ⟨key, hkey⟩ := hw.exists_unexpected?
  have hbind := (h.bindParameter_eq "" hv).symm.trans (hw.bindParameter_eq "" hkey)
  obtain ⟨_, _, _, hstops, -⟩ := exists_stopsAt_of_bindParameter hbind
  exact hv ⟨_, _, _, hstops⟩

theorem trans {u : Value} (huv : u.BindsAlike v) (hvw : v.BindsAlike w) : u.BindsAlike w where
  stopsAt h := by
    obtain ⟨pairs', h', hperm⟩ := huv.stopsAt h
    obtain ⟨pairs'', h'', hperm'⟩ := hvw.stopsAt h'
    exact ⟨pairs'', h'', hperm.trans hperm'⟩
  bindParameter_eq name t h :=
    (hvw.bindParameter_eq name (huv.not_stops h)).trans (huv.bindParameter_eq name h)

end Value.BindsAlike

theorem bindSingle_congr (h : ∀ role, bindScalar role w = bindScalar role v) :
    bindSingle name t w = bindSingle name t v := by
  rw [bindSingle, bindSingle]
  simp only [h]

theorem bindArray_congr (before behind : List Value)
    (h : ∀ role, bindScalar role w = bindScalar role v) :
    bindArray name element (before ++ w :: behind) =
      bindArray name element (before ++ v :: behind) := by
  rw [bindArray, bindArray]
  simp only [List.mapM_append, List.mapM_cons, h]

/-- The scalar rules do not look into records and lists. -/
theorem bindScalar_of_rearranged (h : v.Rearranged w) (role : Role) :
    bindScalar role w = bindScalar role v := by
  cases h <;> cases role <;> rfl

namespace RecordsAlike

theorem of_perm (h : pairs.Perm pairs') (hnodup : (pairs.map Prod.fst).Nodup) :
    RecordsAlike pairs pairs' where
  keys := h.map Prod.fst
  values _ v hv := ⟨v, (lookup_eq_of_perm h hnodup).symm.trans hv, .refl v⟩

theorem append_cons (before behind : List (String × Value)) (name : String)
    (h : v.BindsAlike w) :
    RecordsAlike (before ++ (name, v) :: behind) (before ++ (name, w) :: behind) where
  keys := by simp
  values key u hu := by
    rcases lookup_append_cons before behind name key v w with hsame | ⟨hv, hw⟩
    · exact ⟨u, hsame.trans hu, .refl u⟩
    · cases hv.symm.trans hu
      exact ⟨w, hw, h⟩

theorem declared (h : RecordsAlike pairs pairs')
    (hdeclared : ∀ key, ¬ Undeclared fields pairs key) : ∀ key, ¬ Undeclared fields pairs' key :=
  fun key => (undeclared_iff_of_perm h.keys).not.1 (hdeclared key)

theorem fieldsAdmit (h : RecordsAlike pairs pairs') (hfields : DataType.FieldsAdmit fields pairs) :
    DataType.FieldsAdmit fields pairs' := by
  rw [fieldsAdmit_iff] at hfields ⊢
  intro f hf
  obtain ⟨v, hv, hadmits⟩ := hfields f hf
  obtain ⟨w, hw, halike⟩ := h.values f.1 v hv
  exact ⟨w, hw, halike.admits hadmits⟩

/-- Field by field, as far as the fields before are bound. -/
theorem bindParameter_eq (h : RecordsAlike pairs pairs')
    (hstops : ¬ (DataType.struct fields).Stops (.record pairs)) :
    bindParameter name (.struct fields) (.record pairs') =
      bindParameter name (.struct fields) (.record pairs) := by
  have hdeclared : ∀ key, ¬ Undeclared fields pairs key :=
    fun key hkey => hstops ⟨_, _, _, .here hkey⟩
  rw [bindParameter_record_of_declared hdeclared,
    bindParameter_record_of_declared (h.declared hdeclared)]
  refine congrArg _ (mapM_congr_of_ok fun before f behind hfields hok => ?_)
  cases hv : pairs.lookup f.1 with
  | none =>
    have hw : pairs'.lookup f.1 = none := by
      rw [lookup_eq_none_iff_notMem] at hv ⊢
      rwa [← h.keys.mem_iff]
    rw [bindField, bindField, hv, hw]
  | some v =>
    obtain ⟨w, hw, halike⟩ := h.values f.1 v hv
    rw [bindField_of_lookup hv, bindField_of_lookup hw]
    refine halike.bindParameter_eq f.1 fun ⟨path, fields', inner, hinner⟩ => ?_
    subst hfields
    exact hstops ⟨_, _, _, .field hdeclared (forall_exists_bindField_iff.1 hok) hv hinner⟩

theorem bindsAlike (h : RecordsAlike pairs pairs') :
    (Value.record pairs).BindsAlike (.record pairs') where
  stopsAt hstops := by
    cases hstops with
    | here hkey => exact ⟨pairs', .here ((undeclared_iff_of_perm h.keys).1 hkey), h.keys⟩
    | field hdeclared hbefore hv hinner =>
      obtain ⟨w, hw, halike⟩ := h.values _ _ hv
      obtain ⟨inner', hinner', hperm⟩ := halike.stopsAt hinner
      exact ⟨inner', .field (h.declared hdeclared) (h.fieldsAdmit hbefore) hw hinner', hperm⟩
  bindParameter_eq name t hstops := by
    cases t with
    | primitive | array | unrecognized =>
      exact bindSingle_congr fun role => by cases role <;> rfl
    | struct fields => exact h.bindParameter_eq hstops

end RecordsAlike

theorem bindsAlike_list (before behind : List Value)
    (h : ∀ role, bindScalar role w = bindScalar role v) :
    (Value.list (before ++ v :: behind)).BindsAlike (.list (before ++ w :: behind)) where
  stopsAt hstops := by cases hstops
  bindParameter_eq name t _ := by
    cases t with
    | array element => exact bindArray_congr before behind h
    | primitive | struct | unrecognized =>
      exact bindSingle_congr fun role => by cases role <;> rfl

theorem Value.Rearranged.bindsAlike (h : v.Rearranged w) (hv : v.DistinctKeys) :
    v.BindsAlike w := by
  induction h with
  | here hperm => exact (RecordsAlike.of_perm hperm (distinctKeys_record_iff.1 hv).1).bindsAlike
  | item before behind h => exact bindsAlike_list before behind (bindScalar_of_rearranged h)
  | @field v w before behind name _ ih =>
    have hvalue : v.DistinctKeys := (distinctKeys_record_iff.1 hv).2 (name, v) (by simp)
    exact (RecordsAlike.append_cons before behind name (ih hvalue)).bindsAlike

theorem bindsAlike_of_rearrangements (hv : v.DistinctKeys)
    (h : Relation.ReflTransGen Value.Rearranged v w) : v.BindsAlike w ∧ w.DistinctKeys := by
  induction h with
  | refl => exact ⟨.refl v, hv⟩
  | tail _ hstep ih =>
    obtain ⟨halike, hdistinct⟩ := ih
    exact ⟨halike.trans (hstep.bindsAlike hdistinct), hdistinct.of_rearranged hstep⟩

/-- Where no record repeats a key, the pairs of records at any depth may stand in any order: binding
gives the same parameter or the same error, or else both errors name an undeclared key of the record
at which binding stops, which need not be the same key. -/
theorem bindParameter_in_any_order (name : String) (t : DataType) (v w : Value)
    (hv : v.DistinctKeys) (h : Relation.ReflTransGen Value.Rearranged v w) :
    (∀ b, bindParameter name t v = .ok b ↔ bindParameter name t w = .ok b) ∧
      ∀ e, bindParameter name t v = .error e → bindParameter name t w = .error e ∨
        ∃ path fields pairs pairs' key key', t.StopsAt v path fields pairs ∧
          t.StopsAt w path fields pairs' ∧ (pairs.map Prod.fst).Perm (pairs'.map Prod.fst) ∧
          Undeclared fields pairs key ∧ Undeclared fields pairs key' ∧
          e = .unexpectedField (path.getLastD name) key ∧
          bindParameter name t w = .error (.unexpectedField (path.getLastD name) key') := by
  obtain ⟨halike, -⟩ := bindsAlike_of_rearrangements hv h
  by_cases hstop : t.Stops v
  · obtain ⟨path, fields, pairs, hstop⟩ := hstop
    obtain ⟨pairs', hstop', hperm⟩ := halike.stopsAt hstop
    obtain ⟨key, hkey⟩ := hstop.exists_unexpected?
    obtain ⟨key', hkey'⟩ := hstop'.exists_unexpected?
    have hbind := hstop.bindParameter_eq name hkey
    have hbind' := hstop'.bindParameter_eq name hkey'
    refine ⟨fun b => by rw [hbind, hbind']; simp, fun e he => .inr ?_⟩
    have hundeclared' : Undeclared fields pairs key' :=
      (undeclared_iff_of_perm hperm).2 (undeclared_of_unexpected? hkey')
    exact ⟨path, fields, pairs, pairs', key, key', hstop, hstop', hperm,
      undeclared_of_unexpected? hkey, hundeclared', Except.error.inj (he.symm.trans hbind), hbind'⟩
  · rw [halike.bindParameter_eq name hstop]
    exact ⟨fun b => Iff.rfl, fun e he => .inl he⟩

/-- Two undeclared keys of a record inside change places. -/
theorem bindParameter_in_any_order_inner :
    let t := DataType.struct [("s", .struct [("a", .int64)])]
    let v := Value.record [("s", .record [("a", .int 1), ("x", .int 2), ("y", .int 3)])]
    let w := Value.record [("s", .record [("a", .int 1), ("y", .int 3), ("x", .int 2)])]
    v.DistinctKeys ∧ Relation.ReflTransGen Value.Rearranged v w ∧
      bindParameter "p" t v = .error (.unexpectedField "s" "x") ∧
      bindParameter "p" t w = .error (.unexpectedField "s" "y") ∧
      ∃ path fields pairs, t.StopsAt v path fields pairs ∧ Undeclared fields pairs "x" ∧
        Undeclared fields pairs "y" := by
  intro t v w
  have hv : v.DistinctKeys := by
    simp [v, Value.DistinctKeys, Value.PairsDistinct]
  have hvw : Relation.ReflTransGen Value.Rearranged v w :=
    .single (.field [] [] "s" (.here ((List.Perm.swap _ _ _).cons _)))
  have hx : bindParameter "p" t v = .error (.unexpectedField "s" "x") := by rfl
  have hy : bindParameter "p" t w = .error (.unexpectedField "s" "y") := by rfl
  obtain ⟨-, herrors⟩ := bindParameter_in_any_order "p" t v w hv hvw
  have hother := (herrors _ hx).resolve_left (by simp [hy])
  obtain ⟨path, fields, pairs, _, key, key', hstop, -, -, hkey, hkey', he, he'⟩ := hother
  obtain ⟨-, rfl⟩ := BindingError.unexpectedField.inj he
  obtain ⟨-, rfl⟩ := BindingError.unexpectedField.inj (Except.error.inj (hy.symm.trans he'))
  exact ⟨hv, hvw, hx, hy, path, fields, pairs, hstop, hkey, hkey'⟩

end WarehouseAdapter
