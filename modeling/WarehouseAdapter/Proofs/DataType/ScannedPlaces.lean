import WarehouseAdapter.Proofs.DataType.Grammar
import WarehouseAdapter.Proofs.DataType.Scanning

/-!
# The places of a scan

A scan of any source comes to an end, and to the end of the reader of the characters that remain:
the same type, or the same fault at the same place. All places on the way are places of the source,
so no cut goes amiss.
-/

namespace WarehouseAdapter.DataType

/-- The scanner stands in front of `s`, and all that it has been at are places of the source. -/
structure StandsAt (source : String) (t : Trail) (s : List Char) : Prop where
  cut : ∃ p, cut? t.place source.toList = some (p, s)
  earlier : ∀ n ∈ t.earlier, (⟨n⟩ : String.Pos.Raw).IsValid source

variable {α β : Type} {source : String} {t : Trail} {s s' u p q r : List Char} {a : α}

theorem standsAt_start (source : String) : StandsAt source Trail.start source.toList :=
  ⟨⟨[], cut?_append [] _⟩, fun _ h => absurd h List.not_mem_nil⟩

namespace StandsAt

theorem isValid (h : StandsAt source t s) {n : Nat} (hn : n ∈ t.places) :
    (⟨n⟩ : String.Pos.Raw).IsValid source := by
  rcases List.mem_cons.1 hn with rfl | hn
  · obtain ⟨p, hp⟩ := h.cut
    exact (isSome_cut?_iff source _).1 (Option.isSome_iff_exists.2 ⟨_, hp⟩)
  · exact h.earlier n hn

theorem moveTo (h : StandsAt source t s) {n : Nat}
    (hn : ∃ p, cut? n source.toList = some (p, r)) : StandsAt source (t.moveTo n) r :=
  ⟨hn, fun _ hm => h.isValid hm⟩

theorem place_add (h : StandsAt source t s) : t.place + utf8Length s = source.utf8ByteSize := by
  obtain ⟨p, hp⟩ := h.cut
  obtain ⟨hsource, hplace⟩ := eq_append_of_cut? hp
  rw [← utf8Length_toList, hsource, utf8Length_append, hplace]

theorem place_eq (h : StandsAt source t s) :
    t.place = utf8Length source.toList - utf8Length s := by
  rw [utf8Length_toList, ← h.place_add, Nat.add_sub_cancel]

theorem place_eq_end_iff (h : StandsAt source t s) :
    t.place = source.utf8ByteSize ↔ s = [] := by
  rw [← h.place_add, ← utf8Length_eq_zero_iff]
  omega

theorem moveBy (h : StandsAt source t (p ++ s)) :
    StandsAt source (t.moveTo (t.place + utf8Length p)) s := by
  obtain ⟨p', hp'⟩ := h.cut
  obtain ⟨hsource, hplace⟩ := eq_append_of_cut? hp'
  refine h.moveTo ⟨p' ++ p, cut?_eq_some_iff.2 ⟨?_, ?_⟩⟩
  · rw [hsource, List.append_assoc]
  · rw [utf8Length_append, hplace]

end StandsAt

theorem Scan.runFrom_bind (x : Scan α) (f : α → Scan β) (t : Trail) :
    (x >>= f).runFrom t =
      match x.runFrom t with
      | (.ok a, t') => (f a).runFrom t'
      | (.error e, t') => (.error e, t') := by
  unfold Scan.runFrom
  rw [ExceptT.run_bind, StateT.run_bind]
  cases x.run.run t with
  | mk y t' => cases y <;> rfl

theorem Scan.runFrom_bind_of_ok {x : Scan α} {t' : Trail} (f : α → Scan β)
    (h : x.runFrom t = (.ok a, t')) : (x >>= f).runFrom t = (f a).runFrom t' := by
  rw [Scan.runFrom_bind, h]

theorem Scan.runFrom_bind_of_error {x : Scan α} {t' : Trail} {e : Halt} (f : α → Scan β)
    (h : x.runFrom t = (.error e, t')) : (x >>= f).runFrom t = (.error e, t') := by
  rw [Scan.runFrom_bind, h]

/-- In front of `s`, the scan gives `a` and stands in front of `r`. -/
def Gives (source : String) (s : List Char) (x : Scan α) (a : α) (r : List Char) : Prop :=
  ∀ t, StandsAt source t s → ∃ t', x.runFrom t = (.ok a, t') ∧ StandsAt source t' r

/-- The scan has the end of a step of the reader, and stands where that leaves off. -/
inductive SameEnd (source : String) :
    Except Failure (α × Shorter u) → Except Halt α × Trail → Prop
  | ok {a : α} {q : Shorter u} {t' : Trail} (h : StandsAt source t' q.val) :
      SameEnd source (.ok (a, q)) (.ok a, t')
  | malformed {r : List Char} {fault : Fault} {t' : Trail} (h : StandsAt source t' r) :
      SameEnd source (.error (.malformed r fault))
        (.error (.refused (.typeText source t'.place fault)), t')
  | repeatedFields {names : List String} {r : List Char} {t' : Trail} (h : StandsAt source t' r) :
      SameEnd source (.error (.repeatedFields names))
        (.error (.refused (.repeatedNames names)), t')

/-- In front of `s`, the scan has the end of `y`. -/
def Follows (source : String) (s : List Char) (x : Scan α)
    (y : Except Failure (α × Shorter u)) : Prop :=
  ∀ t, StandsAt source t s → SameEnd source y (x.runFrom t)

theorem gives_pure (a : α) : Gives source s (pure a) a s := fun t h => ⟨t, rfl, h⟩

theorem Gives.bind {x : Scan β} {f : β → Scan α} {b : β} (hx : Gives source s x b q)
    (hf : Gives source q (f b) a r) : Gives source s (x >>= f) a r := by
  intro t h
  obtain ⟨t', hrun, h'⟩ := hx t h
  rw [Scan.runFrom_bind_of_ok f hrun]
  exact hf t' h'

theorem Gives.follows_bind {x : Scan β} {f : β → Scan α} {b : β}
    {y : Except Failure (α × Shorter u)} (hx : Gives source s x b q)
    (hf : Follows source q (f b) y) : Follows source s (x >>= f) y := by
  intro t h
  obtain ⟨t', hrun, h'⟩ := hx t h
  rw [Scan.runFrom_bind_of_ok f hrun]
  exact hf t' h'

theorem follows_pure {hr : r.length < u.length} :
    Follows source r (pure a) (.ok (a, (⟨r, hr⟩ : Shorter u))) := fun _ h => .ok h

theorem follows_refuse_bind {fault : Fault} {f : β → Scan α} :
    Follows (u := u) source s (Scan.refuse source fault >>= f) (.error (.malformed s fault)) :=
  fun _ h => .malformed h

theorem follows_refuse {fault : Fault} : Follows (α := α) (u := u) source s
    (Scan.refuse source fault) (.error (.malformed s fault)) := fun _ h => .malformed h

theorem follows_bind {x : Scan β} {f : β → Scan α} {y : Except Failure (β × Shorter s')}
    {g : β × Shorter s' → Except Failure (α × Shorter u)} (hx : Follows source s x y)
    (hf : ∀ b q hq, y = .ok (b, ⟨q, hq⟩) → Follows source q (f b) (g (b, ⟨q, hq⟩))) :
    Follows source s (x >>= f) (y >>= g) := by
  intro t h
  have hend := hx t h
  generalize hy : y = y' at *
  generalize hz : x.runFrom t = z at *
  cases hend with
  | ok h' =>
    rw [Scan.runFrom_bind_of_ok f hz]
    exact hf _ _ _ rfl _ h'
  | malformed h' =>
    rw [Scan.runFrom_bind_of_error f hz]
    exact .malformed h'
  | repeatedFields h' =>
    rw [Scan.runFrom_bind_of_error f hz]
    exact .repeatedFields h'

theorem gives_cut {text : List Char} (htext : text = p ++ q) :
    Gives source s (Scan.cut (utf8Length p) text) (p, q) s := by
  rw [Scan.cut, htext, cut?_append]
  exact gives_pure _

theorem gives_remaining : Gives source s (Scan.remaining source) s s := by
  intro t h
  obtain ⟨p, hp⟩ := h.cut
  refine ⟨t, ?_, h⟩
  change (Scan.cut t.place source.toList >>= fun p => pure p.2).runFrom t = _
  rw [Scan.runFrom_bind, Scan.cut, hp]
  rfl

theorem gives_moveBy (hs : s = p ++ r) :
    Gives source s (Scan.moveBy (utf8Length p)) () r := fun _ h => ⟨_, rfl, (hs ▸ h).moveBy⟩

/-- Past a character of one byte. -/
theorem gives_moveBy_past {c : Char} (hc : c.utf8Size = 1) (hs : s = p ++ c :: r) :
    Gives source s (Scan.moveBy (utf8Length p + 1)) () r := by
  have hbytes : utf8Length (p ++ [c]) = utf8Length p + 1 := by
    rw [utf8Length_append, utf8Length_cons, utf8Length_nil, hc]
  rw [← hbytes]
  exact gives_moveBy (by rw [hs, List.append_assoc, List.singleton_append])

theorem gives_moveToEnd : Gives source s (Scan.moveToEnd source) () [] := by
  have hend : cut? source.utf8ByteSize source.toList = some (source.toList, []) := by
    rw [cut?_eq_some_iff, List.append_nil, utf8Length_toList]
    exact ⟨rfl, rfl⟩
  exact fun t h => ⟨_, rfl, h.moveTo ⟨_, hend⟩⟩

theorem gives_peek : Gives source s (Scan.peek source) s.head? s :=
  gives_remaining.bind (gives_pure _)

theorem gives_peek_of_cons {c : Char} (h : s = c :: q) :
    Gives source s (Scan.peek source) (some c) s := by
  subst h
  exact gives_peek

theorem gives_passBlanks : Gives source s (Scan.passBlanks source) () (skipBlank s) := by
  obtain ⟨blanks, -, hs⟩ := exists_blanks_append_skipBlank s
  have hbytes : utf8Length s - utf8Length (skipBlank s) = utf8Length blanks := by
    have hlength := congrArg utf8Length hs
    rw [utf8Length_append] at hlength
    omega
  refine gives_remaining.bind ?_
  rw [hbytes]
  exact gives_moveBy hs

theorem follows_word (hs : skipBlank s = skipBlank s') :
    Follows source s (Scan.word source) (readWord s') := by
  refine gives_passBlanks.follows_bind (gives_remaining.follows_bind ?_)
  rw [hs]
  have hsplit := (List.takeWhile_append_dropWhile (p := isNameChar) (l := skipBlank s')).symm
  have hbytes : (placeOf? (!isNameChar ·) (skipBlank s')).getD (utf8Length (skipBlank s')) =
      utf8Length ((skipBlank s').takeWhile isNameChar) := by
    simp only [placeOf?_getD, Bool.not_not]
  dsimp only [readWord]
  rw [hbytes]
  by_cases hnone : (skipBlank s').takeWhile isNameChar = []
  · rw [if_pos (utf8Length_eq_zero_iff.2 hnone), dif_pos hnone]
    exact follows_refuse
  · rw [if_neg (utf8Length_eq_zero_iff.not.2 hnone), dif_neg hnone]
    exact (gives_moveBy hsplit).follows_bind ((gives_cut hsplit).follows_bind follows_pure)

theorem length_lt_of_skipBlank {c : Char} (h : skipBlank s = c :: q) : q.length < s.length := by
  have hlength := length_skipBlank_le s
  rw [h, List.length_cons] at hlength
  omega

theorem readChar_of_head {c : Char} (h : skipBlank s = c :: q) (hq : q.length < s.length) :
    readChar c s = .ok ⟨q, hq⟩ := by
  unfold readChar
  split
  · rename_i hnil
    rw [hnil] at h
    cases h
  · rename_i d r hcons
    obtain ⟨rfl, rfl⟩ := List.cons.inj (hcons.symm.trans h)
    exact if_pos rfl

theorem readChar_of_not_head {c : Char} (h : (skipBlank s).head? ≠ some c) :
    readChar c s = .error (.malformed (skipBlank s) (.expected c)) := by
  unfold readChar
  split
  · rename_i hnil
    rw [hnil]
  · rename_i d r hcons
    rw [if_neg fun hd => h (hcons ▸ congrArg some hd), hcons]

theorem follows_mark_bind {c : Char} {f : Unit → Scan α}
    {g : Shorter s → Except Failure (α × Shorter u)}
    (hf : ∀ q h, skipBlank s = c :: q → Follows source q (f ()) (g ⟨q, h⟩)) :
    Follows source s (Scan.mark source c >>= f) (readChar c s >>= g) := by
  rw [Scan.mark, bind_assoc]
  refine gives_passBlanks.follows_bind ?_
  rw [bind_assoc]
  refine gives_peek.follows_bind ?_
  by_cases hhead : (skipBlank s).head? = some c
  · obtain ⟨q, hcons⟩ := List.head?_eq_some_iff.1 hhead
    have hq := length_lt_of_skipBlank hcons
    have hbyte : utf8Length [c] = c.utf8Size := Nat.add_zero _
    rw [if_pos hhead, readChar_of_head hcons hq, ← hbyte]
    exact (gives_moveBy hcons).follows_bind (hf q hq hcons)
  · rw [if_neg hhead, readChar_of_not_head hhead]
    exact follows_refuse_bind

theorem utf8Length_tick : '\x60'.utf8Size = 1 := by decide

theorem ticked?_of_readTicked {name : List Char} (n : Nat) (h : readTicked s = some (name, r)) :
    Scan.ticked? n s = some (name, n + utf8Length (name.flatMap doubleTick)) := by
  fun_induction readTicked s generalizing n name with
  | case1 => cases h
  | case2 s ih =>
    obtain ⟨⟨m, q⟩, hm, he⟩ := Option.map_eq_some_iff.1 h
    obtain ⟨rfl, rfl⟩ := Prod.mk.inj he
    rw [Scan.ticked?, ih (n + 2) hm]
    simp only [doubleTick, List.flatMap_cons, if_pos, Option.map_some, utf8Length_append,
      utf8Length_cons, utf8Length_nil, utf8Length_tick]
    congr 2
    omega
  | case3 s =>
    obtain ⟨rfl, rfl⟩ := Prod.mk.inj (Option.some.inj h)
    simp [Scan.ticked?]
  | case4 c s _ hc ih =>
    obtain ⟨⟨m, q⟩, hm, he⟩ := Option.map_eq_some_iff.1 h
    obtain ⟨rfl, rfl⟩ := Prod.mk.inj he
    have hsingle : doubleTick c = [c] := if_neg hc
    rw [Scan.ticked?, ih (n + c.utf8Size) hm, List.flatMap_cons, hsingle]
    · simp [Nat.add_assoc]
    · exact fun _ htick _ => hc htick
    · exact hc

theorem ticked?_eq_none (n : Nat) (h : readTicked s = none) : Scan.ticked? n s = none := by
  fun_induction readTicked s generalizing n with
  | case1 => rfl
  | case2 s ih => simp [Scan.ticked?, ih (n + 2) (Option.map_eq_none_iff.1 h)]
  | case3 s => cases h
  | case4 c s _ hc ih => simp [Scan.ticked?, ih (n + c.utf8Size) (Option.map_eq_none_iff.1 h)]

theorem readFieldName_of_unterminated (h : skipBlank s = '\x60' :: q) (hq : readTicked q = none) :
    readFieldName s = .error (.malformed [] .unterminatedName) := by
  unfold readFieldName
  split
  · rename_i q' h'
    obtain rfl : q = q' := by simpa [h] using h'
    split
    · rfl
    · rename_i hsome
      rw [hq] at hsome
      cases hsome
  · rename_i h'
    exact absurd h (h' q)

theorem readFieldName_of_word (h : (skipBlank s).head? ≠ some '\x60') :
    readFieldName s = readWord s := by
  unfold readFieldName
  split
  · rename_i q h'
    exact absurd (by rw [h', List.head?_cons]) h
  · rfl

theorem follows_fieldName : Follows source s (Scan.fieldName source) (readFieldName s) := by
  refine gives_passBlanks.follows_bind (gives_peek.follows_bind ?_)
  by_cases hhead : (skipBlank s).head? = some '\x60'
  · obtain ⟨q, hcons⟩ := List.head?_eq_some_iff.1 hhead
    rw [if_pos hhead]
    refine (gives_moveBy (p := ['\x60']) hcons).follows_bind (gives_remaining.follows_bind ?_)
    cases hticked : readTicked q with
    | none =>
      rw [ticked?_eq_none 0 hticked, readFieldName_of_unterminated hcons hticked]
      exact gives_moveToEnd.follows_bind follows_refuse
    | some p =>
      obtain ⟨name, r⟩ := p
      obtain ⟨⟨r', hr'⟩, hread, rfl⟩ := (yields_readFieldName_of_ticked hcons).2 hticked
      rw [ticked?_of_readTicked 0 hticked, hread, Nat.zero_add]
      exact (gives_moveBy_past rfl (eq_of_readTicked hticked)).follows_bind follows_pure
  · rw [if_neg hhead, readFieldName_of_word hhead]
    exact follows_word (skipBlank_skipBlank s)

theorem follows_kind : Follows source s (Scan.kind source) (readKind s) := by
  have hplace : placeOf? (· == '>') s = if s.dropWhile (· != '>') = [] then none
      else some (utf8Length (s.takeWhile (· != '>'))) := placeOf?_eq _ s
  unfold readKind
  split
  · rename_i hnil
    refine gives_remaining.follows_bind ?_
    rw [hplace, if_pos hnil]
    exact follows_refuse
  · rename_i c r hcons
    obtain ⟨hsplit, -⟩ := eq_of_dropWhile_ne hcons
    have hne : s.dropWhile (· != '>') ≠ [] := hcons ▸ List.cons_ne_nil c r
    refine gives_remaining.follows_bind ?_
    rw [hplace, if_neg hne]
    refine (gives_cut hsplit).follows_bind ?_
    exact (gives_moveBy_past rfl hsplit).follows_bind follows_pure

/-- A struct that the reader has read without repeated names is one that may be built. -/
theorem ofFields_of_readFields {fields : List (String × DataType)}
    (h : Yields (readFields s) fields r) : ofFields fields =
      if (fields.map Prod.fst).Nodup then .ok (struct fields)
      else .error (.repeatedNames (repeatedNames (fields.map Prod.fst))) := by
  have hne : fields ≠ [] := by
    obtain ⟨name, q₁, -, q₂, -, t, q₃, -, hrest⟩ := yields_readFields.1 h
    rcases hrest with ⟨q₄, -, rest, q₅, -, rfl, -⟩ | ⟨q₄, -, rfl, -⟩
    · exact List.cons_ne_nil _ _
    · exact List.cons_ne_nil _ _
  rw [ofFields, if_neg (by simpa using hne)]

-- Each call inside another is made in front of fewer characters, so the limit is not used up.
mutual

theorem follows_type (limit : Nat) (s : List Char) (h : s.length < limit) :
    Follows source s (Scan.type source limit) (readType s) := by
  obtain ⟨limit, rfl⟩ := Nat.exists_eq_add_of_lt h
  rw [Scan.type, readType]
  refine follows_bind (follows_word rfl) fun w q hq _ => ?_
  dsimp only
  split_ifs with harray hstruct hunrecognized
  · refine follows_mark_bind fun q₁ h₁ _ => ?_
    refine follows_bind (follows_type _ q₁ (by omega)) fun element q₂ h₂ _ => ?_
    exact follows_mark_bind fun q₃ h₃ _ => follows_pure
  · refine follows_mark_bind fun q₁ h₁ _ => ?_
    refine follows_bind (follows_fields _ q₁ (by omega)) fun fields q₂ h₂ hy => ?_
    rw [ofFields_of_readFields ⟨_, hy, rfl⟩]
    dsimp only
    split_ifs with hnodup
    · exact follows_pure
    · exact fun _ h => .repeatedFields h
  · refine follows_mark_bind fun q₁ h₁ _ => ?_
    exact follows_bind follows_kind fun kind q₂ h₂ _ => follows_pure
  · cases Primitive.ofName? (lowerAscii (String.ofList w)) with
    | some p => exact follows_pure
    | none => exact follows_refuse

theorem follows_fields (limit : Nat) (s : List Char) (h : s.length < limit) :
    Follows source s (Scan.fields source limit) (readFields s) := by
  obtain ⟨limit, rfl⟩ := Nat.exists_eq_add_of_lt h
  rw [Scan.fields, readFields]
  refine follows_bind follows_fieldName fun name q₁ h₁ _ => follows_mark_bind fun q₂ h₂ _ => ?_
  refine follows_bind (follows_type _ q₂ (by omega)) fun t q₃ h₃ _ => ?_
  refine gives_passBlanks.follows_bind ?_
  dsimp only
  split
  · rename_i q₄ hcomma
    have h₄ := length_lt_of_skipBlank hcomma
    refine (gives_peek_of_cons hcomma).follows_bind ?_
    refine (gives_moveBy (p := [',']) hcomma).follows_bind ?_
    exact follows_bind (follows_fields _ q₄ (by omega)) fun rest q₅ h₅ _ => follows_pure
  · rename_i q₄ hclose
    refine (gives_peek_of_cons hclose).follows_bind ?_
    exact (gives_moveBy (p := ['>']) hclose).follows_bind follows_pure
  · rename_i hcomma hclose
    refine gives_peek.follows_bind ?_
    split
    · rename_i hhead
      obtain ⟨q₄, hcons⟩ := List.head?_eq_some_iff.1 hhead
      exact absurd hcons (hcomma q₄)
    · rename_i hhead
      obtain ⟨q₄, hcons⟩ := List.head?_eq_some_iff.1 hhead
      exact absurd hcons (hclose q₄)
    · exact follows_refuse

end

theorem parse_of_readType {type : DataType} {q : Shorter source.toList}
    (h : readType source.toList = .ok (type, q)) : parse source =
      if skipBlank q.val = [] then .ok type
      else .error (.typeText source
        (utf8Length source.toList - utf8Length (skipBlank q.val)) .trailing) := by
  have hchars : ofChars source.toList =
      if skipBlank q.val = [] then .ok type
      else .error (.malformed (skipBlank q.val) .trailing) := by
    unfold ofChars
    rw [h]
    dsimp only [bind, Except.bind]
    split
    · rename_i hnil
      rw [if_pos hnil]
      rfl
    · rename_i hcons
      rw [if_neg hcons]
      rfl
  rw [parse, hchars]
  split_ifs <;> rfl

theorem parse_of_malformed {fault : Fault}
    (h : readType source.toList = .error (.malformed r fault)) : parse source =
      .error (.typeText source (utf8Length source.toList - utf8Length r) fault) := by
  rw [parse, ofChars, h]
  rfl

theorem parse_of_repeatedFields {names : List String}
    (h : readType source.toList = .error (.repeatedFields names)) :
    parse source = .error (.repeatedNames names) := by
  rw [parse, ofChars, h]
  rfl

/-- The scanner stands at a place of the source at last, which is the place of the fault if there is
one. -/
theorem scan_ends (source : String) (limit : Nat) (hlimit : source.length < limit) :
    ∃ t r, StandsAt source t r ∧
      scan limit source = ((parse source).mapError Halt.refused, t) ∧
      ∀ text offset fault, parse source = .error (.typeText text offset fault) →
        text = source ∧ offset = t.place := by
  have hlength : source.toList.length < limit := by rwa [String.length_toList]
  have hend := follows_type limit source.toList hlength Trail.start (standsAt_start source)
  generalize hread : readType source.toList = y at hend
  generalize hrun : (Scan.type source limit).runFrom Trail.start = z at hend
  rw [scan, Scan.whole]
  cases hend with
  | @ok type q t h =>
    obtain ⟨t', hblanks, h'⟩ := gives_passBlanks t h
    refine ⟨t', _, h', ?_⟩
    rw [Scan.runFrom_bind_of_ok _ hrun, Scan.runFrom_bind_of_ok _ hblanks,
      parse_of_readType hread, ← h'.place_eq]
    change Scan.runFrom (if t'.place = source.utf8ByteSize then pure type
      else Scan.refuse source .trailing) t' = _ ∧ _
    by_cases hnil : skipBlank q.val = []
    · rw [if_pos hnil, if_pos (h'.place_eq_end_iff.2 hnil)]
      refine ⟨rfl, ?_⟩
      rintro text offset fault ⟨⟩
    · rw [if_neg hnil, if_neg (h'.place_eq_end_iff.not.2 hnil)]
      refine ⟨rfl, ?_⟩
      rintro text offset fault ⟨⟩
      exact ⟨rfl, rfl⟩
  | @malformed r fault t h =>
    refine ⟨t, r, h, ?_⟩
    rw [Scan.runFrom_bind_of_error _ hrun, parse_of_malformed hread, ← h.place_eq]
    refine ⟨rfl, ?_⟩
    rintro text offset fault' ⟨⟩
    exact ⟨rfl, rfl⟩
  | @repeatedFields names r t h =>
    refine ⟨t, r, h, ?_⟩
    rw [Scan.runFrom_bind_of_error _ hrun, parse_of_repeatedFields hread]
    refine ⟨rfl, ?_⟩
    rintro text offset fault' ⟨⟩

/-- Whatever the source is, the scan ends as `parse` does, and it never stands inside a character. -/
theorem scan_eq_parse (source : String) (limit : Nat) (hlimit : source.length < limit) :
    ∃ t, scan limit source = ((parse source).mapError Halt.refused, t) ∧
      (∀ n ∈ t.places, n ≤ source.utf8ByteSize ∧ (⟨n⟩ : String.Pos.Raw).IsValid source) ∧
      ∀ text offset fault, parse source = .error (.typeText text offset fault) →
        text = source ∧ offset = t.place := by
  obtain ⟨t, r, h, hscan, hfault⟩ := scan_ends source limit hlimit
  exact ⟨t, hscan, fun n hn => ⟨(h.isValid hn).le_utf8ByteSize, h.isValid hn⟩, hfault⟩

theorem scan_eq_parse_accent : "struct<\x60é\x60: x>".length < 15 ∧
    ∃ t, scan 15 "struct<\x60é\x60: x>" =
        (.error (.refused (.typeText "struct<\x60é\x60: x>" 14 (.unknownType "x"))), t) ∧
      (∀ n ∈ t.places, n ≤ 15 ∧ (⟨n⟩ : String.Pos.Raw).IsValid "struct<\x60é\x60: x>") ∧
      14 = t.place := by
  have hlength : "struct<\x60é\x60: x>".length < 15 := by decide
  have hbytes : "struct<\x60é\x60: x>".utf8ByteSize = 15 := by decide
  have hparse : parse "struct<\x60é\x60: x>" =
      .error (.typeText "struct<\x60é\x60: x>" 14 (.unknownType "x")) := by cbv
  obtain ⟨t, hscan, hplaces, hfault⟩ := scan_eq_parse "struct<\x60é\x60: x>" 15 hlength
  rw [hparse] at hscan
  rw [hbytes] at hplaces
  exact ⟨hlength, t, hscan, hplaces, (hfault _ _ _ hparse).2⟩

example : (scan 15 "struct<\x60é\x60: x>").2.places =
    [14, 13, 12, 11, 11, 8, 7, 7, 6, 6, 0, 0] := by cbv

end WarehouseAdapter.DataType
