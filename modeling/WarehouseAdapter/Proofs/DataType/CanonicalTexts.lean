import WarehouseAdapter.Proofs.DataType.Grammar

/-!
# Canonical texts of types

What a text may spell is narrower than what a type may be: the structs that it spells have fields of
distinct names, and its kinds end at the next `>` and lose the blanks at their ends. So every type
that is read has a text that is read back, and reading that text again changes nothing, in whichever
letters, blanks, quotes and other spellings the type was written at first.
-/

namespace WarehouseAdapter.DataType

variable {s r : List Char} {source : String} {t : DataType} {fields : List (String × DataType)}

theorem SpellsFields.ne_nil (h : SpellsFields s fields r) : fields ≠ [] := by
  cases h with
  | last => exact List.cons_ne_nil _ _
  | cons => exact List.cons_ne_nil _ _

mutual

theorem Spells.wellFormed {s r : List Char} {t : DataType} : Spells s t r → t.WellFormed
  | .primitive _ _ => trivial
  | .array _ _ _ helement _ => helement.wellFormed
  | .struct _ _ _ hfields hnodup =>
    ⟨hfields.ne_nil, hnodup, wellFormedFields_iff.2 hfields.forall_wellFormed⟩
  | .unrecognized _ _ _ _ => trivial

theorem SpellsFields.forall_wellFormed {s r : List Char} {fields : List (String × DataType)} :
    SpellsFields s fields r → ∀ f ∈ fields, f.2.WellFormed
  | .last _ _ htype _ => List.forall_mem_singleton.2 htype.wellFormed
  | .cons _ _ htype _ hrest => List.forall_mem_cons.2 ⟨htype.wellFormed, hrest.forall_wellFormed⟩

end

mutual

theorem Spells.hasReadableKinds {s r : List Char} {t : DataType} :
    Spells s t r → t.HasReadableKinds
  | .primitive _ _ => by simp [HasReadableKinds, kinds]
  | .array _ _ _ helement _ => helement.hasReadableKinds
  | .struct _ _ _ hfields _ => hasReadableKinds_struct.2 hfields.forall_hasReadableKinds
  | .unrecognized _ _ _ hkind => by
    refine List.forall_mem_singleton.2 ⟨fun h => hkind ?_, trimmed_ofList_trim _⟩
    rw [String.toList_ofList] at h
    exact mem_of_mem_trim h

theorem SpellsFields.forall_hasReadableKinds {s r : List Char}
    {fields : List (String × DataType)} :
    SpellsFields s fields r → ∀ f ∈ fields, f.2.HasReadableKinds
  | .last _ _ htype _ => List.forall_mem_singleton.2 htype.hasReadableKinds
  | .cons _ _ htype _ hrest =>
    List.forall_mem_cons.2 ⟨htype.hasReadableKinds, hrest.forall_hasReadableKinds⟩

end

theorem spellsWhole_chars (hwf : t.WellFormed) (hkinds : t.HasReadableKinds) :
    SpellsWhole t.chars t := by
  have hskip : skipBlank t.chars = t.chars ++ [] := by simpa using skipBlank_chars (s := []) t
  have hyields : Yields (readType t.chars) t [] :=
    (readsBack t hwf t.chars [] [] (by simp [EndsWord]) hskip).2 ⟨hkinds, rfl⟩
  exact ⟨[], spells_of_yields hyields, List.forall_mem_nil _⟩

/-- Whatever is read is well formed, has kinds free of `>` and of blanks at their ends, and is read
back from its own text. -/
theorem parse_text_of_parse (h : parse source = .ok t) :
    t.WellFormed ∧ (∀ kind ∈ t.kinds, '>' ∉ kind.toList ∧ trimmed kind = kind) ∧
      parse t.text = .ok t := by
  obtain ⟨r, hspells, -⟩ := ofChars_eq_ok_iff_spells.1 (parse_eq_ok_iff.1 h)
  have hwf := hspells.wellFormed
  have hkinds := hspells.hasReadableKinds
  refine ⟨hwf, hkinds, ?_⟩
  rw [parse_eq_ok_iff, text, String.toList_ofList, ofChars_eq_ok_iff_spells]
  exact spellsWhole_chars hwf hkinds

/-- Other spellings, letters of both cases, blanks and needless quotes. -/
theorem parse_text_of_parse_respelled :
    parse " Struct< \x60a\x60 :INT,\x60b\x60\x60 c\x60: Array<UNRECOGNIZED< GEO graphy > > > " =
        .ok (struct [("a", int64), ("b\x60 c", array (unrecognized "GEO graphy"))]) ∧
      parse "struct<a: int64, \x60b\x60\x60 c\x60: array<unrecognized<GEO graphy>>>" =
        .ok (struct [("a", int64), ("b\x60 c", array (unrecognized "GEO graphy"))]) := by
  have h : parse
      " Struct< \x60a\x60 :INT,\x60b\x60\x60 c\x60: Array<UNRECOGNIZED< GEO graphy > > > " =
        .ok (struct [("a", int64), ("b\x60 c", array (unrecognized "GEO graphy"))]) := by cbv
  have htext : (struct [("a", int64), ("b\x60 c", array (unrecognized "GEO graphy"))]).text =
      "struct<a: int64, \x60b\x60\x60 c\x60: array<unrecognized<GEO graphy>>>" := by cbv
  obtain ⟨-, -, hparse⟩ := parse_text_of_parse h
  rw [htext] at hparse
  exact ⟨h, hparse⟩

end WarehouseAdapter.DataType
