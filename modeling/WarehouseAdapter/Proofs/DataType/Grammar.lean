import WarehouseAdapter.Proofs.DataType.RoundTrip

/-!
# The grammar of type texts

`Spells s t r` says that `s` begins with a spelling of the type `t` and goes on with `r`. A spelling
begins with a word, behind blanks: a maximal run of ASCII letters, digits and underscores, which
counts in small letters. `array`, `struct` and `unrecognized` ask for what they hold in angle
brackets; any other word is a name of a primitive. Blanks may stand before every word, name and
mark, but not inside a quoted name, and a kind is whatever stands before the next `>`.

The reader of types accepts just the spellings: it gives a type for a text exactly when the text
spells that type and goes on with blanks only.
-/

namespace WarehouseAdapter

/-- The canonical name of a primitive or another spelling of it. -/
def Primitive.IsName (p : Primitive) (word : String) : Prop := word = p.name ∨ word ∈ p.aliases

namespace DataType

/-- `s` has `c` behind blanks and goes on with `r`. -/
def Mark (c : Char) (s r : List Char) : Prop :=
  ∃ blanks, (∀ b ∈ blanks, isBlank b = true) ∧ s = blanks ++ c :: r

/-- `s` has behind blanks the maximal run `w` of name characters and goes on with `r`. -/
def Word (s w r : List Char) : Prop :=
  ∃ blanks, (∀ b ∈ blanks, isBlank b = true) ∧ s = blanks ++ (w ++ r) ∧
    w ≠ [] ∧ (∀ c ∈ w, isNameChar c = true) ∧ EndsWord r

/-- `s` has a field name behind blanks: a word, or a text in backticks with its own backticks
doubled. -/
inductive FieldName (s name r : List Char) : Prop
  | word (h : Word s name r)
  | ticked (h : Mark '\x60' s (name.flatMap doubleTick ++ '\x60' :: r))

abbrev lowered (w : List Char) : String := lowerAscii (String.ofList w)

mutual

inductive Spells : List Char → DataType → List Char → Prop
  | primitive {s w r p} (hw : Word s w r) (hp : p.IsName (lowered w)) : Spells s (primitive p) r
  | array {s w r element q₁ q₂ q₃} (hw : Word s w q₁) (hkeyword : lowered w = "array")
      (hopen : Mark '<' q₁ q₂) (helement : Spells q₂ element q₃) (hclose : Mark '>' q₃ r) :
      Spells s (array element) r
  | struct {s w r fields q₁ q₂} (hw : Word s w q₁) (hkeyword : lowered w = "struct")
      (hopen : Mark '<' q₁ q₂) (hfields : SpellsFields q₂ fields r)
      (hnodup : (fields.map Prod.fst).Nodup) : Spells s (struct fields) r
  | unrecognized {s w r kind q} (hw : Word s w q) (hkeyword : lowered w = "unrecognized")
      (hopen : Mark '<' q (kind ++ '>' :: r)) (hkind : '>' ∉ kind) :
      Spells s (unrecognized (String.ofList (trim kind))) r

/-- One field or more with commas between them, and the closing bracket. -/
inductive SpellsFields : List Char → List (String × DataType) → List Char → Prop
  | last {s name r t q₁ q₂ q₃} (hname : FieldName s name q₁) (hcolon : Mark ':' q₁ q₂)
      (htype : Spells q₂ t q₃) (hclose : Mark '>' q₃ r) :
      SpellsFields s [(String.ofList name, t)] r
  | cons {s name r t rest q₁ q₂ q₃ q₄} (hname : FieldName s name q₁) (hcolon : Mark ':' q₁ q₂)
      (htype : Spells q₂ t q₃) (hcomma : Mark ',' q₃ q₄) (hrest : SpellsFields q₄ rest r) :
      SpellsFields s ((String.ofList name, t) :: rest) r

end

/-- The whole of `s` is a spelling of `t` and blanks behind it. -/
def SpellsWhole (s : List Char) (t : DataType) : Prop :=
  ∃ r, Spells s t r ∧ ∀ c ∈ r, isBlank c = true

variable {α : Type} {s s' w r q name : List Char} {c : Char} {t : DataType}
  {fields : List (String × DataType)}

theorem Yields.length_lt {x : Except Failure (α × Shorter s)} {a : α} (h : Yields x a r) :
    r.length < s.length := by
  obtain ⟨p, -, rfl⟩ := h
  exact p.property

theorem mark_iff (hc : isBlank c = false) : Mark c s r ↔ skipBlank s = c :: r := by
  constructor
  · rintro ⟨blanks, hblanks, rfl⟩
    rw [skipBlank_append hblanks, skipBlank_cons hc]
  · intro h
    obtain ⟨blanks, hblanks, hs⟩ := exists_blanks_append_skipBlank s
    exact ⟨blanks, hblanks, h ▸ hs⟩

theorem Mark.length_lt (h : Mark c s r) : r.length < s.length := by
  obtain ⟨blanks, -, rfl⟩ := h
  simp only [List.length_append, List.length_cons]
  omega

theorem Word.skipBlank_eq (h : Word s w r) : skipBlank s = w ++ r := by
  obtain ⟨blanks, hblanks, rfl, hne, hall, -⟩ := h
  rw [skipBlank_append hblanks]
  cases w with
  | nil => exact absurd rfl hne
  | cons c w => exact skipBlank_cons (not_isBlank_of_isNameChar (hall c (by simp))) _

theorem yields_readWord_iff : Yields (readWord s) w r ↔ Word s w r := by
  constructor
  · intro h
    obtain ⟨hne, rfl, rfl⟩ := yields_readWord.1 h
    obtain ⟨blanks, hblanks, hs⟩ := exists_blanks_append_skipBlank s
    refine ⟨blanks, hblanks, ?_, hne, fun c hc => ?_, fun c q hq => ?_⟩
    · rw [List.takeWhile_append_dropWhile, ← hs]
    · exact List.all_eq_true.1 List.all_takeWhile c hc
    · have hhead := List.head?_dropWhile_not isNameChar (skipBlank s)
      rw [hq] at hhead
      exact hhead
  · intro h
    have hskip := h.skipBlank_eq
    obtain ⟨-, -, -, hne, hall, hends⟩ := h
    have hplain : isPlainName w = true := by simpa [isPlainName, hne] using hall
    exact (yields_readWord_append hplain hends hskip).2 rfl

theorem eq_of_readTicked (h : readTicked s = some (name, r)) :
    s = name.flatMap doubleTick ++ '\x60' :: r := by
  fun_induction readTicked s generalizing name with
  | case1 => cases h
  | case2 s ih =>
    obtain ⟨⟨n, q⟩, hn, he⟩ := Option.map_eq_some_iff.1 h
    obtain ⟨rfl, rfl⟩ := Prod.mk.inj he
    rw [ih hn]
    simp [doubleTick]
  | case3 s =>
    obtain ⟨rfl, rfl⟩ := Prod.mk.inj (Option.some.inj h)
    rfl
  | case4 c s _ hc ih =>
    obtain ⟨⟨n, q⟩, hn, he⟩ := Option.map_eq_some_iff.1 h
    obtain ⟨rfl, rfl⟩ := Prod.mk.inj he
    have hsingle : doubleTick c = [c] := if_neg hc
    rw [ih hn, List.flatMap_cons, hsingle]
    rfl

theorem fieldName_of_yields (h : Yields (readFieldName s) name r) : FieldName s name r := by
  by_cases htick : ∃ q, skipBlank s = '\x60' :: q
  · obtain ⟨q, hq⟩ := htick
    have hread := (yields_readFieldName_of_ticked hq).1 h
    exact .ticked ((mark_iff rfl).2 (eq_of_readTicked hread ▸ hq))
  · exact .word (yields_readWord_iff.1 ((yields_readFieldName_of_word (not_exists.1 htick)).1 h))

/-- What ends a quoted name is not read as a doubled backtick, since a colon follows. -/
theorem FieldName.yields (h : FieldName s name r) (hcolon : Mark ':' r q) :
    Yields (readFieldName s) name r := by
  cases h with
  | word hw =>
    refine (yields_readFieldName_of_word fun q hq => ?_).2 (yields_readWord_iff.2 hw)
    rw [hw.skipBlank_eq] at hq
    obtain ⟨-, -, -, hne, hall, -⟩ := hw
    cases name with
    | nil => exact absurd rfl hne
    | cons c name =>
      obtain rfl : c = '\x60' := (List.cons.inj hq).1
      exact absurd (hall '\x60' (by simp)) (by decide)
  | ticked hm =>
    obtain ⟨c, r', rfl, hc⟩ : ∃ c r', r = c :: r' ∧ c ≠ '\x60' := by
      obtain ⟨blanks, hblanks, rfl⟩ := hcolon
      cases blanks with
      | nil => exact ⟨':', q, rfl, by decide⟩
      | cons b blanks =>
        refine ⟨b, _, rfl, ?_⟩
        rintro rfl
        exact absurd (hblanks '\x60' (by simp)) (by decide)
    exact (yields_readFieldName_of_ticked ((mark_iff rfl).1 hm)).2
      (readTicked_flatMap_doubleTick name hc)

theorem yields_readKind_iff {kind : List Char} :
    Yields (readKind s) kind r ↔ s = kind ++ '>' :: r ∧ '>' ∉ kind := by
  rw [yields_readKind]
  constructor
  · rintro ⟨rfl, c, hc⟩
    exact eq_of_dropWhile_ne hc
  · rintro ⟨rfl, hkind⟩
    obtain ⟨ht, hd⟩ := takeWhile_dropWhile_ne hkind r
    exact ⟨ht, '>', hd⟩

theorem ofName?_lowerAscii_eq_some_iff {p : Primitive} {word : String} :
    Primitive.ofName? (lowerAscii word) = some p ↔ p.IsName (lowerAscii word) := by
  constructor
  · intro h
    have hp := List.find?_some h
    rw [lowerAscii_lowerAscii, Bool.or_eq_true, beq_iff_eq, List.contains_iff_mem] at hp
    exact hp.imp_left Eq.symm
  · have hall : ∀ p ∈ Primitive.all, ∀ word ∈ p.name :: p.aliases,
        Primitive.ofName? word = some p := by decide +kernel
    intro h
    exact hall p (by cases p <;> decide) _ (List.mem_cons.2 h)

theorem not_keyword_of_isName {p : Primitive} {word : String} (h : p.IsName word) :
    word ≠ "array" ∧ word ≠ "struct" ∧ word ≠ "unrecognized" := by
  have hall : ∀ p ∈ Primitive.all, ∀ word ∈ p.name :: p.aliases,
      word ≠ "array" ∧ word ≠ "struct" ∧ word ≠ "unrecognized" := by decide +kernel
  exact hall p (by cases p <;> decide) word (List.mem_cons.2 h)

-- Along the reader, every word and mark leaves fewer characters.
mutual

theorem spells_of_yields {s r : List Char} {t : DataType} (h : Yields (readType s) t r) :
    Spells s t r := by
  obtain ⟨w, q, hread, hrest⟩ := yields_readType.1 h
  have hw := yields_readWord_iff.1 hread
  have hlength := hread.length_lt
  unfold Completes at hrest
  split_ifs at hrest with harray hstruct hunrecognized
  · obtain ⟨q₁, hq₁, element, q₂, helement, q₃, hq₃, rfl, rfl⟩ := hrest
    have hopen : Mark '<' q q₁ := (mark_iff rfl).2 hq₁
    have := hopen.length_lt
    exact .array hw harray hopen (spells_of_yields helement) ((mark_iff rfl).2 hq₃)
  · obtain ⟨q₁, hq₁, fields, q₂, hfields, hnodup, rfl, rfl⟩ := hrest
    have hopen : Mark '<' q q₁ := (mark_iff rfl).2 hq₁
    have := hopen.length_lt
    exact .struct hw hstruct hopen (spellsFields_of_yields hfields) hnodup
  · obtain ⟨q₁, hq₁, kind, q₂, hread, rfl, rfl⟩ := hrest
    obtain ⟨rfl, hkind⟩ := yields_readKind_iff.1 hread
    exact .unrecognized hw hunrecognized ((mark_iff rfl).2 hq₁) hkind
  · obtain ⟨hname, rfl⟩ := hrest
    obtain ⟨p, hp, rfl⟩ := Option.map_eq_some_iff.1 hname
    exact .primitive hw (ofName?_lowerAscii_eq_some_iff.1 hp)
termination_by s.length
decreasing_by all_goals omega

theorem spellsFields_of_yields {s r : List Char} {fields : List (String × DataType)}
    (h : Yields (readFields s) fields r) : SpellsFields s fields r := by
  obtain ⟨name, q₁, hread, q₂, hq₂, t, q₃, ht, hrest⟩ := yields_readFields.1 h
  have hname := fieldName_of_yields hread
  have hcolon : Mark ':' q₁ q₂ := (mark_iff rfl).2 hq₂
  have h₁ := hread.length_lt
  have h₂ := hcolon.length_lt
  have h₃ := ht.length_lt
  rcases hrest with ⟨q₄, hq₄, rest, q₅, hrest, rfl, rfl⟩ | ⟨q₄, hq₄, rfl, rfl⟩
  · have hcomma : Mark ',' q₃ q₄ := (mark_iff rfl).2 hq₄
    have h₄ := hcomma.length_lt
    exact .cons hname hcolon (spells_of_yields ht) hcomma (spellsFields_of_yields hrest)
  · exact .last hname hcolon (spells_of_yields ht) ((mark_iff rfl).2 hq₄)
termination_by s.length
decreasing_by all_goals omega

end

-- Along the derivation: what stands behind a word settles which branch the reader takes.
mutual

theorem Spells.yields {s r : List Char} {t : DataType} :
    Spells s t r → Yields (readType s) t r
  | .primitive (w := w) (p := p) hw hp => by
    obtain ⟨h₁, h₂, h₃⟩ := not_keyword_of_isName hp
    refine yields_readType.2 ⟨w, r, yields_readWord_iff.2 hw, ?_⟩
    rw [Completes, if_neg h₁, if_neg h₂, if_neg h₃, ofName?_lowerAscii_eq_some_iff.2 hp]
    exact ⟨rfl, rfl⟩
  | .array hw hkeyword hopen helement hclose => by
    refine yields_readType.2 ⟨_, _, yields_readWord_iff.2 hw, ?_⟩
    rw [Completes, if_pos hkeyword]
    exact ⟨_, (mark_iff rfl).1 hopen, _, _, helement.yields, r,
      (mark_iff rfl).1 hclose, rfl, rfl⟩
  | .struct hw hkeyword hopen hfields hnodup => by
    have hne : "struct" ≠ "array" := by decide
    refine yields_readType.2 ⟨_, _, yields_readWord_iff.2 hw, ?_⟩
    rw [Completes, if_neg (hkeyword.trans_ne hne), if_pos hkeyword]
    exact ⟨_, (mark_iff rfl).1 hopen, _, r, hfields.yields, hnodup, rfl, rfl⟩
  | .unrecognized hw hkeyword hopen hkind => by
    have hne : "unrecognized" ≠ "array" ∧ "unrecognized" ≠ "struct" := by decide
    refine yields_readType.2 ⟨_, _, yields_readWord_iff.2 hw, ?_⟩
    rw [Completes, if_neg (hkeyword.trans_ne hne.1), if_neg (hkeyword.trans_ne hne.2),
      if_pos hkeyword]
    exact ⟨_, (mark_iff rfl).1 hopen, _, r, yields_readKind_iff.2 ⟨rfl, hkind⟩, rfl, rfl⟩

theorem SpellsFields.yields {s r : List Char} {fields : List (String × DataType)} :
    SpellsFields s fields r → Yields (readFields s) fields r
  | .last hname hcolon htype hclose =>
    yields_readFields.2 ⟨_, _, hname.yields hcolon, _, (mark_iff rfl).1 hcolon,
      _, _, htype.yields, .inr ⟨r, (mark_iff rfl).1 hclose, rfl, rfl⟩⟩
  | .cons hname hcolon htype hcomma hrest =>
    yields_readFields.2 ⟨_, _, hname.yields hcolon, _, (mark_iff rfl).1 hcolon,
      _, _, htype.yields, .inl ⟨_, (mark_iff rfl).1 hcomma, _, r, hrest.yields, rfl, rfl⟩⟩

end

theorem yields_readType_iff : Yields (readType s) t r ↔ Spells s t r :=
  ⟨spells_of_yields, Spells.yields⟩

/-- A text begins with a spelling of one type at most, and that spelling has one end. -/
theorem Spells.unique {t' : DataType} (h : Spells s t r) (h' : Spells s t' q) : t' = t ∧ q = r :=
  h.yields.unique h'.yields

theorem skipBlank_eq_nil_iff : skipBlank s = [] ↔ ∀ c ∈ s, isBlank c = true :=
  List.dropWhile_eq_nil_iff

theorem ofChars_eq_ok_iff_spells : ofChars s = .ok t ↔ SpellsWhole s t := by
  rw [ofChars_eq_ok_iff]
  simp only [yields_readType_iff, skipBlank_eq_nil_iff, SpellsWhole]

theorem parse_iff_spells (source : String) :
    (∀ t, parse source = .ok t ↔ SpellsWhole source.toList t) ∧
      ((∃ e, parse source = .error e) ↔ ∀ t, ¬ SpellsWhole source.toList t) := by
  have haccepts : ∀ t, parse source = .ok t ↔ SpellsWhole source.toList t :=
    fun _ => parse_eq_ok_iff.trans ofChars_eq_ok_iff_spells
  refine ⟨haccepts, ?_⟩
  simp only [← haccepts]
  cases parse source with
  | ok t => simp
  | error e => simp

example : parse " Struct< a :INT,\x60a b\x60: unrecognized< GEO > > " =
    .ok (struct [("a", int64), ("a b", unrecognized "GEO")]) := by cbv

end DataType

end WarehouseAdapter
