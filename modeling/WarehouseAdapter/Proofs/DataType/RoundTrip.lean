import WarehouseAdapter.Error
import WarehouseAdapter.Proofs.DataType.Reading
import WarehouseAdapter.Proofs.Texts

/-!
# Reading back the text of a type

Behind blanks, the text of a type is read back as that type exactly when each of its unrecognized
kinds is free of `>` and of blanks at its ends; nothing more is used up than the text. So a type is
read back from its text exactly when its kinds are of that form.
-/

namespace WarehouseAdapter.DataType

mutual

/-- The unrecognized kinds that occur anywhere in a type. -/
def kinds : DataType → List String
  | primitive _ => []
  | array element => kinds element
  | struct fields => fieldsKinds fields
  | unrecognized kind => [kind]

def fieldsKinds : List (String × DataType) → List String
  | [] => []
  | (_, t) :: rest => kinds t ++ fieldsKinds rest

end

theorem mem_fieldsKinds {fields : List (String × DataType)} {kind : String} :
    kind ∈ fieldsKinds fields ↔ ∃ f ∈ fields, kind ∈ f.2.kinds := by
  induction fields with
  | nil => simp [fieldsKinds]
  | cons f rest ih => simp [fieldsKinds, ih]

/-- Every unrecognized kind is free of `>` and of blanks at its ends. -/
def HasReadableKinds (t : DataType) : Prop :=
  ∀ kind ∈ t.kinds, '>' ∉ kind.toList ∧ trimmed kind = kind

theorem hasReadableKinds_struct {fields : List (String × DataType)} :
    (struct fields).HasReadableKinds ↔ ∀ f ∈ fields, f.2.HasReadableKinds := by
  unfold HasReadableKinds
  simp only [kinds, mem_fieldsKinds]
  constructor
  · exact fun h f hf kind hk => h kind ⟨f, hf, hk⟩
  · rintro h kind ⟨f, hf, hk⟩
    exact h f hf kind hk

variable {s s' r rest : List Char}

theorem not_isBlank_of_isNameChar {c : Char} (h : isNameChar c = true) : isBlank c = false := by
  have hn : 48 ≤ c.toNat ∧ c.toNat ≤ 122 := by
    simp only [isNameChar, Char.isAlphanum, Char.isAlpha, Char.isUpper, Char.isLower, Char.isDigit,
      Bool.or_eq_true, beq_iff_eq, decide_eq_true_eq, Bool.and_eq_true, ge_iff_le,
      UInt32.le_iff_toNat_le, Char.reduceVal, UInt32.reduceToNat, Char.toNat_val] at h
    rcases h with h | rfl
    · omega
    · decide
  simp only [isBlank, inRanges, blankRanges, List.any_cons, List.any_nil, Bool.or_false,
    Bool.or_eq_false_iff, Bool.and_eq_false_iff, decide_eq_false_iff_not]
  omega

/-- No word goes on into `s`. -/
def EndsWord (s : List Char) : Prop := ∀ c r, s = c :: r → isNameChar c = false

theorem endsWord_cons {c : Char} (h : isNameChar c = false) : EndsWord (c :: s) := by
  rintro d r ⟨⟩
  exact h

theorem yields_readWord_append {w : List Char} (hw : isPlainName w = true) (hr : EndsWord rest)
    (hs : skipBlank s = w ++ rest) : Yields (readWord s) w r ↔ r = rest := by
  simp only [isPlainName, Bool.and_eq_true, Bool.not_eq_true', List.isEmpty_eq_false_iff,
    List.all_eq_true] at hw
  obtain ⟨hne, hall⟩ := hw
  have ht : rest.takeWhile isNameChar = [] ∧ rest.dropWhile isNameChar = rest := by
    cases rest with
    | nil => exact ⟨rfl, rfl⟩
    | cons c q => simp [hr c q rfl]
  rw [yields_readWord, hs, List.takeWhile_append_of_pos hall, List.dropWhile_append_of_pos hall,
    ht.1, ht.2, List.append_nil]
  constructor
  · exact fun h => h.2.2.symm
  · exact fun h => ⟨hne, rfl, h.symm⟩

theorem readTicked_flatMap_doubleTick (name : List Char) {c : Char} (hc : c ≠ '\x60') :
    readTicked (name.flatMap doubleTick ++ '\x60' :: c :: r) = some (name, c :: r) := by
  induction name with
  | nil => simp [readTicked, hc]
  | cons d name ih =>
    by_cases hd : d = '\x60'
    · simp [doubleTick, hd, readTicked, ih]
    · simp [doubleTick, hd, readTicked, ih]

theorem yields_readFieldName_nameChars {name : List Char}
    (hs : skipBlank s = nameChars name ++ ':' :: r) :
    Yields (readFieldName s) name (':' :: r) := by
  unfold nameChars at hs
  by_cases hp : isPlainName name = true
  · rw [if_pos hp] at hs
    have ht : ∀ q, skipBlank s ≠ '\x60' :: q := by
      intro q hq
      cases name with
      | nil => simp [isPlainName] at hp
      | cons c name =>
        obtain rfl : c = '\x60' := (List.cons.inj (hs.symm.trans hq)).1
        simp [isPlainName, show isNameChar '\x60' = false from rfl] at hp
    rw [yields_readFieldName_of_word ht, yields_readWord_append hp (endsWord_cons rfl) hs]
  · rw [if_neg hp] at hs
    have hs' : skipBlank s = '\x60' :: (name.flatMap doubleTick ++ '\x60' :: ':' :: r) := by
      rw [hs]
      simp
    exact (yields_readFieldName_of_ticked hs').2 (readTicked_flatMap_doubleTick name (by decide))

theorem yields_readType_append {t : DataType} {w : List Char} (hw : isPlainName w = true)
    (hr : EndsWord rest) (hs : skipBlank s = w ++ rest) :
    Yields (readType s) t r ↔ Completes w rest t r := by
  rw [yields_readType]
  constructor
  · rintro ⟨w', q, h, hc⟩
    obtain ⟨rfl, rfl⟩ := ((yields_readWord_append hw hr hs).2 rfl).unique h
    exact hc
  · exact fun hc => ⟨w, rest, (yields_readWord_append hw hr hs).2 rfl, hc⟩

theorem lowerAscii_name (p : Primitive) : lowerAscii (String.ofList p.name.toList) = p.name := by
  cases p <;> rfl

theorem ofName?_name (p : Primitive) : Primitive.ofName? p.name = some p := by
  cases p <;> rfl

theorem yields_readType_primitive {p : Primitive} (hr : EndsWord rest)
    (hs : skipBlank s = (primitive p).chars ++ rest) :
    Yields (readType s) (primitive p) r ↔ r = rest := by
  have hw : isPlainName p.name.toList = true := by cases p <;> rfl
  have hne : p.name ≠ "array" ∧ p.name ≠ "struct" ∧ p.name ≠ "unrecognized" := by
    cases p <;> decide
  rw [chars] at hs
  rw [yields_readType_append hw hr hs, Completes, lowerAscii_name, if_neg hne.1, if_neg hne.2.1,
    if_neg hne.2.2, ofName?_name, Option.map_some]
  exact (and_iff_right rfl).trans eq_comm

theorem yields_readType_bracketed {t : DataType} {keyword : String} {inside : List Char}
    (hw : isPlainName keyword.toList = true)
    (hs : skipBlank s = bracketed keyword inside ++ rest) :
    Yields (readType s) t r ↔
      Completes keyword.toList ('<' :: (inside ++ '>' :: rest)) t r := by
  apply yields_readType_append hw (endsWord_cons (by decide))
  rw [hs, bracketed]
  simp

theorem skipBlank_angle : skipBlank ('<' :: s) = '<' :: s := skipBlank_cons (by decide) _

theorem completes_array {t : DataType} :
    Completes "array".toList ('<' :: s) t r ↔ ∃ element q, Yields (readType s) element q ∧
      ∃ q', skipBlank q = '>' :: q' ∧ array element = t ∧ q' = r := by
  rw [Completes, if_pos (by decide), skipBlank_angle]
  simp only [List.cons.injEq, true_and, exists_eq_left']

theorem completes_struct {t : DataType} :
    Completes "struct".toList ('<' :: s) t r ↔ ∃ fields q, Yields (readFields s) fields q ∧
      (fields.map Prod.fst).Nodup ∧ struct fields = t ∧ q = r := by
  rw [Completes, if_neg (by decide), if_pos (by decide), skipBlank_angle]
  simp only [List.cons.injEq, true_and, exists_eq_left']

theorem completes_unrecognized {t : DataType} :
    Completes "unrecognized".toList ('<' :: s) t r ↔ ∃ kind q, Yields (readKind s) kind q ∧
      unrecognized (String.ofList (trim kind)) = t ∧ q = r := by
  rw [Completes, if_neg (by decide), if_neg (by decide), if_pos (by decide), skipBlank_angle]
  simp only [List.cons.injEq, true_and, exists_eq_left']

/-- A kind comes back from its text exactly when nothing is cut off it. -/
theorem readKind_reads_back {kind : String} :
    (∃ cs q, Yields (readKind (kind.toList ++ '>' :: rest)) cs q ∧
      unrecognized (String.ofList (trim cs)) = unrecognized kind ∧ q = r) ↔
      ('>' ∉ kind.toList ∧ trimmed kind = kind) ∧ r = rest := by
  simp only [yields_readKind, unrecognized.injEq]
  constructor
  · rintro ⟨cs, q, ⟨rfl, c, hc⟩, hk, rfl⟩
    have hg : '>' ∉ kind.toList := by
      intro h
      rw [← hk, String.toList_ofList] at h
      have := List.all_eq_true.1 List.all_takeWhile _ (mem_of_mem_trim h)
      exact absurd this (by decide)
    obtain ⟨ht, hd⟩ := takeWhile_dropWhile_ne hg rest
    rw [ht] at hk
    exact ⟨⟨hg, hk⟩, (List.cons.inj (hc.symm.trans hd)).2⟩
  · rintro ⟨⟨hg, hk⟩, rfl⟩
    obtain ⟨ht, hd⟩ := takeWhile_dropWhile_ne hg r
    exact ⟨kind.toList, r, ⟨ht, '>', hd⟩, hk, rfl⟩

theorem skipBlank_nameChars (name : List Char) :
    skipBlank (nameChars name ++ s) = nameChars name ++ s := by
  unfold nameChars
  cases name with
  | nil => exact skipBlank_cons (by decide) _
  | cons c name =>
    split
    · rename_i h
      simp only [isPlainName, List.all_cons, Bool.and_eq_true] at h
      exact skipBlank_cons (not_isBlank_of_isNameChar h.2.1) _
    · exact skipBlank_cons (by decide) _

theorem skipBlank_chars (t : DataType) : skipBlank (t.chars ++ s) = t.chars ++ s := by
  cases t with
  | primitive p => cases p <;> exact skipBlank_cons (by decide) _
  | array element => exact skipBlank_cons (by decide) _
  | struct fields => exact skipBlank_cons (by decide) _
  | unrecognized kind => exact skipBlank_cons (by decide) _

theorem skipBlank_fieldsChars (fields : List (String × DataType)) :
    skipBlank (fieldsChars fields ++ '>' :: s) = fieldsChars fields ++ '>' :: s := by
  cases fields with
  | nil => exact skipBlank_cons (by decide) _
  | cons f rest =>
    rw [fieldsChars]
    simp only [List.append_assoc]
    exact skipBlank_nameChars f.1.toList

/-- What `t.chars` is read as, with more text behind it. -/
def ReadsBack (t : DataType) : Prop :=
  ∀ s rest r, EndsWord rest → skipBlank s = t.chars ++ rest →
    (Yields (readType s) t r ↔ t.HasReadableKinds ∧ r = rest)

theorem yields_readFields_cons {name : String} {t : DataType} {fields : List (String × DataType)}
    (hn : Yields (readFieldName s) name.toList (':' :: s')) :
    Yields (readFields s) ((name, t) :: fields) r ↔ ∃ q, Yields (readType s') t q ∧
      ((∃ q', skipBlank q = ',' :: q' ∧ Yields (readFields q') fields r) ∨
      (∃ q', skipBlank q = '>' :: q' ∧ fields = [] ∧ q' = r)) := by
  have hc : skipBlank (':' :: s') = ':' :: s' := skipBlank_cons (by decide) _
  rw [yields_readFields]
  constructor
  · rintro ⟨n, q₁, hq₁, q₂, hq₂, u, q, hq, h⟩
    obtain ⟨rfl, rfl⟩ := hn.unique hq₁
    obtain rfl := (List.cons.inj (hc.symm.trans hq₂)).2
    rcases h with ⟨q', hq', rest, q₅, hr, he, rfl⟩ | ⟨q', hq', he, rfl⟩
    · obtain ⟨hf, rfl⟩ := List.cons.inj he
      obtain ⟨-, rfl⟩ := Prod.mk.inj hf
      exact ⟨q, hq, .inl ⟨q', hq', hr⟩⟩
    · obtain ⟨hf, rfl⟩ := List.cons.inj he
      obtain ⟨-, rfl⟩ := Prod.mk.inj hf
      exact ⟨q, hq, .inr ⟨q', hq', rfl, rfl⟩⟩
  · rintro ⟨q, hq, h⟩
    refine ⟨name.toList, _, hn, s', hc, t, q, hq, ?_⟩
    rw [String.ofList_toList]
    rcases h with ⟨q', hq', hr⟩ | ⟨q', hq', rfl, rfl⟩
    · exact .inl ⟨q', hq', fields, r, hr, rfl, rfl⟩
    · exact .inr ⟨q', hq', rfl, rfl⟩

/-- The text behind a field, when `fields` and then `rest` follow. -/
def behindField (fields : List (String × DataType)) (rest : List Char) : List Char :=
  if fields.isEmpty then '>' :: rest else ',' :: ' ' :: (fieldsChars fields ++ '>' :: rest)

theorem endsWord_behindField (fields : List (String × DataType)) :
    EndsWord (behindField fields rest) := by
  unfold behindField
  split
  · exact endsWord_cons (by decide)
  · exact endsWord_cons (by decide)

theorem readFields_reads_back {fields : List (String × DataType)} (hne : fields ≠ [])
    (hf : ∀ f ∈ fields, f.2.ReadsBack) (hs : skipBlank s = fieldsChars fields ++ '>' :: rest) :
    Yields (readFields s) fields r ↔ (∀ f ∈ fields, f.2.HasReadableKinds) ∧ r = rest := by
  induction fields generalizing s with
  | nil => exact absurd rfl hne
  | cons f fields ih =>
    obtain ⟨name, t⟩ := f
    obtain ⟨ht, hfields⟩ := List.forall_mem_cons.1 hf
    have hs' : skipBlank s =
        nameChars name.toList ++ ':' :: ' ' :: (t.chars ++ behindField fields rest) := by
      rw [hs, fieldsChars, behindField]
      split <;> simp
    have hread := fun q => ht (' ' :: (t.chars ++ behindField fields rest)) _ q
      (endsWord_behindField fields) (skipBlank_chars t)
    rw [yields_readFields_cons (yields_readFieldName_nameChars hs'), List.forall_mem_cons]
    simp only [hread, and_assoc, exists_and_left, exists_eq_left]
    apply and_congr_right
    intro hk
    cases fields with
    | nil =>
      have hg : skipBlank (behindField [] rest) = '>' :: rest := skipBlank_cons (by decide) _
      simp [hg, eq_comm]
    | cons g fields =>
      have hg : skipBlank (behindField (g :: fields) rest) =
        ',' :: ' ' :: (fieldsChars (g :: fields) ++ '>' :: rest) := skipBlank_cons (by decide) _
      have hrest := ih (s := ' ' :: (fieldsChars (g :: fields) ++ '>' :: rest)) (by simp) hfields
        (skipBlank_fieldsChars (g :: fields))
      rw [hg, ← hrest]
      simp

theorem readsBack (t : DataType) (hwf : t.WellFormed) : t.ReadsBack := by
  intro s rest r hr hs
  induction t generalizing s rest r with
  | primitive p =>
    rw [yields_readType_primitive hr hs]
    simp [HasReadableKinds, kinds]
  | array element ih =>
    rw [chars] at hs
    rw [yields_readType_bracketed (by decide) hs, completes_array]
    have hg : skipBlank ('>' :: rest) = '>' :: rest := skipBlank_cons (by decide) _
    have helement := fun q => ih hwf (element.chars ++ '>' :: rest) _ q (endsWord_cons (by decide))
      (skipBlank_chars element)
    constructor
    · rintro ⟨u, q, hq, q', hq', hu, rfl⟩
      cases hu
      obtain ⟨hk, rfl⟩ := (helement q).1 hq
      exact ⟨hk, (List.cons.inj (hq'.symm.trans hg)).2⟩
    · rintro ⟨hk, rfl⟩
      exact ⟨element, _, (helement _).2 ⟨hk, rfl⟩, r, hg, rfl, rfl⟩
  | struct fields ih =>
    obtain ⟨hne, hnodup, hfields⟩ := hwf
    rw [wellFormedFields_iff] at hfields
    rw [chars] at hs
    rw [yields_readType_bracketed (by decide) hs, completes_struct, hasReadableKinds_struct]
    have hread := fun q => readFields_reads_back (r := q) hne
      (fun f hf => ih f hf (hfields f hf)) (skipBlank_fieldsChars (s := rest) fields)
    constructor
    · rintro ⟨fs, q, hq, -, hfs, rfl⟩
      cases hfs
      exact (hread q).1 hq
    · exact fun h => ⟨fields, r, (hread r).2 h, hnodup, rfl, rfl⟩
  | unrecognized kind =>
    rw [chars] at hs
    rw [yields_readType_bracketed (by decide) hs, completes_unrecognized, readKind_reads_back]
    simp [HasReadableKinds, kinds]

theorem ofChars_eq_ok_iff {t : DataType} :
    ofChars s = .ok t ↔ ∃ r, Yields (readType s) t r ∧ skipBlank r = [] := by
  unfold ofChars
  rw [bind_eq_ok_iff]
  constructor
  · rintro ⟨⟨u, q⟩, hq, h⟩
    dsimp only at h
    split at h
    · rename_i hb
      cases h
      exact ⟨q.val, ⟨q, hq, rfl⟩, hb⟩
    · cases h
  · rintro ⟨r, ⟨q, hq, rfl⟩, hb⟩
    refine ⟨(t, q), hq, ?_⟩
    dsimp only
    rw [hb]
    rfl

theorem parse_eq_ok_iff {source : String} {t : DataType} :
    parse source = .ok t ↔ ofChars source.toList = .ok t := by
  unfold parse
  split <;> simp_all

theorem parse_text_eq_ok_iff (t : DataType) (h : t.WellFormed) :
    parse t.text = .ok t ↔ ∀ kind ∈ t.kinds, '>' ∉ kind.toList ∧ trimmed kind = kind := by
  have hs : skipBlank t.chars = t.chars ++ [] := by
    simpa using skipBlank_chars (s := []) t
  have hread := fun r => readsBack t h t.chars [] r (by simp [EndsWord]) hs
  rw [parse_eq_ok_iff, text, String.toList_ofList, ofChars_eq_ok_iff]
  constructor
  · rintro ⟨r, hr, -⟩
    exact ((hread r).1 hr).1
  · exact fun hk => ⟨[], (hread []).2 ⟨hk, rfl⟩, rfl⟩

theorem parse_text_ticked_names :
    (struct [("a\x60b", array (unrecognized "GEO GRAPHY")), ("größe: >", int64)]).WellFormed ∧
      parse (struct [("a\x60b", array (unrecognized "GEO GRAPHY")), ("größe: >", int64)]).text =
        .ok (struct [("a\x60b", array (unrecognized "GEO GRAPHY")), ("größe: >", int64)]) := by
  have h :
      (struct [("a\x60b", array (unrecognized "GEO GRAPHY")), ("größe: >", int64)]).WellFormed :=
    ⟨by simp, by decide, trivial, trivial, trivial⟩
  refine ⟨h, (parse_text_eq_ok_iff _ h).2 ?_⟩
  simp only [kinds, fieldsKinds, List.append_nil, List.forall_mem_singleton]
  decide

end WarehouseAdapter.DataType
