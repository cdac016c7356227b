import WarehouseAdapter.Proofs.Pattern.ClosedBodies
import WarehouseAdapter.Proofs.Pattern.Spans

/-!
# A pattern between an anchor and a parenthesis

A pattern that a text spells by itself, put into a group behind an anchor, occurs in a name where
the pattern matches a beginning of the name. The text of the group need not be read as it is by
itself, though: it may close the group, or take the parenthesis behind it away.
-/

namespace WarehouseAdapter.Pattern

variable {s r text : List Char} {o o' m : Outlook} {w : List Char}

/-- A pattern behind an anchor, in a group of its own. -/
def Nested.anchored (p : Nested Pattern) : Nested Pattern :=
  ⟨concat [.anchor .textStart, p.value], p.depth + 2⟩

/-- Only the start of a text has no character before it. -/
theorem Between.eq_of_isNone (h : Between w o o') (hstart : o'.1.isNone = true) : o' = o := by
  induction h with
  | nil => rfl
  | cons h ih =>
    have ho := ih hstart
    rw [ho] at hstart
    cases hstart

theorem matches_anchored_iff (p : Nested Pattern) :
    p.anchored.value.Matches o o' ↔ o.1.isNone = true ∧ p.value.Matches o o' := by
  rw [Nested.anchored, matches_concat]
  constructor
  · rintro ⟨m, ⟨hstart, rfl⟩, hp⟩
    exact ⟨hstart, matchesAll_singleton.1 hp⟩
  · rintro ⟨hstart, hp⟩
    exact ⟨o, ⟨hstart, rfl⟩, matchesAll_singleton.2 hp⟩

/-- Behind an anchor a pattern begins a text or does not occur in it at all. -/
theorem occurs_anchored_iff (p : Nested Pattern) (text : List Char) :
    p.anchored.value.Occurs text ↔ p.value.Begins text := by
  constructor
  · rintro ⟨w, o, o', hw, h⟩
    obtain ⟨hstart, hp⟩ := (matches_anchored_iff p).1 h
    rw [hw.eq_of_isNone hstart] at hp
    exact ⟨o', hp⟩
  · rintro ⟨o, h⟩
    exact ⟨[], (none, text), o, .nil _, (matches_anchored_iff p).2 ⟨rfl, h⟩⟩

theorem begins_anchored_iff (p : Nested Pattern) (text : List Char) :
    p.anchored.value.Begins text ↔ p.value.Begins text :=
  exists_congr fun _ => (matches_anchored_iff p).trans (and_iff_right rfl)

/-- The text put into a group behind an anchor. -/
def enclosed (s : List Char) : List Char := '^' :: '(' :: '?' :: ':' :: (s ++ [')'])

/-- The body around the group. -/
def Draft.anchor : Draft := { items := [(⟨.anchor .textStart, 0⟩, true)] }

theorem readBody?_anchor (fuel : ℕ) (s : List Char) :
    readBody? (fuel + 2) {} ('^' :: '(' :: '?' :: ':' :: s) =
      (readBody? fuel {} s).bind fun a => followGroup? (readBody? fuel) .anchor false a.1 a.2 :=
  rfl

theorem branches_ofParts_anchor (a : Anchor) (ps : List Pattern) :
    (ofParts (anchor a :: ps)).branches = [ofParts (anchor a :: ps)] := by
  cases ps <;> rfl

theorem alternation_anchor (a : Anchor) (p : Pattern) :
    alternation [concat [anchor a, p]] = concat [anchor a, p] := by
  have hconcat : ∃ ps, concat [anchor a, p] = ofParts (anchor a :: ps) := ⟨_, rfl⟩
  obtain ⟨ps, hps⟩ := hconcat
  rw [alternation, hps, List.flatMap_cons, branches_ofParts_anchor]
  rfl

theorem result_close_anchor (inner : Draft) :
    (Draft.anchor.close inner false).result = inner.result.anchored := by
  have hvalue : (Draft.anchor.close inner false).result.value =
      alternation [concat [.anchor .textStart, inner.result.value]] := rfl
  have hdepth : (Draft.anchor.close inner false).result.depth = inner.result.depth + 2 := by
    change max (max 0 0) (inner.result.depth + 1) + 1 = _
    omega
  rw [Nested.anchored, ← alternation_anchor, ← hvalue, ← hdepth]

/-- What follows a group behind an anchor, from the parenthesis that closes the group. -/
def readBehind? (inner : Draft) (r : List Char) : Option (Draft × List Char) :=
  followGroup? (readBody? (r.length + 1)) .anchor false inner r

theorem read?_enclosed (s : List Char) :
    read? (enclosed s) = (read? (s ++ [')'])).bind fun a => readBehind? a.1 a.2 := by
  -- Two tokens stand before the text of the group.
  have hfuel : (enclosed s).length + 1 = s.length + 4 + 2 := by
    simp [enclosed]
  have hinner : readBody? (s.length + 4) {} (s ++ [')']) = read? (s ++ [')']) :=
    readBody?_congr (by simp) (by simp)
  rw [read?, hfuel, enclosed, readBody?_anchor, hinner]
  apply Option.bind_congr
  rintro ⟨inner, r⟩ hr
  have hlength : r.length ≤ (s ++ [')']).length := (suffix_of_readBody? hr).length_le
  rw [List.length_append, List.length_singleton] at hlength
  apply followGroup?_congr
  intro d t ht
  have ht : t.length ≤ r.length := ht
  exact readBody?_congr (by omega) (by omega)

theorem readBehind?_closing (inner : Draft) :
    readBehind? inner [')'] = some (Draft.anchor.close inner false, []) := rfl

theorem meets_read? (s : List Char) : Meets s (read? s) (read? (s ++ [')'])) := by
  have hs : read? s = readBody? (s.length + 2) {} s := readBody?_congr (by omega) (by omega)
  have hclosing : read? (s ++ [')']) = readBody? (s.length + 2) {} (s ++ [')']) :=
    readBody?_congr (by simp) (by simp)
  rw [hs, hclosing]
  exact meets_readBody? _ _ s

theorem ofChars?_eq_some_iff {p : Pattern} : ofChars? s = some p ↔
    ∃ d, read? s = some (d, []) ∧ d.result.isWithinLimits = true ∧ d.result.value = p := by
  unfold ofChars?
  split
  case h_1 d hd =>
    rw [hd]
    split_ifs with hlimits
    · simp [hlimits]
    · simp [hlimits]
  case h_2 hd =>
    constructor
    · intro h
      cases h
    · rintro ⟨d, h, -⟩
      exact (hd d h).elim

theorem isSome_ofChars?_iff : (ofChars? s).isSome = true ↔
    ∃ d, read? s = some (d, []) ∧ d.result.isWithinLimits = true := by
  simp only [Option.isSome_iff_exists, ofChars?_eq_some_iff]
  constructor
  · rintro ⟨p, d, hd, hlimits, -⟩
    exact ⟨d, hd, hlimits⟩
  · rintro ⟨d, hd, hlimits⟩
    exact ⟨_, d, hd, hlimits, rfl⟩

/-- The ways in which a text in a group behind an anchor is read otherwise than by itself. -/
inductive Misread (s : List Char) : Prop
  /-- A parenthesis of the text closes the group, and what follows reads on. -/
  | escapes {d r e} (hd : read? s = some (d, ')' :: r))
      (he : readBehind? d (')' :: r ++ [')']) = some (e, []))
      (hlimits : e.result.isWithinLimits = true)
  /-- The text takes the parenthesis behind it away, and the group is not closed. -/
  | swallows {d} (hd : read? s = some (d, [])) (hlimits : d.result.isWithinLimits = true)
      (hend : read? (s ++ [')']) = some (d, []))
  /-- Only one of the two patterns is within the limits. -/
  | outgrows {d} (hd : read? s = some (d, [])) (hend : read? (s ++ [')']) = some (d, [')']))
      (hlimits : d.result.isWithinLimits ≠ d.result.anchored.isWithinLimits)

/-- Without a closing parenthesis and a comment only the limits can make a difference. -/
theorem Misread.mem_or (h : Misread s) : ')' ∈ s ∨ '#' ∈ s ∨ ∃ d, read? s = some (d, []) ∧
    d.result.isWithinLimits ≠ d.result.anchored.isWithinLimits := by
  cases h with
  | escapes hd => exact .inl ((suffix_of_readBody? hd).subset List.mem_cons_self)
  | swallows hd _ hend =>
    have hmeets := meets_read? s
    rw [hd, hend] at hmeets
    cases hmeets with
    | swallows _ hmark => exact .inr (.inl hmark)
  | outgrows hd _ hlimits => exact .inr (.inr ⟨_, hd, hlimits⟩)

theorem isSome_ofChars?_enclosed_iff : (ofChars? (enclosed s)).isSome = true ↔
    ∃ d r e, read? (s ++ [')']) = some (d, r) ∧ readBehind? d r = some (e, []) ∧
      e.result.isWithinLimits = true := by
  rw [isSome_ofChars?_iff, read?_enclosed]
  constructor
  · rintro ⟨e, he, hlimits⟩
    obtain ⟨⟨d, r⟩, hd, he⟩ := Option.bind_eq_some_iff.1 he
    exact ⟨d, r, e, hd, he, hlimits⟩
  · rintro ⟨d, r, e, hd, he, hlimits⟩
    exact ⟨e, Option.bind_eq_some_iff.2 ⟨(d, r), hd, he⟩, hlimits⟩

theorem Misread.isSome_ne (h : Misread s) :
    (ofChars? (enclosed s)).isSome ≠ (ofChars? s).isSome := by
  intro heq
  rw [Bool.eq_iff_iff, isSome_ofChars?_enclosed_iff, isSome_ofChars?_iff] at heq
  cases h with
  | escapes hd he hlimits =>
    have hmeets := meets_read? s
    rw [hd] at hmeets
    generalize hend : read? (s ++ [')']) = y at hmeets
    cases hmeets
    obtain ⟨d', hd', -⟩ := heq.1 ⟨_, _, _, hend, he, hlimits⟩
    cases hd.symm.trans hd'
  | swallows hd hlimits hend =>
    obtain ⟨d', r, e, hd', he, -⟩ := heq.2 ⟨_, hd, hlimits⟩
    cases hend.symm.trans hd'
    cases he
  | @outgrows d hd hend hlimits =>
    apply hlimits
    rw [Bool.eq_iff_iff, ← result_close_anchor]
    constructor
    · intro h
      obtain ⟨d', r, e, hd', he, hwithin⟩ := heq.2 ⟨d, hd, h⟩
      cases hend.symm.trans hd'
      cases he
      exact hwithin
    · intro h
      obtain ⟨d', hd', hwithin⟩ := heq.1 ⟨d, _, _, hend, readBehind?_closing d, h⟩
      cases hd.symm.trans hd'
      exact hwithin

theorem isSome_eq_of_not_misread (h : ¬ Misread s) :
    (ofChars? (enclosed s)).isSome = (ofChars? s).isSome := by
  rw [Bool.eq_iff_iff, isSome_ofChars?_enclosed_iff, isSome_ofChars?_iff]
  have hmeets := meets_read? s
  have hlimits_eq : ∀ d, read? s = some (d, []) → read? (s ++ [')']) = some (d, [')']) →
      d.result.isWithinLimits = d.result.anchored.isWithinLimits := by
    intro d hd hend
    by_contra hlimits
    exact h (.outgrows hd hend hlimits)
  constructor
  · rintro ⟨d, r, e, hend, he, hlimits⟩
    rw [hend] at hmeets
    generalize hread : read? s = x at hmeets
    cases hmeets with
    | leaves d r =>
      cases r with
      | nil =>
        cases he
        rw [result_close_anchor, ← hlimits_eq d hread hend] at hlimits
        exact ⟨d, rfl, hlimits⟩
      | cons c r =>
        by_cases hc : c = ')'
        · subst hc
          exact absurd (.escapes hread he hlimits) h
        · rw [List.cons_append, readBehind?, followGroup?.eq_2 _ _ _ _ _ (by simp [hc])] at he
          cases he
    | swallows d => cases he
    | needs d => cases he
  · rintro ⟨d, hd, hlimits⟩
    rw [hd] at hmeets
    generalize hend : read? (s ++ [')']) = y at hmeets
    cases hmeets with
    | leaves =>
      rw [hlimits_eq d hd hend, ← result_close_anchor] at hlimits
      exact ⟨d, _, _, rfl, readBehind?_closing d, hlimits⟩
    | swallows => exact absurd (.swallows hd hlimits hend) h

instance (s : List Char) : Decidable (Misread s) :=
  decidable_of_iff ((ofChars? (enclosed s)).isSome ≠ (ofChars? s).isSome)
    ⟨not_imp_comm.1 isSome_eq_of_not_misread, Misread.isSome_ne⟩

/-- A text that is a pattern both by itself and in the group is read in the group as by itself. -/
theorem exists_nested_of_enclosed {p q : Pattern} (hp : ofChars? s = some p)
    (hq : ofChars? (enclosed s) = some q) :
    ∃ n : Nested Pattern, n.value = p ∧ n.anchored.value = q := by
  obtain ⟨d, hd, -, rfl⟩ := ofChars?_eq_some_iff.1 hp
  obtain ⟨e, he, -, rfl⟩ := ofChars?_eq_some_iff.1 hq
  rw [read?_enclosed] at he
  have hmeets := meets_read? s
  rw [hd] at hmeets
  generalize read? (s ++ [')']) = y at hmeets he
  cases hmeets with
  | leaves =>
    cases he
    exact ⟨d.result, rfl, by rw [result_close_anchor]⟩
  | swallows => cases he

end WarehouseAdapter.Pattern
