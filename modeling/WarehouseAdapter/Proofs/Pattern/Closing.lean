import WarehouseAdapter.Proofs.Pattern.Progress

/-!
# A closing parenthesis behind a text

What the readers of characters, escapes and bracketed sets make of a text when a closing parenthesis
is put behind it. Most of them leave the parenthesis behind what they leave anyway. One that fails
at the end of the text may take the parenthesis instead, and then it leaves nothing.

Two readers look further ahead than they read. A dash at the end of the text is left in a set, but
before the parenthesis it begins a range; a brace behind the escape of a boundary makes the escape
fail at the end of the text, but not before the parenthesis. Neither matters in the end, since the
set is never closed and the brace never ends a repetition.
-/

namespace WarehouseAdapter.Pattern

variable {α β : Type} {s r : List Char} {m : Mode} {d : SetDraft}

/-- What a reader makes of a text, and of the same text with a closing parenthesis behind it. Only a
comment at the end of the text swallows the parenthesis. -/
inductive Meets (s : List Char) : Option (α × List Char) → Option (α × List Char) → Prop
  | leaves (a r) : Meets s (some (a, r)) (some (a, r ++ [')']))
  | swallows (a) (hmark : '#' ∈ s) : Meets s (some (a, [])) (some (a, []))
  | needs (a) : Meets s none (some (a, []))
  | fails : Meets s none none

namespace Meets

variable {x y : Option (α × List Char)}

theorem mono (h : Meets r x y) (hr : r <:+ s) : Meets s x y := by
  cases h with
  | leaves a r => exact .leaves a r
  | swallows a hmark => exact .swallows a (hr.subset hmark)
  | needs a => exact .needs a
  | fails => exact .fails

theorem map (h : Meets s x y) (f : α → β) :
    Meets s (x.map fun a => (f a.1, a.2)) (y.map fun a => (f a.1, a.2)) := by
  cases h with
  | leaves a r => exact .leaves _ r
  | swallows a hmark => exact .swallows _ hmark
  | needs a => exact .needs _
  | fails => exact .fails

/-- Nothing is left of nothing. -/
theorem of_none (h : ∀ a r, y = some (a, r) → r <:+ []) : Meets s none y := by
  cases y with
  | none => exact .fails
  | some a =>
    obtain ⟨a, r⟩ := a
    obtain rfl : r = [] := List.suffix_nil.1 (h a r rfl)
    exact .needs a

/-- A second reader goes on where the first one ends. -/
theorem bind {f g : α × List Char → Option (β × List Char)} (h : Meets s x y)
    (hleaves : ∀ a r, x = some (a, r) → Meets s (f (a, r)) (g (a, r ++ [')'])))
    (hend : ∀ a, f (a, []) = g (a, []))
    (hnil : ∀ a b r, g (a, []) = some (b, r) → r <:+ []) : Meets s (x.bind f) (y.bind g) := by
  cases h with
  | leaves a r => exact hleaves a r rfl
  | swallows a hmark =>
    rw [Option.bind_some, Option.bind_some, hend]
    cases hg : g (a, []) with
    | none => exact .fails
    | some b =>
      obtain ⟨b, r⟩ := b
      obtain rfl : r = [] := List.suffix_nil.1 (hnil a b r hg)
      exact .swallows b hmark
  | needs a => exact of_none (hnil a)
  | fails => exact .fails

end Meets

/-- The reader leaves the parenthesis behind what it leaves anyway. -/
def LeavesClosing (read : List Char → Option (α × List Char)) : Prop :=
  ∀ s, read (s ++ [')']) = (read s).map fun a => (a.1, a.2 ++ [')'])

theorem LeavesClosing.meets {read : List Char → Option (α × List Char)} (h : LeavesClosing read)
    (s : List Char) : Meets s (read s) (read (s ++ [')'])) := by
  rw [h s]
  cases read s with
  | none => exact .fails
  | some a => exact .leaves a.1 a.2

section Characters

variable {p : Char → Bool}

theorem takeWhile_closing (h : p ')' = false) : (s ++ [')']).takeWhile p = s.takeWhile p := by
  rw [List.takeWhile_append]
  split_ifs with hall
  · rw [List.takeWhile_cons_of_neg (by simp [h]), List.append_nil]
    exact (List.takeWhile_prefix p).eq_of_length hall |>.symm
  · rfl

theorem dropWhile_closing (h : p ')' = false) :
    (s ++ [')']).dropWhile p = s.dropWhile p ++ [')'] := by
  rw [List.dropWhile_append, List.dropWhile_cons_of_neg (by simp [h])]
  split_ifs with hnil
  · rw [List.isEmpty_iff.1 hnil]
    rfl
  · rfl

/-- Where all characters are dropped, the parenthesis is dropped as well. -/
theorem dropWhile_closing_of_nil (h : p ')' = true) (hs : s.dropWhile p = []) :
    (s ++ [')']).dropWhile p = [] := by
  rw [List.dropWhile_append, hs, List.dropWhile_cons_of_pos h]
  rfl

theorem dropWhile_closing_of_ne_nil (hs : s.dropWhile p ≠ []) :
    (s ++ [')']).dropWhile p = s.dropWhile p ++ [')'] := by
  rw [List.dropWhile_append, if_neg (by simpa using hs)]

theorem takeWhile_closing_of_ne_nil (hs : s.dropWhile p ≠ []) :
    (s ++ [')']).takeWhile p = s.takeWhile p := by
  rw [List.takeWhile_append, if_neg]
  intro hall
  have hlength := congrArg List.length (List.takeWhile_append_dropWhile (p := p) (l := s))
  rw [List.length_append, hall] at hlength
  exact hs (List.length_eq_zero_iff.1 (by omega))

end Characters

theorem charOfHex?_closing (ds : List Char) : charOfHex? (ds ++ [')']) = none := by
  have hmap : (ds ++ [')']).mapM hexValue? = none := by
    rw [List.mapM_append]
    cases ds.mapM hexValue? <;> rfl
  rw [charOfHex?, hmap]
  rfl

/-- A text that begins with another character does so before the parenthesis is put behind it. -/
theorem eq_cons_of_closing {c : Char} (h : s ++ [')'] = c :: r) (hc : c ≠ ')') :
    ∃ t, s = c :: t ∧ r = t ++ [')'] := by
  cases s with
  | nil =>
    cases h
    exact absurd rfl hc
  | cons c' t =>
    cases h
    exact ⟨t, rfl, rfl⟩

theorem ne_cons_closing {c : Char} (h : ∀ t, s = c :: t → False) (hc : c ≠ ')') :
    ∀ t, s ++ [')'] = c :: t → False := by
  intro t ht
  obtain ⟨u, hu, -⟩ := eq_cons_of_closing ht hc
  exact h u hu

theorem ne_cons_cons_closing {c c' : Char} (h : ∀ t, s = c :: c' :: t → False) (hc : c ≠ ')')
    (hc' : c' ≠ ')') : ∀ t, s ++ [')'] = c :: c' :: t → False := by
  intro t ht
  obtain ⟨u, rfl, hu⟩ := eq_cons_of_closing ht hc
  obtain ⟨v, rfl, -⟩ := eq_cons_of_closing hu.symm hc'
  exact h v rfl

theorem leavesClosing_readHex? (count : ℕ) : LeavesClosing (readHex? count) := by
  intro s
  by_cases hs : ∃ r, s = '\x7b' :: r
  · obtain ⟨r, rfl⟩ := hs
    rw [List.cons_append, readHex?, readHex?]
    by_cases hnil : r.dropWhile (· != '\x7d') = []
    · rw [dropWhile_closing_of_nil rfl hnil, hnil]
      simp
    · rw [dropWhile_closing_of_ne_nil hnil, takeWhile_closing_of_ne_nil hnil]
      obtain ⟨b, rest, hrest⟩ := List.exists_cons_of_ne_nil hnil
      rw [hrest]
      cases r.takeWhile (· != '\x7d') with
      | nil => rfl
      | cons d ds => simp [Function.comp_def]
  · have hbrace : ∀ r, s = '\x7b' :: r → False := fun r hr => hs ⟨r, hr⟩
    rw [readHex?.eq_2 count s hbrace, readHex?.eq_2 count _ (ne_cons_closing hbrace (by decide))]
    by_cases hshort : s.length < count
    · rw [if_pos hshort, Option.map_none]
      split_ifs with hlonger
      · rfl
      · rw [List.length_append, List.length_singleton] at hlonger
        rw [List.take_of_length_le (by simp; omega), charOfHex?_closing]
        rfl
    · rw [if_neg hshort, if_neg (by simp; omega), List.take_append_of_le_length (by omega),
        List.drop_append_of_le_length (by omega)]
      simp [Function.comp_def]

/-- A brace at the end of a text is taken for the name of a boundary only if nothing follows it. -/
theorem readBoundary?_closing (hs : s ≠ ['\x7b']) :
    readBoundary? (s ++ [')']) = (readBoundary? s).map fun a => (a.1, a.2 ++ [')']) := by
  by_cases hbrace : ∃ r, s = '\x7b' :: r
  · obtain ⟨r, rfl⟩ := hbrace
    rw [List.cons_append, readBoundary?, readBoundary?]
    rw [takeWhile_closing (by decide), dropWhile_closing (by decide)]
    cases hname : r.takeWhile fun c => c.isAlpha || c == '-' with
    | nil =>
      have hdrop := List.takeWhile_append_dropWhile (p := fun c => c.isAlpha || c == '-') (l := r)
      rw [hname, List.nil_append] at hdrop
      rw [hdrop]
      cases r with
      | nil => exact absurd rfl hs
      | cons c r => rfl
    | cons c name =>
      cases hrest : r.dropWhile fun c => c.isAlpha || c == '-' with
      | nil => simp
      | cons b rest =>
        by_cases hb : b = '\x7d'
        · subst hb
          simp [Function.comp_def]
        · simp [hb]
  · have hne : ∀ r, s = '\x7b' :: r → False := fun r hr => hbrace ⟨r, hr⟩
    rw [readBoundary?.eq_2 s hne, readBoundary?.eq_2 _ (ne_cons_closing hne (by decide))]
    rfl

theorem meets_readEscape? (hs : s ≠ ['b', '\x7b']) :
    Meets s (readEscape? m s) (readEscape? m (s ++ [')'])) := by
  fun_cases readEscape? m s
  case case1 => exact .needs _
  case case2 r =>
    rw [List.cons_append, readEscape?]
    exact (((leavesClosing_readHex? 2).meets r).mono (List.suffix_cons _ r)).map _
  case case3 r =>
    rw [List.cons_append, readEscape?]
    exact (((leavesClosing_readHex? 4).meets r).mono (List.suffix_cons _ r)).map _
  case case4 r =>
    rw [List.cons_append, readEscape?]
    exact (((leavesClosing_readHex? 8).meets r).mono (List.suffix_cons _ r)).map _
  case case5 r =>
    rw [List.cons_append, readEscape?]
    rw [readBoundary?_closing fun hr => hs (by rw [hr])]
    cases readBoundary? r with
    | none => exact .fails
    | some a => exact .leaves a.1 a.2
  case case6 c r hx hu hU hb =>
    rw [List.cons_append, readEscape?.eq_6 _ _ _ hx hu hU hb]
    cases escaped? m c with
    | none => exact .fails
    | some e => exact .leaves e r

theorem readNegation_closing :
    readNegation (s ++ [')']) = ((readNegation s).1, (readNegation s).2 ++ [')']) := by
  fun_cases readNegation s
  case case1 => rfl
  case case2 hs => rw [readNegation.eq_2 _ (ne_cons_closing hs (by decide))]

theorem leavesClosing_readAsciiClass? : LeavesClosing (readAsciiClass? m) := by
  intro s
  unfold readAsciiClass?
  rw [readNegation_closing]
  dsimp only
  rw [takeWhile_closing (by decide), dropWhile_closing (by decide)]
  generalize (readNegation s).2.dropWhile Char.isAlpha = u
  split
  case h_1 rest hrest =>
    obtain ⟨t, rfl, ht⟩ := eq_cons_of_closing hrest (by decide)
    obtain ⟨v, rfl, rfl⟩ := eq_cons_of_closing ht.symm (by decide)
    simp [Function.comp_def]
  case h_2 hrest =>
    split
    case h_1 v => exact absurd rfl (hrest (v ++ [')']))
    case h_2 => rfl

theorem leavesClosing_readNamedClass? : LeavesClosing (readNamedClass? m) := by
  intro s
  fun_cases readNamedClass? m s
  case case1 r => exact leavesClosing_readAsciiClass? r
  case case2 hs =>
    rw [readNamedClass?.eq_2 _ _ (ne_cons_closing hs (by decide))]
    rfl

theorem meets_readSetItem? : Meets s (readSetItem? m s) (readSetItem? m (s ++ [')'])) := by
  cases s with
  | nil => exact .needs _
  | cons c r =>
    by_cases hc : c = '\\'
    · subst hc
      rw [List.cons_append, readSetItem?, readSetItem?]
      by_cases hr : r = ['b', '\x7b']
      -- The escape of a boundary is no member of a set.
      · subst hr
        exact .fails
      · have hmeets := meets_readEscape? (m := m) hr
        revert hmeets
        generalize readEscape? m r = x
        generalize readEscape? m (r ++ [')']) = y
        intro hmeets
        cases hmeets.mono (List.suffix_cons '\\' r) with
        | leaves e r => cases e <;> constructor
        | swallows e hmark =>
          cases e
          case anchor => exact .fails
          all_goals exact .swallows _ hmark
        | needs e => cases e <;> constructor
        | fails => constructor
    · rw [List.cons_append, readSetItem?.eq_2 _ _ _ hc, readSetItem?.eq_2 _ _ _ hc]
      exact .leaves _ _

theorem meets_readRangeEnd? (low : Escape) :
    Meets s (readRangeEnd? m low s) (readRangeEnd? m low (s ++ [')'])) ∨
      readRangeEnd? m low s = some (low.toSet, ['-']) ∧
        ∀ a ∈ readRangeEnd? m low (s ++ [')']), a.2 = [] := by
  fun_cases readRangeEnd? m low s
  case case1 c r hc =>
    rw [List.cons_append, List.cons_append, readRangeEnd?, if_pos hc]
    exact .inl (.leaves _ _)
  case case2 c r hc =>
    rw [List.cons_append, List.cons_append, readRangeEnd?, if_neg hc]
    have hitem := (meets_readSetItem? (m := m) (s := c :: r)).mono (List.suffix_cons '-' _)
    refine .inl (hitem.bind (fun high r _ => ?_) ?_ ?_)
    · dsimp only
      cases low.rangeTo? high with
      | none => exact .fails
      | some set => exact .leaves set r
    · intro high
      rfl
    · intro high set r h
      obtain ⟨range, -, hrange⟩ := Option.map_eq_some_iff.1 h
      cases hrange
      exact List.suffix_rfl
  case case3 hs =>
    by_cases hdash : s = ['-']
    -- The dash stands for itself at the end, but leads to the parenthesis when that is behind it.
    · subst hdash
      refine .inr ⟨rfl, fun a ha => ?_⟩
      obtain ⟨set, -, hset⟩ := Option.map_eq_some_iff.1 ha
      cases hset
      rfl
    · rw [readRangeEnd?.eq_2]
      · exact .inl (.leaves _ _)
      · intro c r hr
        obtain ⟨t, rfl, ht⟩ := eq_cons_of_closing hr (by decide)
        cases t with
        | nil => exact hdash rfl
        | cons c' t => exact hs _ _ rfl

/-- A range that lacks its end may get the parenthesis for it. -/
theorem meets_readSetRange? :
    Meets s (readSetRange? m s) (readSetRange? m (s ++ [')'])) ∨
      (∃ set, readSetRange? m s = some (set, ['-'])) ∧
        ∀ a ∈ readSetRange? m (s ++ [')']), a.2 = [] := by
  have hitem := meets_readSetItem? (m := m) (s := s)
  unfold readSetRange?
  generalize hlow : readSetItem? m s = x at hitem
  generalize readSetItem? m (s ++ [')']) = y at hitem
  cases hitem with
  | leaves low r =>
    have hr := (suffix_of_readSetItem? hlow).trans (List.tail_suffix s)
    exact (meets_readRangeEnd? low).imp (fun h => h.mono hr) fun h => ⟨⟨_, h.1⟩, h.2⟩
  | swallows low hmark => exact .inl (.swallows _ hmark)
  | needs low => exact .inl (.needs _)
  | fails => exact .inl .fails

theorem meets_readMember? :
    Meets s (readMember? m s) (readMember? m (s ++ [')'])) ∨
      (∃ set, readMember? m s = some (.members set, ['-'])) ∧
        ∀ a ∈ readMember? m (s ++ [')']), ∃ set, a = (.members set, []) := by
  cases s with
  | nil => exact .inl (.of_none fun _ _ => suffix_of_readMember?)
  | cons c r =>
    unfold readMember?
    rw [List.cons_append, List.head?_cons, List.head?_cons]
    split_ifs with hblank
    · exact .inl (.leaves _ r)
    · refine (meets_readSetRange? (m := m) (s := c :: r)).imp (fun h => h.map SetToken.members) ?_
      rintro ⟨⟨set, hset⟩, hend⟩
      refine ⟨⟨set, by rw [hset]; rfl⟩, fun a ha => ?_⟩
      obtain ⟨⟨range, u⟩, hrange, hu⟩ := Option.map_eq_some_iff.1 ha
      obtain rfl : u = [] := hend _ hrange
      exact ⟨range, hu.symm⟩

theorem meets_readSetToken? :
    Meets s (readSetToken? m s) (readSetToken? m (s ++ [')'])) ∨
      (∃ set, readSetToken? m s = some (.members set, ['-'])) ∧
        ∀ a ∈ readSetToken? m (s ++ [')']), ∃ set, a = (.members set, []) := by
  fun_cases readSetToken? m s
  case case1 r | case2 r | case3 r | case4 r => exact .inl (.leaves _ r)
  case case5 r set r' hset =>
    rw [List.cons_append, readSetToken?, leavesClosing_readNamedClass?, hset]
    exact .inl (.leaves _ r')
  case case6 r hset =>
    rw [List.cons_append, readSetToken?, leavesClosing_readNamedClass?, hset]
    exact .inl (.leaves _ r)
  case case7 hclose hand hminus htilde hopen =>
    rw [readSetToken?.eq_6 _ _ (ne_cons_closing hclose (by decide))
      (ne_cons_cons_closing hand (by decide) (by decide))
      (ne_cons_cons_closing hminus (by decide) (by decide))
      (ne_cons_cons_closing htilde (by decide) (by decide)) (ne_cons_closing hopen (by decide))]
    exact meets_readMember?

theorem readPlain_closing : SetDraft.readPlain (s ++ [')']) =
    ((SetDraft.readPlain s).1, (SetDraft.readPlain s).2 ++ [')']) := by
  unfold SetDraft.readPlain
  rw [takeWhile_closing (by decide), dropWhile_closing (by decide)]
  generalize s.dropWhile (· == '-') = u
  generalize s.takeWhile (· == '-') = v
  split
  case h_1 hu =>
    obtain ⟨t, rfl, rfl⟩ := eq_cons_of_closing hu (by decide)
    rfl
  case h_2 hu =>
    split
    case h_1 => exact absurd rfl (hu _ rfl)
    case h_2 => rfl

theorem start_closing :
    SetDraft.start (s ++ [')']) = ((SetDraft.start s).1, (SetDraft.start s).2 ++ [')']) := by
  unfold SetDraft.start
  rw [readNegation_closing]
  dsimp only
  rw [readPlain_closing]

theorem meets_followSet? {rest : SetDraft → List Char → Option (Nested CharSet × List Char)}
    (hrest : ∀ d s, Meets s (rest d s) (rest d (s ++ [')'])))
    (hsuffix : ∀ d s set r, rest d s = some (set, r) → r <:+ s) (token : SetToken) :
    Meets s (followSet? rest m d token s) (followSet? rest m d token (s ++ [')'])) := by
  cases token with
  | closing =>
    dsimp only [followSet?]
    cases d.finish? m with
    | none => exact .fails
    | some set => exact .leaves set s
  | opening =>
    dsimp only [followSet?]
    rw [start_closing]
    refine ((hrest _ _).mono (suffix_start s)).bind (fun set r hr => ?_) (fun _ => rfl)
      fun _ => hsuffix _ _
    exact (hrest _ r).mono ((hsuffix _ _ _ _ hr).trans (suffix_start s))
  | operator | members | skipped => exact hrest _ s

theorem readMembers?_nil (fuel : ℕ) : readMembers? fuel m d [] = none := by
  cases fuel <;> rfl

/-- A set that ends in a dash does not end. -/
theorem readMembers?_dash (fuel : ℕ) : readMembers? fuel m d ['-'] = none := by
  cases fuel with
  | zero => rfl
  | succ fuel =>
    have htoken : readSetToken? m ['-'] = some (.members (.single '-'), []) := rfl
    rw [readMembers?, htoken]
    exact readMembers?_nil fuel

theorem meets_readMembers? (fuel : ℕ) (m : Mode) (d : SetDraft) (s : List Char) :
    Meets s (readMembers? fuel m d s) (readMembers? fuel m d (s ++ [')'])) := by
  induction fuel generalizing d s with
  | zero => exact .fails
  | succ fuel ih =>
    rw [readMembers?, readMembers?]
    rcases meets_readSetToken? (m := m) (s := s) with hmeets | ⟨⟨set, hset⟩, hrange⟩
    · have hsuffix : ∀ d s set r, readMembers? fuel m d s = some (set, r) → r <:+ s :=
        fun _ _ _ _ => suffix_of_readMembers?
      refine hmeets.bind (fun token r hr => ?_) (fun _ => rfl)
        fun _ _ _ => suffix_of_followSet? hsuffix
      have htail := (suffix_of_readSetToken? hr).trans (List.tail_suffix s)
      exact (meets_followSet? ih hsuffix token).mono htail
    -- Neither the dash that is left nor the range that takes the parenthesis closes the set.
    · rw [hset]
      have hfails : (readSetToken? m (s ++ [')'])).bind
          (fun a => followSet? (readMembers? fuel m) m d a.1 a.2) = none := by
        apply Option.bind_eq_none_iff.2
        intro a ha
        obtain ⟨range, rfl⟩ := hrange a ha
        exact readMembers?_nil fuel
      change Meets s (readMembers? fuel m _ ['-']) ((readSetToken? m (s ++ [')'])).bind
        fun a => followSet? (readMembers? fuel m) m d a.1 a.2)
      rw [readMembers?_dash, hfails]
      exact .fails

end WarehouseAdapter.Pattern
