import WarehouseAdapter.Proofs.Pattern.Closing

/-!
# A closing parenthesis behind the text of a body

The parenthesis put behind a text ends the body that the text spells and is left there. It is taken
away only by a comment at the end of the text; where the text alone fails, it may also complete a
part of the text.
-/

namespace WarehouseAdapter.Pattern

variable {s r : List Char} {m : Mode}

theorem skipBlank_closing : skipBlank (s ++ [')']) = skipBlank s ++ [')'] :=
  dropWhile_closing (by decide)

theorem leavesClosing_readCount? : LeavesClosing readCount? := by
  intro s
  unfold readCount?
  rw [skipBlank_closing]
  dsimp only
  rw [takeWhile_closing (by decide), dropWhile_closing (by decide), skipBlank_closing]
  split_ifs <;> rfl

theorem leavesClosing_endBounds? (least most : ℕ) : LeavesClosing (endBounds? least most) := by
  intro s
  fun_cases endBounds? least most s
  case case1 r hle =>
    rw [List.cons_append, endBounds?, if_pos hle]
    rfl
  case case2 r hle =>
    rw [List.cons_append, endBounds?, if_neg hle]
    rfl
  case case3 hs =>
    rw [endBounds?.eq_2 _ _ _ (ne_cons_closing hs (by decide))]
    rfl

theorem leavesClosing_readMost? (least : ℕ) : LeavesClosing (readMost? least) := by
  intro s
  fun_cases readMost? least s
  case case1 r => rfl
  case case2 r => rfl
  case case3 r hr =>
    rw [List.cons_append, readMost?.eq_3 _ _ (ne_cons_closing hr (by decide)),
      leavesClosing_readCount?]
    cases readCount? r with
    | none => rfl
    | some a => exact leavesClosing_endBounds? least a.1 a.2
  case case4 hbrace hboth hcomma =>
    rw [readMost?.eq_4 _ _ (ne_cons_closing hbrace (by decide))
      (ne_cons_cons_closing hboth (by decide) (by decide)) (ne_cons_closing hcomma (by decide))]
    rfl

theorem leavesClosing_readBounds? : LeavesClosing readBounds? := by
  intro s
  unfold readBounds?
  rw [leavesClosing_readCount?]
  cases readCount? s with
  | none => rfl
  | some a => exact leavesClosing_readMost? a.1 a.2

theorem skipLazy_closing : skipLazy (s ++ [')']) = skipLazy s ++ [')'] := by
  fun_cases skipLazy s
  case case1 => rfl
  case case2 hs => rw [skipLazy.eq_2 _ (ne_cons_closing hs (by decide))]

theorem leavesClosing_readGroupName? : LeavesClosing (readGroupName? m) := by
  intro s
  unfold readGroupName?
  by_cases hnil : s.dropWhile (· != '>') = []
  · rw [dropWhile_closing_of_nil rfl hnil, hnil]
    simp
  · rw [dropWhile_closing_of_ne_nil hnil, takeWhile_closing_of_ne_nil hnil]
    obtain ⟨b, rest, hrest⟩ := List.exists_cons_of_ne_nil hnil
    rw [hrest]
    cases s.takeWhile (· != '>') with
    | nil => rfl
    | cons c name =>
      dsimp only [List.cons_append]
      split_ifs <;> rfl

/-- Flags that are not ended are ended by the parenthesis, which is left. -/
theorem readFlags?_closing (m : Mode) (value : Bool) (seen s : List Char) :
    (readFlags? m value seen (s ++ [')']) =
        (readFlags? m value seen s).map fun a => (a.1, a.2.1, a.2.2 ++ [')'])) ∨
      readFlags? m value seen s = none ∧
        ∀ a ∈ readFlags? m value seen (s ++ [')']), a.2.2 = [')'] := by
  fun_induction readFlags? m value seen s
  case case1 m value seen =>
    refine .inr ⟨rfl, fun a ha => ?_⟩
    rw [List.nil_append, readFlags?] at ha
    split_ifs at ha
    · cases ha
    · cases ha
      rfl
  case case2 hdash => exact .inl (by rw [List.cons_append, readFlags?, if_pos hdash]; rfl)
  case case3 hdash => exact .inl (by rw [List.cons_append, readFlags?, if_neg hdash]; rfl)
  case case4 hdash => exact .inl (by rw [List.cons_append, readFlags?, if_pos hdash]; rfl)
  case case5 hdash => exact .inl (by rw [List.cons_append, readFlags?, if_neg hdash]; rfl)
  case case6 hcolon hclose hseen =>
    rw [List.cons_append, readFlags?.eq_4 _ _ _ _ _ hcolon hclose, if_pos hseen]
    exact .inl rfl
  case case7 hcolon hclose hseen ih =>
    rw [List.cons_append, readFlags?.eq_4 _ _ _ _ _ hcolon hclose, if_neg hseen, if_pos rfl]
    exact ih
  case case8 hcolon hclose hseen hdash _ hset ih =>
    rw [List.cons_append, readFlags?.eq_4 _ _ _ _ _ hcolon hclose, if_neg hseen, if_neg hdash,
      hset]
    exact ih
  case case9 hcolon hclose hseen hdash hset =>
    rw [List.cons_append, readFlags?.eq_4 _ _ _ _ _ hcolon hclose, if_neg hseen, if_neg hdash,
      hset]
    exact .inl rfl

theorem meets_endFlags? {seen : List Char} :
    Meets s (endFlags? m seen s) (endFlags? m seen (s ++ [')'])) := by
  cases s with
  | nil =>
    change Meets [] none (if seen.isEmpty then none else some (GroupHead.flags m, []))
    split_ifs
    · exact .fails
    · exact .needs _
  | cons c r =>
    rw [List.cons_append]
    by_cases hcolon : c = ':'
    · subst hcolon
      exact .leaves _ r
    · by_cases hclose : c = ')'
      · subst hclose
        rw [endFlags?, endFlags?]
        split_ifs
        · exact .fails
        · exact .leaves _ r
      · rw [endFlags?.eq_3 _ _ _ (by simp [hcolon]) (by simp [hclose]),
          endFlags?.eq_3 _ _ _ (by simp [hcolon]) (by simp [hclose])]
        exact .fails

theorem meets_readFlagHead? : Meets s (readFlagHead? m s) (readFlagHead? m (s ++ [')'])) := by
  unfold readFlagHead?
  rcases readFlags?_closing m true [] s with heq | ⟨hnone, hend⟩
  · rw [heq]
    cases hflags : readFlags? m true [] s with
    | none => exact .fails
    | some a => exact meets_endFlags?.mono (suffix_of_readFlags? hflags)
  · rw [hnone]
    cases hflags : readFlags? m true [] (s ++ [')']) with
    | none => exact .fails
    | some a =>
      obtain ⟨m', seen, r⟩ := a
      obtain rfl : r = [')'] := hend _ hflags
      exact (meets_endFlags? (m := m') (s := [])).mono List.nil_suffix

theorem meets_readGroupHead? :
    Meets s (readGroupHead? m s) (readGroupHead? m (s ++ [')'])) := by
  fun_cases readGroupHead? m s
  case case1 | case2 | case3 | case4 => exact .fails
  case case5 r =>
    have hsuffix := (List.suffix_cons '<' r).trans (List.suffix_cons 'P' _)
    exact (leavesClosing_readGroupName?.meets r).mono hsuffix
  case case6 r hlook hnot =>
    rw [List.cons_append, readGroupHead?.eq_6 _ _ (ne_cons_closing hlook (by decide))
      (ne_cons_closing hnot (by decide))]
    exact (leavesClosing_readGroupName?.meets r).mono (List.suffix_cons '<' r)
  case case7 hlook hnot hback hbackNot hnamed hname =>
    rw [readGroupHead?.eq_7 _ _ (ne_cons_closing hlook (by decide))
      (ne_cons_closing hnot (by decide)) (ne_cons_cons_closing hback (by decide) (by decide))
      (ne_cons_cons_closing hbackNot (by decide) (by decide))
      (ne_cons_cons_closing hnamed (by decide) (by decide)) (ne_cons_closing hname (by decide))]
    exact meets_readFlagHead?

theorem skipLine_closing :
    skipLine (s ++ [')']) = skipLine s ++ [')'] ∨ skipLine s = [] ∧ skipLine (s ++ [')']) = [] := by
  unfold skipLine
  by_cases hnil : s.dropWhile (· != '\n') = []
  · rw [dropWhile_closing_of_nil rfl hnil, hnil]
    exact .inr ⟨rfl, rfl⟩
  · rw [dropWhile_closing_of_ne_nil hnil]
    obtain ⟨b, rest, hrest⟩ := List.exists_cons_of_ne_nil hnil
    rw [hrest]
    exact .inl rfl

theorem meets_readOther? {c : Char} :
    Meets (c :: s) (readOther? m c s) (readOther? m c (s ++ [')'])) := by
  unfold readOther?
  split_ifs with hblank hcomment
  · exact .leaves _ s
  · obtain ⟨-, hmark⟩ := Bool.and_eq_true_iff.1 hcomment
    rcases skipLine_closing (s := s) with heq | ⟨hs, hnil⟩
    · rw [heq]
      exact .leaves _ _
    · rw [hs, hnil]
      exact .swallows _ (by simp [beq_iff_eq.1 hmark])
  · cases readSingle? m c with
    | none => exact .fails
    | some p => exact .leaves _ s

theorem meets_readToken? (fuel : ℕ) :
    Meets s (readToken? fuel m s) (readToken? fuel m (s ++ [')'])) ∨
      readToken? fuel m s = none ∧
        ∃ token, readToken? fuel m (s ++ [')']) = some (token, ['\x7b', ')']) := by
  fun_cases readToken? fuel m s
  case case1 => exact .inl (.of_none fun _ _ => suffix_of_readOther?)
  case case2 r => exact .inl (.leaves _ r)
  case case3 r | case4 r | case5 r =>
    rw [List.cons_append, readToken?, skipLazy_closing]
    exact .inl (.leaves _ _)
  case case6 r =>
    rw [List.cons_append, readToken?, leavesClosing_readBounds?]
    cases readBounds? r with
    | none => exact .inl .fails
    | some bounds =>
      change Meets _ _ (some (_, skipLazy (bounds.2 ++ [')']))) ∨ _
      rw [skipLazy_closing]
      exact .inl (.leaves _ _)
  case case7 r =>
    rw [List.cons_append, List.cons_append, readToken?]
    have hsuffix := (List.suffix_cons '?' r).trans (List.suffix_cons '(' _)
    exact .inl ((meets_readGroupHead?.map GroupHead.token).mono hsuffix)
  case case8 r hr =>
    rw [List.cons_append, readToken?.eq_8 _ _ _ (ne_cons_closing hr (by decide))]
    exact .inl (.leaves _ r)
  case case9 r =>
    rw [List.cons_append, readToken?, readSet?, readSet?, start_closing]
    have hset := (meets_readMembers? fuel m (SetDraft.start r).1 (SetDraft.start r).2).map
      fun set => Token.item ⟨ofSet set.value, set.depth⟩
    exact .inl (hset.mono ((suffix_start r).trans (List.suffix_cons '[' r)))
  case case10 r =>
    rw [List.cons_append, readToken?]
    by_cases hr : r = ['b', '\x7b']
    -- Before the parenthesis the brace names no boundary, and is left.
    · subst hr
      exact .inr ⟨rfl, _, rfl⟩
    · have hescape := (meets_readEscape? (m := m) hr).map fun e => Token.item ⟨e.toPattern m, 0⟩
      exact .inl (hescape.mono (List.suffix_cons '\\' r))
  case case11 c r hbar hstar hplus hmark hbrace hgroup hopen hset hslash =>
    rw [List.cons_append, readToken?.eq_11 _ _ _ _ hbar hstar hplus hmark hbrace
      (fun t hc => absurd hc hopen) hopen hset hslash]
    exact .inl meets_readOther?

section Following

variable {rest : Draft → List Char → Option (Draft × List Char)} {d : Draft}

theorem meets_followGroup? {inner : Draft} {numbered : Bool}
    (hrest : ∀ d s, Meets s (rest d s) (rest d (s ++ [')'])))
    (hsuffix : ∀ d s d' r, rest d s = some (d', r) → r <:+ s) :
    Meets s (followGroup? rest d numbered inner s)
      (followGroup? rest d numbered inner (s ++ [')'])) := by
  cases s with
  | nil => exact .of_none (hsuffix _ _)
  | cons c s =>
    by_cases hc : c = ')'
    · subst hc
      exact (hrest _ s).mono (List.suffix_cons _ s)
    · rw [List.cons_append, followGroup?.eq_2 _ _ _ _ _ (by simp [hc]),
        followGroup?.eq_2 _ _ _ _ _ (by simp [hc])]
      exact .fails

theorem meets_follow? (hrest : ∀ d s, Meets s (rest d s) (rest d (s ++ [')'])))
    (hsuffix : ∀ d s d' r, rest d s = some (d', r) → r <:+ s) (token : Token) :
    Meets s (follow? rest d token s) (follow? rest d token (s ++ [')'])) := by
  fun_cases follow? rest d token s
  case case1 m name numbered =>
    rw [follow?]
    cases d.open? m name with
    | none => exact .fails
    | some start =>
      refine (hrest start s).bind (fun inner r hr => ?_) (fun _ => rfl)
        fun _ _ _ => suffix_of_followGroup? hsuffix
      exact (meets_followGroup? hrest hsuffix).mono (hsuffix _ _ _ _ hr)
  case case2 htoken =>
    rw [follow?.eq_2 _ _ _ _ htoken]
    cases d.add? token with
    | none => exact .fails
    | some next => exact hrest next s

theorem follow?_eq_none (h : ∀ d, rest d s = none) (token : Token) :
    follow? rest d token s = none := by
  fun_cases follow? rest d token s
  case case1 m name numbered =>
    apply Option.bind_eq_none_iff.2
    intro start _
    rw [h]
    rfl
  case case2 =>
    apply Option.bind_eq_none_iff.2
    intro next _
    exact h next

end Following

theorem readBody?_brace (fuel : ℕ) (d : Draft) : readBody? fuel d ['\x7b', ')'] = none := by
  cases fuel <;> rfl

/-- What becomes of a body when a closing parenthesis is put behind it. -/
theorem meets_readBody? (fuel : ℕ) (d : Draft) (s : List Char) :
    Meets s (readBody? fuel d s) (readBody? fuel d (s ++ [')'])) := by
  induction fuel generalizing d s with
  | zero => exact .fails
  | succ fuel ih =>
    cases s with
    | nil => exact .leaves d []
    | cons c s =>
      by_cases hc : c = ')'
      · subst hc
        exact .leaves d _
      · rw [List.cons_append, readBody?, readBody?, if_neg (by simpa using hc),
          if_neg (by simpa using hc)]
        have hsuffix : ∀ d s d' r, readBody? fuel d s = some (d', r) → r <:+ s :=
          fun _ _ _ _ => suffix_of_readBody?
        have htoken := meets_readToken? (m := d.mode) (s := c :: s) fuel
        rcases htoken with hmeets | ⟨hnone, token, hbrace⟩
        · refine hmeets.bind (fun token r hr => ?_) (fun _ => rfl)
            fun _ _ _ => suffix_of_follow? hsuffix
          have htail := (suffix_of_readToken? hr).trans (List.tail_suffix (c :: s))
          exact (meets_follow? ih hsuffix token).mono htail
        -- The brace that is left begins a repetition without bounds.
        · rw [List.cons_append] at hbrace
          rw [hnone, hbrace]
          change Meets _ none (follow? (readBody? fuel) d token ['\x7b', ')'])
          rw [follow?_eq_none (readBody?_brace fuel)]
          exact .fails

end WarehouseAdapter.Pattern
