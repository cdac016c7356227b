import WarehouseAdapter.Proofs.Except
import WarehouseAdapter.Proofs.Pattern.Matching

/-!
# The matcher finds what a pattern matches

The matcher keeps a number for each place of a text, whose binary digits are set at the lengths of
the matches that begin there. One step of the matcher keeps this reading of the numbers: two
relations in a row, one relation or another, a relation some number of times. A search therefore
finds a match exactly where the pattern has one.
-/

namespace WarehouseAdapter.Pattern

variable {R S : PlaceRel} {o o' m : Outlook} {text : List Char} {before : Option Char}
  {n k : ℕ} {p : Pattern} {places : List Outlook} {r s : Spans}

/-- The relation leads over as many characters. -/
def Spanned (R : PlaceRel) (o : Outlook) (k : ℕ) : Prop :=
  ∃ w o', w.length = k ∧ Between w o o' ∧ R o o'

/-- The digits of the numbers are set, place by place, at the lengths over which the relation
leads. -/
def Marks (R : PlaceRel) (places : List Outlook) (s : Spans) : Prop :=
  List.Forall₂ (fun o n => ∀ k, n.testBit k = true ↔ Spanned R o k) places s

theorem Marks.congr (hR : Marks R places s) (h : ∀ o ∈ places, ∀ o', R o o' ↔ S o o') :
    Marks S places s := by
  refine (forall₂_congr_of_mem fun o ho n => ?_).1 hR
  have hspanned : ∀ k, Spanned R o k ↔ Spanned S o k := by
    intro k
    simp only [Spanned, h o ho]
  simp only [hspanned]

/-- A number for each place, from what can be seen there. -/
theorem marks_map {f : Outlook → ℕ} (h : ∀ o k, (f o).testBit k = true ↔ Spanned R o k) :
    Marks R places (places.map f) := by
  apply List.forall₂_map_right_iff.2
  exact List.forall₂_same.2 fun o _ => h o

theorem spanned_eq_iff : Spanned (fun o o' => o' = o) o k ↔ k = 0 := by
  constructor
  · rintro ⟨w, o', rfl, hw, rfl⟩
    rw [hw.eq_nil]
    rfl
  · rintro rfl
    exact ⟨[], o, rfl, .nil o, rfl⟩

theorem testBit_one : Nat.testBit 1 k = true ↔ k = 0 := by
  cases k with
  | zero => decide
  | succ k => simp [Nat.testBit_succ]

theorem testBit_two : Nat.testBit 2 k = true ↔ k = 1 := by
  cases k with
  | zero => decide
  | succ k => simp [Nat.testBit_succ, testBit_one]

theorem testBit_ite {c : Prop} [Decidable c] {a : ℕ} :
    (if c then a else 0).testBit k = true ↔ c ∧ a.testBit k = true := by
  by_cases h : c <;> simp [h]

theorem testBit_wordSpan {w : List Char} :
    (wordSpan text w).testBit k = true ↔ w <+: text ∧ w.length = k := by
  rw [wordSpan, testBit_ite, List.isPrefixOf_iff_prefix]
  apply and_congr_right
  intro _
  rw [Nat.pow_eq, Nat.testBit_two_pow, decide_eq_true_eq]

theorem testBit_foldl_wordSpan {ws : List (List Char)} {start : ℕ} :
    (ws.foldl (fun n w => n ||| wordSpan text w) start).testBit k = true ↔
      start.testBit k = true ∨ ∃ w ∈ ws, w <+: text ∧ w.length = k := by
  induction ws generalizing start with
  | nil => simp
  | cons w ws ih =>
    rw [List.foldl_cons, ih, Nat.testBit_or, Bool.or_eq_true, testBit_wordSpan, or_assoc]
    simp

theorem spanned_words_iff {ws : List (List Char)} :
    Spanned (words ws).Matches o k ↔ ∃ w ∈ ws, w <+: o.2 ∧ w.length = k := by
  constructor
  · rintro ⟨v, o', rfl, hv, w, hmem, hw⟩
    exact ⟨w, hmem, exists_between_iff.1 ⟨o', hw⟩, congrArg _ (hw.word_unique hv)⟩
  · rintro ⟨w, hmem, hprefix, hlength⟩
    obtain ⟨o', ho'⟩ := exists_between_iff.2 hprefix
    exact ⟨w, o', hlength, ho', w, hmem, ho'⟩

theorem spanned_one_iff {set : CharSet} :
    Spanned (one set).Matches o k ↔ o.2.head?.any set.contains = true ∧ k = 1 := by
  constructor
  · rintro ⟨v, o', rfl, hv, c, hc, hw⟩
    obtain rfl := hw.word_unique hv
    rw [hw.eq_append]
    exact ⟨hc, rfl⟩
  · rintro ⟨hany, rfl⟩
    obtain ⟨before, text⟩ := o
    cases text with
    | nil => cases hany
    | cons c cs =>
      have hbetween : Between [c] (before, c :: cs) (some c, cs) := .cons (.nil _)
      exact ⟨[c], _, rfl, hbetween, c, hany, hbetween⟩

theorem spanned_anchor_iff {a : Anchor} :
    Spanned (anchor a).Matches o k ↔ a.holds o.1 o.2.head? = true ∧ k = 0 := by
  constructor
  · rintro ⟨w, o', rfl, hw, ha, rfl⟩
    rw [hw.eq_nil]
    exact ⟨ha, rfl⟩
  · rintro ⟨ha, rfl⟩
    exact ⟨[], o, rfl, .nil o, ha, rfl⟩

/-- One relation and, from where it leads, another. -/
def Then (R S : PlaceRel) : PlaceRel := fun o o' => ∃ m, R o m ∧ S m o'

theorem testBit_reach_cons {first : ℕ} : (Spans.reach n (first :: s)).testBit k = true ↔
    n.testBit 0 = true ∧ first.testBit k = true ∨
      ∃ j, (Spans.reach (n / 2) s).testBit j = true ∧ j + 1 = k := by
  have hzero : Spans.reach 0 s = 0 := by cases s <;> simp [Spans.reach]
  have hdouble : ∀ x : ℕ, (2 * x).testBit k = true ↔ ∃ j, x.testBit j = true ∧ j + 1 = k := by
    intro x
    cases k with
    | zero => simp
    | succ k => simp [Nat.testBit_succ]
  rw [Spans.reach]
  by_cases hn : n = 0
  · simp [hn, hzero]
  · rw [if_neg hn, Nat.testBit_or, Bool.or_eq_true, testBit_ite, hdouble, Nat.testBit_zero,
      decide_eq_true_eq]

/-- Lengths set in a number, each followed by the lengths of a relation from where it leads. -/
theorem testBit_reach (hs : Marks S (outlooks before text) s) :
    (Spans.reach n s).testBit k = true ↔ ∃ w m, Between w (before, text) m ∧
      n.testBit w.length = true ∧ ∃ i, Spanned S m i ∧ w.length + i = k := by
  induction text generalizing before n s k with
  | nil =>
    obtain ⟨first, rest, hfirst, hrest, rfl⟩ := List.forall₂_cons_left_iff.1 hs
    obtain rfl := List.forall₂_nil_left_iff.1 hrest
    rw [testBit_reach_cons, hfirst]
    constructor
    · rintro (⟨hbit, hspanned⟩ | ⟨j, hj, -⟩)
      · exact ⟨[], _, .nil _, hbit, k, hspanned, Nat.zero_add k⟩
      · simp [Spans.reach] at hj
    · rintro ⟨w, m, hw, hbit, i, hi, rfl⟩
      cases hw
      exact .inl ⟨hbit, by simpa using hi⟩
  | cons c cs ih =>
    obtain ⟨first, rest, hfirst, hrest, rfl⟩ := List.forall₂_cons_left_iff.1 hs
    rw [testBit_reach_cons, hfirst]
    constructor
    · rintro (⟨hbit, hspanned⟩ | ⟨j, hj, rfl⟩)
      · exact ⟨[], _, .nil _, hbit, k, hspanned, Nat.zero_add k⟩
      · obtain ⟨w, m, hw, hbit, i, hi, rfl⟩ := (ih hrest).1 hj
        refine ⟨c :: w, m, .cons hw, ?_, i, hi, ?_⟩
        · rwa [List.length_cons, Nat.testBit_succ]
        · rw [List.length_cons, Nat.add_right_comm]
    · rintro ⟨w, m, hw, hbit, i, hi, rfl⟩
      cases hw with
      | nil => exact .inl ⟨hbit, by simpa using hi⟩
      | @cons w _ _ _ _ hw =>
        refine .inr ⟨w.length + i, (ih hrest).2 ⟨w, m, hw, ?_, i, hi, rfl⟩, ?_⟩
        · rwa [List.length_cons, Nat.testBit_succ] at hbit
        · rw [List.length_cons, Nat.add_right_comm]

theorem spanned_then_iff (hR : Forward R) (hS : Forward S)
    (hn : ∀ k, n.testBit k = true ↔ Spanned R o k) :
    (∃ w m, Between w o m ∧ n.testBit w.length = true ∧ ∃ i, Spanned S m i ∧ w.length + i = k) ↔
      Spanned (Then R S) o k := by
  constructor
  · rintro ⟨w, m, hw, hbit, i, ⟨v, o', rfl, hv, hstep⟩, rfl⟩
    obtain ⟨u, m', hlength, hu, hfirst⟩ := (hn _).1 hbit
    obtain rfl := hw.eq_of_length_eq hu hlength.symm
    exact ⟨w ++ v, o', List.length_append, hw.append hv, _, hfirst, hstep⟩
  · rintro ⟨u, o', rfl, hu, m, hfirst, hstep⟩
    obtain ⟨w, hw⟩ := hR o m hfirst
    obtain ⟨v, hv⟩ := hS m o' hstep
    refine ⟨w, m, hw, (hn _).2 ⟨w, m, rfl, hw, hfirst⟩, v.length, ⟨v, o', rfl, hv, hstep⟩, ?_⟩
    rw [hu.word_unique (hw.append hv), List.length_append]

theorem Marks.andThen (hR : Forward R) (hS : Forward S)
    (hr : Marks R (outlooks before text) r) (hs : Marks S (outlooks before text) s) :
    Marks (Then R S) (outlooks before text) (Spans.andThen r s) := by
  induction text generalizing before r s with
  | nil =>
    obtain ⟨n, rest, hn, hrest, rfl⟩ := List.forall₂_cons_left_iff.1 hr
    obtain rfl := List.forall₂_nil_left_iff.1 hrest
    obtain ⟨first, rest, -, hrest, rfl⟩ := List.forall₂_cons_left_iff.1 hs
    obtain rfl := List.forall₂_nil_left_iff.1 hrest
    refine .cons (fun k => ?_) .nil
    exact (testBit_reach hs).trans (spanned_then_iff hR hS hn)
  | cons c cs ih =>
    obtain ⟨n, ns, hn, hns, rfl⟩ := List.forall₂_cons_left_iff.1 hr
    obtain ⟨first, rest, -, hrest, rfl⟩ := List.forall₂_cons_left_iff.1 hs
    refine .cons (fun k => ?_) (ih hns hrest)
    exact (testBit_reach hs).trans (spanned_then_iff hR hS hn)

theorem Marks.orElse (hr : Marks R places r) (hs : Marks S places s) :
    Marks (fun o o' => R o o' ∨ S o o') places (Spans.orElse r s) := by
  induction places generalizing r s with
  | nil =>
    obtain rfl := List.forall₂_nil_left_iff.1 hr
    exact .nil
  | cons o places ih =>
    obtain ⟨n, ns, hn, hns, rfl⟩ := List.forall₂_cons_left_iff.1 hr
    obtain ⟨l, ls, hl, hls, rfl⟩ := List.forall₂_cons_left_iff.1 hs
    refine .cons (fun k => ?_) (ih hns hls)
    rw [Nat.testBit_or, Bool.or_eq_true, hn, hl]
    constructor
    · rintro (⟨w, o', hlength, hw, h⟩ | ⟨w, o', hlength, hw, h⟩)
      · exact ⟨w, o', hlength, hw, .inl h⟩
      · exact ⟨w, o', hlength, hw, .inr h⟩
    · rintro ⟨w, o', hlength, hw, h | h⟩
      · exact .inl ⟨w, o', hlength, hw, h⟩
      · exact .inr ⟨w, o', hlength, hw, h⟩

/-- To stop where a step changes nothing is to do all steps. -/
theorem iterate_eq (step : Spans → Spans) (n : ℕ) (s : Spans) :
    Spans.iterate step n s = step^[n] s := by
  induction n generalizing s with
  | zero => rfl
  | succ n ih =>
    rw [Spans.iterate, Function.iterate_succ_apply]
    by_cases h : step s = s
    · rw [if_pos h, h, Function.iterate_fixed h]
    · rw [if_neg h, ih]

theorem marks_rounds (hR : Forward R) (hr : Marks R (outlooks before text) r) (n : ℕ) :
    Marks (Rounds R n) (outlooks before text)
      (Spans.iterate (Spans.andThen r) n ((outlooks before text).map fun _ => 1)) := by
  rw [iterate_eq]
  induction n with
  | zero => exact marks_map fun o k => testBit_one.trans spanned_eq_iff.symm
  | succ n ih =>
    rw [Function.iterate_succ_apply']
    exact hr.andThen hR (hR.rounds n) ih

theorem matches_repeated_iff {least : ℕ} {most : Option ℕ} {places : ℕ}
    (hplaces : o.2.length < places) :
    Then (Rounds p.Matches least)
        (Rounds (fun o o' => o' = o ∨ p.Matches o o') ((most.map (· - least)).getD places)) o o' ↔
      (repeated least most p).Matches o o' := by
  simp only [Then, rounds_optional_iff]
  constructor
  · rintro ⟨m, hleast, k, hk, hrest⟩
    refine ⟨least + k, by omega, fun limit hlimit => ?_, rounds_add_iff.2 ⟨m, hleast, hrest⟩⟩
    rw [Option.mem_def.1 hlimit, Option.map_some, Option.getD_some] at hk
    omega
  · rintro ⟨n, hn, hmost, hrounds⟩
    obtain ⟨extra, rfl⟩ := Nat.exists_eq_add_of_le hn
    obtain ⟨m, hleast, hrest⟩ := rounds_add_iff.1 hrounds
    cases most with
    | none =>
      obtain ⟨w, hw⟩ := (matches_forward p).rounds least o m hleast
      have hlength := hw.length_eq
      obtain ⟨k, hk, hshort⟩ := exists_rounds_le (matches_forward p) hrest
      exact ⟨m, hleast, k, by simp only [Option.map_none, Option.getD_none]; omega, hshort⟩
    | some limit =>
      have hlimit := hmost limit rfl
      exact ⟨m, hleast, extra, by simp only [Option.map_some, Option.getD_some]; omega, hrest⟩

/-- The numbers of the matcher stand for the lengths of the matches. -/
theorem marks_spans (p : Pattern) (before : Option Char) (text : List Char) :
    Marks p.Matches (outlooks before text) (p.spans (outlooks before text)) := by
  induction p with
  | empty => exact marks_map fun o k => testBit_one.trans spanned_eq_iff.symm
  | words ws =>
    apply marks_map
    intro o k
    rw [testBit_foldl_wordSpan, spanned_words_iff]
    simp
  | one set =>
    apply marks_map
    intro o k
    rw [testBit_ite, testBit_two, spanned_one_iff]
  | anchor a =>
    apply marks_map
    intro o k
    rw [testBit_ite, testBit_one, spanned_anchor_iff]
  | seq p q ihp ihq => exact ihp.andThen (matches_forward p) (matches_forward q) ihq
  | alt p q ihp ihq => exact ihp.orElse ihq
  | repeated least most p ih =>
    have hnone : Marks (fun o o' => o' = o) (outlooks before text)
        ((outlooks before text).map fun _ => 1) :=
      marks_map fun o k => testBit_one.trans spanned_eq_iff.symm
    have hforward : Forward fun o o' => o' = o ∨ p.Matches o o' := by
      rintro o o' (rfl | h)
      · exact ⟨[], .nil _⟩
      · exact matches_forward p o o' h
    have hleast := marks_rounds (matches_forward p) ih least
    have hrest := marks_rounds hforward (hnone.orElse ih)
      ((most.map (· - least)).getD (outlooks before text).length)
    refine (hleast.andThen ((matches_forward p).rounds least) (hforward.rounds _) hrest).congr ?_
    intro o ho o'
    obtain ⟨w, hw⟩ := mem_outlooks_iff.1 ho
    have hlength := hw.length_eq
    apply matches_repeated_iff
    rw [length_outlooks]
    dsimp only at hlength
    omega
  | group p ih => exact ih

theorem ne_zero_iff_exists_testBit : n ≠ 0 ↔ ∃ k, n.testBit k = true := by
  constructor
  · intro h
    by_contra hno
    apply h
    apply Nat.zero_of_testBit_eq_false
    intro k
    exact Bool.eq_false_iff.2 fun hk => hno ⟨k, hk⟩
  · rintro ⟨k, hk⟩ rfl
    simp at hk

theorem exists_spanned_iff (hR : Forward R) : (∃ k, Spanned R o k) ↔ ∃ o', R o o' := by
  constructor
  · rintro ⟨k, w, o', -, -, h⟩
    exact ⟨o', h⟩
  · rintro ⟨o', h⟩
    obtain ⟨w, hw⟩ := hR o o' h
    exact ⟨w.length, w, o', rfl, hw, h⟩

theorem Marks.any_ne_zero_iff (hR : Forward R) (h : Marks R places s) :
    s.any (· ≠ 0) = true ↔ ∃ o ∈ places, ∃ o', R o o' := by
  induction places generalizing s with
  | nil =>
    obtain rfl := List.forall₂_nil_left_iff.1 h
    simp
  | cons o places ih =>
    obtain ⟨n, ns, hn, hns, rfl⟩ := List.forall₂_cons_left_iff.1 h
    have hfirst : n ≠ 0 ↔ ∃ o', R o o' := by
      rw [ne_zero_iff_exists_testBit, ← exists_spanned_iff hR]
      exact exists_congr hn
    rw [List.any_cons, Bool.or_eq_true, ih hns, decide_eq_true_eq, hfirst]
    simp

/-- A search finds a match exactly where the pattern matches some part of the text. -/
theorem isMatch_iff_occurs (p : Pattern) (text : List Char) :
    p.isMatch text = true ↔ p.Occurs text := by
  rw [isMatch, (marks_spans p none text).any_ne_zero_iff (matches_forward p)]
  simp only [mem_outlooks_iff]
  constructor
  · rintro ⟨o, ⟨w, hw⟩, o', h⟩
    exact ⟨w, o, o', hw, h⟩
  · rintro ⟨w, o, o', hw, h⟩
    exact ⟨o, ⟨w, hw⟩, o', h⟩

theorem begins_iff (p : Pattern) (text : List Char) :
    p.Begins text ↔ ∃ n ∈ (p.spans (outlooks none text)).head?, n ≠ 0 := by
  have hmarks := marks_spans p none text
  obtain ⟨places, hplaces⟩ : ∃ places, outlooks none text = (none, text) :: places := by
    cases text <;> exact ⟨_, rfl⟩
  rw [hplaces] at hmarks ⊢
  obtain ⟨n, ns, hn, -, hspans⟩ := List.forall₂_cons_left_iff.1 hmarks
  have hfirst : n ≠ 0 ↔ p.Begins text := by
    rw [ne_zero_iff_exists_testBit, Begins, ← exists_spanned_iff (matches_forward p)]
    exact exists_congr hn
  simp [hspans, hfirst]

instance (p : Pattern) (text : List Char) : Decidable (p.Begins text) :=
  decidable_of_iff _ (begins_iff p text).symm

end WarehouseAdapter.Pattern
