import Mathlib
import WarehouseAdapter.Pattern.Span

/-!
# What a pattern matches

A place of a text is the character before it with the text behind it. `p.Matches o o'` says that the
pattern `p` matches what stands between the places `o` and `o'`; a repetition matches as many rounds
as its bounds allow, of which the upper one counts as the lower one where it is less.

The matcher keeps, place by place, a number whose binary digits stand for the lengths of the matches
that begin there. It finds a match exactly where there is one. A repetition without an upper bound
needs no more rounds behind the least ones than the text has characters, since a round that takes no
character can be left out.
-/

namespace WarehouseAdapter.Pattern

/-- The word stands between the two places. -/
inductive Between : List Char → Outlook → Outlook → Prop
  | nil (o : Outlook) : Between [] o o
  | cons {w c before cs o} (h : Between w (some c, cs) o) : Between (c :: w) (before, c :: cs) o

abbrev PlaceRel := Outlook → Outlook → Prop

/-- The relation holds along as many places in a row. -/
def Rounds (R : PlaceRel) : ℕ → PlaceRel
  | 0, o, o' => o' = o
  | n + 1, o, o' => ∃ m, R o m ∧ Rounds R n m o'

def Matches : Pattern → PlaceRel
  | empty, o, o' => o' = o
  | words ws, o, o' => ∃ w ∈ ws, Between w o o'
  | one set, o, o' => ∃ c, set.contains c = true ∧ Between [c] o o'
  | anchor a, o, o' => a.holds o.1 o.2.head? = true ∧ o' = o
  | seq p q, o, o' => ∃ m, p.Matches o m ∧ q.Matches m o'
  | alt p q, o, o' => p.Matches o o' ∨ q.Matches o o'
  | repeated least most p, o, o' =>
    ∃ n, least ≤ n ∧ (∀ m ∈ most, n ≤ max least m) ∧ Rounds p.Matches n o o'
  | group p, o, o' => p.Matches o o'

/-- The pattern matches some beginning of the text, maybe an empty one. -/
def Begins (p : Pattern) (text : List Char) : Prop := ∃ o, p.Matches (none, text) o

/-- The pattern matches some part of the text. -/
def Occurs (p : Pattern) (text : List Char) : Prop :=
  ∃ w o o', Between w (none, text) o ∧ p.Matches o o'

variable {R : PlaceRel} {o o' m : Outlook} {w v text : List Char} {before : Option Char}
  {n k : ℕ} {p q : Pattern}

/-- Every step leads on in the text. -/
def Forward (R : PlaceRel) : Prop := ∀ o o', R o o' → ∃ w, Between w o o'

theorem Between.append (h : Between w o m) (h' : Between v m o') : Between (w ++ v) o o' := by
  induction h with
  | nil => exact h'
  | cons _ ih => exact .cons (ih h')

theorem Between.length_eq (h : Between w o o') : o.2.length = w.length + o'.2.length := by
  induction h with
  | nil => simp
  | cons _ ih =>
    simp only [List.length_cons] at ih ⊢
    omega

theorem Between.eq_nil (h : Between w o o) : w = [] := by
  have hlength := h.length_eq
  apply List.length_eq_zero_iff.1
  omega

theorem Between.eq_append (h : Between w o o') : o.2 = w ++ o'.2 := by
  induction h with
  | nil => rfl
  | cons _ ih => exact congrArg _ ih

theorem Between.word_unique (h : Between w o o') (h' : Between v o o') : w = v :=
  List.append_cancel_right (h.eq_append.symm.trans h'.eq_append)

theorem Between.eq_of_length_eq (h : Between w o m) (h' : Between v o o')
    (hlength : w.length = v.length) : o' = m := by
  induction h generalizing v with
  | nil =>
    obtain rfl := List.length_eq_zero_iff.1 hlength.symm
    cases h'
    rfl
  | cons _ ih =>
    cases h' with
    | nil => cases hlength
    | cons h' => exact ih h' (Nat.succ.inj hlength)

theorem exists_between_iff : (∃ o', Between w (before, text) o') ↔ w <+: text := by
  induction w generalizing before text with
  | nil => exact ⟨fun _ => List.nil_prefix, fun _ => ⟨_, .nil _⟩⟩
  | cons c w ih =>
    constructor
    · rintro ⟨o', h⟩
      exact ⟨o'.2, h.eq_append.symm⟩
    · intro h
      obtain ⟨rest, rfl⟩ := h
      obtain ⟨o', ho'⟩ := ih.2 (List.prefix_append w rest)
      exact ⟨o', .cons ho'⟩

theorem mem_outlooks_iff : o ∈ outlooks before text ↔ ∃ w, Between w (before, text) o := by
  induction text generalizing before with
  | nil =>
    rw [outlooks, List.mem_singleton]
    constructor
    · rintro rfl
      exact ⟨[], .nil _⟩
    · rintro ⟨w, h⟩
      cases h
      rfl
  | cons c cs ih =>
    rw [outlooks, List.mem_cons, ih]
    constructor
    · rintro (rfl | ⟨w, h⟩)
      · exact ⟨[], .nil _⟩
      · exact ⟨c :: w, .cons h⟩
    · rintro ⟨w, h⟩
      cases h with
      | nil => exact .inl rfl
      | cons h => exact .inr ⟨_, h⟩

theorem length_outlooks (before : Option Char) (text : List Char) :
    (outlooks before text).length = text.length + 1 := by
  induction text generalizing before with
  | nil => rfl
  | cons c cs ih => rw [outlooks, List.length_cons, ih, List.length_cons]

theorem Forward.rounds (h : Forward R) (n : ℕ) : Forward (Rounds R n) := by
  induction n with
  | zero =>
    rintro o _ rfl
    exact ⟨[], .nil _⟩
  | succ n ih =>
    rintro o o' ⟨m, hm, hrest⟩
    obtain ⟨w, hw⟩ := h o m hm
    obtain ⟨v, hv⟩ := ih m o' hrest
    exact ⟨w ++ v, hw.append hv⟩

theorem matches_forward (p : Pattern) : Forward p.Matches := by
  induction p with
  | empty =>
    rintro o _ rfl
    exact ⟨[], .nil _⟩
  | words ws =>
    rintro o o' ⟨w, -, hw⟩
    exact ⟨w, hw⟩
  | one set =>
    rintro o o' ⟨c, -, hc⟩
    exact ⟨[c], hc⟩
  | anchor a =>
    rintro o _ ⟨-, rfl⟩
    exact ⟨[], .nil _⟩
  | seq p q ihp ihq =>
    rintro o o' ⟨m, hp, hq⟩
    obtain ⟨w, hw⟩ := ihp o m hp
    obtain ⟨v, hv⟩ := ihq m o' hq
    exact ⟨w ++ v, hw.append hv⟩
  | alt p q ihp ihq =>
    rintro o o' (hp | hq)
    · exact ihp o o' hp
    · exact ihq o o' hq
  | repeated least most p ih =>
    rintro o o' ⟨n, -, -, hn⟩
    exact ih.rounds n o o' hn
  | group p ih => exact ih

theorem rounds_add_iff : Rounds R (n + k) o o' ↔ ∃ m, Rounds R n o m ∧ Rounds R k m o' := by
  induction n generalizing o with
  | zero => simp [Rounds]
  | succ n ih =>
    rw [Nat.add_right_comm]
    constructor
    · rintro ⟨m, hm, hrest⟩
      obtain ⟨m', hn, hk⟩ := ih.1 hrest
      exact ⟨m', ⟨m, hm, hn⟩, hk⟩
    · rintro ⟨m', ⟨m, hm, hn⟩, hk⟩
      exact ⟨m, hm, ih.2 ⟨m', hn, hk⟩⟩

theorem rounds_optional_iff :
    Rounds (fun o o' => o' = o ∨ R o o') n o o' ↔ ∃ k ≤ n, Rounds R k o o' := by
  induction n generalizing o with
  | zero => simp [Rounds]
  | succ n ih =>
    constructor
    · rintro ⟨m, hm, hrest⟩
      obtain ⟨k, hk, hrounds⟩ := ih.1 hrest
      rcases hm with rfl | hm
      · exact ⟨k, by omega, hrounds⟩
      · exact ⟨k + 1, by omega, m, hm, hrounds⟩
    · rintro ⟨k, hk, hrounds⟩
      cases k with
      | zero => exact ⟨o, .inl rfl, ih.2 ⟨0, by omega, hrounds⟩⟩
      | succ k =>
        obtain ⟨m, hm, hrest⟩ := hrounds
        exact ⟨m, .inr hm, ih.2 ⟨k, by omega, hrest⟩⟩

/-- Rounds that take no character can be left out. -/
theorem exists_rounds_le (hR : Forward R) (h : Rounds R n o o') :
    ∃ k ≤ o.2.length, Rounds R k o o' := by
  induction n generalizing o with
  | zero => exact ⟨0, by omega, h⟩
  | succ n ih =>
    obtain ⟨m, hm, hrest⟩ := h
    obtain ⟨k, hk, hrounds⟩ := ih hrest
    obtain ⟨w, hw⟩ := hR o m hm
    have hlength := hw.length_eq
    cases w with
    | nil =>
      cases hw
      exact ⟨k, hk, hrounds⟩
    | cons c w =>
      rw [List.length_cons] at hlength
      exact ⟨k + 1, by omega, m, hm, hrounds⟩

/-- The patterns match one behind the other. -/
def MatchesAll : List Pattern → PlaceRel
  | [], o, o' => o' = o
  | p :: ps, o, o' => ∃ m, p.Matches o m ∧ MatchesAll ps m o'

theorem matchesAll_singleton : MatchesAll [p] o o' ↔ p.Matches o o' := by
  constructor
  · rintro ⟨m, hm, rfl⟩
    exact hm
  · intro h
    exact ⟨o', h, rfl⟩

theorem matchesAll_append {ps qs : List Pattern} : MatchesAll (ps ++ qs) o o' ↔
    ∃ m, MatchesAll ps o m ∧ MatchesAll qs m o' := by
  induction ps generalizing o with
  | nil => simp [MatchesAll]
  | cons p ps ih =>
    constructor
    · rintro ⟨m, hm, hrest⟩
      obtain ⟨m', hps, hqs⟩ := ih.1 hrest
      exact ⟨m', ⟨m, hm, hps⟩, hqs⟩
    · rintro ⟨m', ⟨m, hm, hps⟩, hqs⟩
      exact ⟨m, hm, ih.2 ⟨m', hps, hqs⟩⟩

theorem matchesAll_parts (p : Pattern) : MatchesAll p.parts o o' ↔ p.Matches o o' := by
  induction p generalizing o with
  | empty => rfl
  | seq p q _ ihq =>
    apply exists_congr
    intro m
    exact and_congr_right fun _ => ihq
  | words | one | anchor | alt | repeated | group => exact matchesAll_singleton

theorem matches_ofParts (ps : List Pattern) : (ofParts ps).Matches o o' ↔ MatchesAll ps o o' := by
  induction ps generalizing o with
  | nil => rfl
  | cons p ps ih =>
    cases ps with
    | nil => exact matchesAll_singleton.symm
    | cons q ps =>
      apply exists_congr
      intro m
      exact and_congr_right fun _ => ih

theorem matches_word : (word w).Matches o o' ↔ Between w o o' := by
  simp [word, Matches]

theorem between_append_iff :
    Between (v ++ w) o o' ↔ ∃ m, Between v o m ∧ Between w m o' := by
  constructor
  · intro h
    induction v generalizing o with
    | nil => exact ⟨o, .nil o, h⟩
    | cons c v ih =>
      cases h with
      | cons h =>
        obtain ⟨m, hv, hw⟩ := ih h
        exact ⟨m, .cons hv, hw⟩
  · rintro ⟨m, hv, hw⟩
    exact hv.append hw

theorem matchesAll_prepend (p : Pattern) (ps : List Pattern) :
    MatchesAll (prepend p ps) o o' ↔ MatchesAll (p :: ps) o o' := by
  unfold prepend
  split
  case h_1 v w ps =>
    simp only [MatchesAll, matches_word, between_append_iff]
    constructor
    · rintro ⟨m, ⟨m', hv, hw⟩, hrest⟩
      exact ⟨m', matches_word.2 hv, m, matches_word.2 hw, hrest⟩
    · rintro ⟨m', hv, m, hw, hrest⟩
      exact ⟨m, ⟨m', matches_word.1 hv, matches_word.1 hw⟩, hrest⟩
  case h_2 => rfl

theorem matchesAll_foldr_prepend (ps : List Pattern) :
    MatchesAll (ps.foldr prepend []) o o' ↔ MatchesAll ps o o' := by
  induction ps generalizing o with
  | nil => rfl
  | cons p ps ih =>
    rw [List.foldr_cons, matchesAll_prepend]
    apply exists_congr
    intro m
    exact and_congr_right fun _ => ih

/-- The normal form of a sequence matches what its members match one behind the other. -/
theorem matches_concat (ps : List Pattern) :
    (concat ps).Matches o o' ↔ MatchesAll ps o o' := by
  rw [concat, matches_ofParts, matchesAll_foldr_prepend]
  induction ps generalizing o with
  | nil => rfl
  | cons p ps ih =>
    rw [List.flatMap_cons, matchesAll_append]
    apply exists_congr
    intro m
    rw [matchesAll_parts, ih]

end WarehouseAdapter.Pattern
