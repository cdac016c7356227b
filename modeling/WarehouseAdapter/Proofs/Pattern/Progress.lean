import Mathlib
import WarehouseAdapter.Pattern.Reading

/-!
# Readers of patterns make progress

What a reader leaves is an end of what it was given, and the readers of single parts take at least
one character. Fuel beyond the number of characters therefore changes nothing, and a body that is
read as a part of a longer text is read as it is by itself.
-/

namespace WarehouseAdapter.Pattern

variable {s r t : List Char} {m : Mode} {c : Char} {d : SetDraft}

theorem suffix_of_dropWhile_eq_cons {p : Char → Bool} (h : s.dropWhile p = c :: r) : r <:+ s :=
  (List.suffix_cons c r).trans (h ▸ List.dropWhile_suffix p)

theorem suffix_of_readHex? {count : ℕ} (h : readHex? count s = some (c, r)) : r <:+ s := by
  unfold readHex? at h
  split at h
  case h_1 t =>
    split at h
    case h_1 hrest =>
      obtain ⟨e, -, he⟩ := Option.map_eq_some_iff.1 h
      cases he
      exact (suffix_of_dropWhile_eq_cons hrest).trans (List.suffix_cons _ _)
    case h_2 => cases h
  case h_2 =>
    split_ifs at h
    obtain ⟨e, -, he⟩ := Option.map_eq_some_iff.1 h
    cases he
    exact List.drop_suffix _ _

theorem suffix_of_readBoundary? {e : Escape} (h : readBoundary? s = some (e, r)) : r <:+ s := by
  unfold readBoundary? at h
  split at h
  case h_1 t =>
    dsimp only at h
    split at h
    case h_1 => cases h
    case h_2 =>
      cases h
      exact List.suffix_rfl
    case h_3 hrest _ =>
      obtain ⟨a, -, ha⟩ := Option.map_eq_some_iff.1 h
      cases ha
      exact (suffix_of_dropWhile_eq_cons hrest).trans (List.suffix_cons _ _)
    case h_4 => cases h
  case h_2 =>
    cases h
    exact List.suffix_rfl

theorem suffix_of_readEscape? {e : Escape} (h : readEscape? m s = some (e, r)) :
    r <:+ s.tail := by
  unfold readEscape? at h
  split at h
  case h_1 => cases h
  case h_5 => exact suffix_of_readBoundary? h
  case h_6 =>
    obtain ⟨e, -, he⟩ := Option.map_eq_some_iff.1 h
    cases he
    exact List.suffix_rfl
  all_goals
    obtain ⟨⟨c, t⟩, hc, ht⟩ := Option.map_eq_some_iff.1 h
    cases ht
    exact suffix_of_readHex? hc

theorem suffix_of_readFlags? {value : Bool} {seen seen' : List Char} {m' : Mode}
    (h : readFlags? m value seen s = some (m', seen', r)) : r <:+ s := by
  induction s generalizing m value seen with
  | nil => cases h
  | cons c s ih =>
    unfold readFlags? at h
    split at h
    case h_1 heq => cases heq
    case h_2 heq =>
      cases heq
      split_ifs at h
      cases h
      exact List.suffix_rfl
    case h_3 heq =>
      cases heq
      split_ifs at h
      cases h
      exact List.suffix_rfl
    case h_4 heq =>
      cases heq
      split_ifs at h
      · exact (ih h).trans (List.suffix_cons _ _)
      · split at h
        · exact (ih h).trans (List.suffix_cons _ _)
        · cases h

theorem suffix_readNegation (s : List Char) : (readNegation s).2 <:+ s := by
  unfold readNegation
  split
  · exact List.suffix_cons _ _
  · exact List.suffix_rfl

theorem suffix_of_readAsciiClass? {set : CharSet} (h : readAsciiClass? m s = some (set, r)) :
    r <:+ s := by
  apply List.IsSuffix.trans _ (suffix_readNegation s)
  unfold readAsciiClass? at h
  dsimp only at h
  split at h
  case h_1 hrest =>
    obtain ⟨e, -, he⟩ := Option.map_eq_some_iff.1 h
    cases he
    exact (List.suffix_cons _ _).trans (suffix_of_dropWhile_eq_cons hrest)
  case h_2 => cases h

theorem suffix_of_readNamedClass? {set : CharSet} (h : readNamedClass? m s = some (set, r)) :
    r <:+ s := by
  unfold readNamedClass? at h
  split at h
  case h_1 => exact (suffix_of_readAsciiClass? h).trans (List.suffix_cons _ _)
  case h_2 => cases h

theorem suffix_of_readSetItem? {e : Escape} (h : readSetItem? m s = some (e, r)) :
    r <:+ s.tail := by
  unfold readSetItem? at h
  split at h
  case h_1 t =>
    split at h
    case h_1 => cases h
    case h_2 => exact (suffix_of_readEscape? h).trans (List.tail_suffix t)
  case h_2 =>
    cases h
    exact List.suffix_rfl
  case h_3 => cases h

theorem suffix_of_readRangeEnd? {low : Escape} {set : CharSet}
    (h : readRangeEnd? m low s = some (set, r)) : r <:+ s := by
  unfold readRangeEnd? at h
  split at h
  case h_1 c u =>
    split_ifs at h
    · cases h
      exact List.suffix_rfl
    · obtain ⟨⟨high, v⟩, hhigh, h⟩ := Option.bind_eq_some_iff.1 h
      have hv : v <:+ u := suffix_of_readSetItem? hhigh
      obtain ⟨range, -, hrange⟩ := Option.map_eq_some_iff.1 h
      cases hrange
      exact (hv.trans (List.suffix_cons _ _)).trans (List.suffix_cons _ _)
  case h_2 =>
    cases h
    exact List.suffix_rfl

theorem suffix_of_readSetRange? {set : CharSet} (h : readSetRange? m s = some (set, r)) :
    r <:+ s.tail := by
  obtain ⟨⟨low, t⟩, hlow, h⟩ := Option.bind_eq_some_iff.1 h
  exact (suffix_of_readRangeEnd? h).trans (suffix_of_readSetItem? hlow)

theorem suffix_of_readMember? {token : SetToken} (h : readMember? m s = some (token, r)) :
    r <:+ s.tail := by
  unfold readMember? at h
  split_ifs at h
  · cases h
    exact List.suffix_rfl
  · obtain ⟨⟨set, u⟩, hset, hu⟩ := Option.map_eq_some_iff.1 h
    cases hu
    exact suffix_of_readSetRange? hset

theorem suffix_of_readSetToken? {token : SetToken} (h : readSetToken? m s = some (token, r)) :
    r <:+ s.tail := by
  unfold readSetToken? at h
  split at h
  case h_1 =>
    cases h
    exact List.suffix_rfl
  case h_5 =>
    split at h
    case h_1 hset =>
      cases h
      exact suffix_of_readNamedClass? hset
    case h_2 =>
      cases h
      exact List.suffix_rfl
  case h_6 => exact suffix_of_readMember? h
  all_goals
    cases h
    exact List.suffix_cons _ _

theorem suffix_start (s : List Char) : (SetDraft.start s).2 <:+ s := by
  apply List.IsSuffix.trans _ (suffix_readNegation s)
  change (SetDraft.readPlain _).2 <:+ _
  unfold SetDraft.readPlain
  split
  case h_1 hrest => exact suffix_of_dropWhile_eq_cons hrest
  case h_2 => exact List.dropWhile_suffix _

theorem suffix_of_followSet? {rest : SetDraft → List Char → Option (Nested CharSet × List Char)}
    (hrest : ∀ d s set r, rest d s = some (set, r) → r <:+ s) {token : SetToken}
    {set : Nested CharSet} (h : followSet? rest m d token s = some (set, r)) : r <:+ s := by
  cases token with
  | closing =>
    obtain ⟨set, -, hset⟩ := Option.map_eq_some_iff.1 h
    cases hset
    exact List.suffix_rfl
  | opening =>
    obtain ⟨⟨inner, u⟩, hinner, h⟩ := Option.bind_eq_some_iff.1 h
    exact ((hrest _ _ _ _ h).trans (hrest _ _ _ _ hinner)).trans (suffix_start s)
  | operator | members | skipped => exact hrest _ _ _ _ h

theorem suffix_of_readMembers? {fuel : ℕ} {set : Nested CharSet}
    (h : readMembers? fuel m d s = some (set, r)) : r <:+ s := by
  induction fuel generalizing d s r set with
  | zero => cases h
  | succ fuel ih =>
    obtain ⟨⟨token, t⟩, htoken, h⟩ := Option.bind_eq_some_iff.1 h
    have htoken := (suffix_of_readSetToken? htoken).trans (List.tail_suffix s)
    exact (suffix_of_followSet? (fun _ _ _ _ => ih) h).trans htoken

/-- Something is taken of a text that is not empty. -/
theorem length_lt_of_suffix_tail (h : r <:+ s.tail) (hs : s ≠ []) : r.length < s.length := by
  have hlength := h.length_le
  have hpos := List.length_pos_iff.2 hs
  rw [List.length_tail] at hlength
  omega

theorem followSet?_congr {rest rest' : SetDraft → List Char → Option (Nested CharSet × List Char)}
    (hrest : ∀ d s set r, rest' d s = some (set, r) → r <:+ s)
    (h : ∀ d r, r.length ≤ s.length → rest d r = rest' d r) (token : SetToken) :
    followSet? rest m d token s = followSet? rest' m d token s := by
  cases token with
  | closing => rfl
  | opening =>
    have hstart := (suffix_start s).length_le
    dsimp only [followSet?]
    rw [h _ _ hstart]
    apply Option.bind_congr
    rintro ⟨set, r⟩ hset
    exact h _ _ ((hrest _ _ _ _ hset).length_le.trans hstart)
  | operator | members | skipped => exact h _ _ le_rfl

theorem readMembers?_congr {n k : ℕ} (hn : s.length < n) (hk : s.length < k) :
    readMembers? n m d s = readMembers? k m d s := by
  induction n generalizing k d s with
  | zero => omega
  | succ n ih =>
    obtain ⟨k, rfl⟩ : ∃ j, k = j + 1 := ⟨k - 1, by omega⟩
    apply Option.bind_congr
    rintro ⟨token, t⟩ htoken
    have hs : s ≠ [] := by
      rintro rfl
      cases htoken
    have ht := length_lt_of_suffix_tail (suffix_of_readSetToken? htoken) hs
    refine followSet?_congr (fun _ _ _ _ => suffix_of_readMembers?) (fun d r hr => ?_) token
    exact ih (by omega) (by omega)

theorem suffix_skipBlank (s : List Char) : skipBlank s <:+ s := List.dropWhile_suffix _

theorem suffix_of_readCount? {n : ℕ} (h : readCount? s = some (n, r)) : r <:+ s := by
  unfold readCount? at h
  dsimp only at h
  split_ifs at h
  cases h
  exact ((suffix_skipBlank _).trans (List.dropWhile_suffix _)).trans (suffix_skipBlank s)

theorem suffix_of_readMost? {least : ℕ} {bounds : ℕ × Option ℕ}
    (h : readMost? least s = some (bounds, r)) : r <:+ s := by
  unfold readMost? at h
  split at h
  case h_1 =>
    cases h
    exact List.suffix_cons _ _
  case h_2 =>
    cases h
    exact (List.suffix_cons _ _).trans (List.suffix_cons _ _)
  case h_3 t _ =>
    obtain ⟨⟨most, u⟩, hmost, h⟩ := Option.bind_eq_some_iff.1 h
    apply List.IsSuffix.trans _ ((suffix_of_readCount? hmost).trans (List.suffix_cons ',' t))
    dsimp only at h
    unfold endBounds? at h
    split at h
    case h_1 =>
      split_ifs at h
      cases h
      exact List.suffix_cons _ _
    case h_2 => cases h
  case h_4 => cases h

theorem suffix_of_readBounds? {bounds : ℕ × Option ℕ} (h : readBounds? s = some (bounds, r)) :
    r <:+ s := by
  obtain ⟨⟨least, t⟩, hleast, h⟩ := Option.bind_eq_some_iff.1 h
  exact (suffix_of_readMost? h).trans (suffix_of_readCount? hleast)

theorem suffix_skipLazy (s : List Char) : skipLazy s <:+ s := by
  unfold skipLazy
  split
  · exact List.suffix_cons _ _
  · exact List.suffix_rfl

theorem suffix_of_readGroupName? {head : GroupHead} (h : readGroupName? m s = some (head, r)) :
    r <:+ s := by
  unfold readGroupName? at h
  split at h
  case h_1 hrest =>
    split_ifs at h
    cases h
    exact suffix_of_dropWhile_eq_cons hrest
  case h_2 => cases h

theorem suffix_of_readFlagHead? {head : GroupHead} (h : readFlagHead? m s = some (head, r)) :
    r <:+ s := by
  obtain ⟨⟨m, seen, t⟩, hflags, h⟩ := Option.bind_eq_some_iff.1 h
  apply List.IsSuffix.trans _ (suffix_of_readFlags? hflags)
  dsimp only at h
  unfold endFlags? at h
  split at h
  case h_1 =>
    cases h
    exact List.suffix_cons _ _
  case h_2 =>
    split_ifs at h
    cases h
    exact List.suffix_cons _ _
  case h_3 => cases h

theorem suffix_of_readGroupHead? {head : GroupHead} (h : readGroupHead? m s = some (head, r)) :
    r <:+ s := by
  unfold readGroupHead? at h
  split at h
  case h_5 =>
    exact ((suffix_of_readGroupName? h).trans (List.suffix_cons _ _)).trans (List.suffix_cons _ _)
  case h_6 => exact (suffix_of_readGroupName? h).trans (List.suffix_cons _ _)
  case h_7 => exact suffix_of_readFlagHead? h
  all_goals cases h

theorem suffix_skipLine (s : List Char) : skipLine s <:+ s :=
  (List.drop_suffix 1 _).trans (List.dropWhile_suffix _)

theorem suffix_of_readOther? {token : Token} (h : readOther? m c s = some (token, r)) :
    r <:+ s := by
  unfold readOther? at h
  split_ifs at h
  · cases h
    exact List.suffix_rfl
  · cases h
    exact suffix_skipLine _
  · obtain ⟨p, -, hp⟩ := Option.map_eq_some_iff.1 h
    cases hp
    exact List.suffix_rfl

theorem suffix_of_readToken? {fuel : ℕ} {token : Token}
    (h : readToken? fuel m s = some (token, r)) : r <:+ s.tail := by
  unfold readToken? at h
  split at h
  case h_1 => cases h
  case h_6 =>
    obtain ⟨⟨bounds, t⟩, hbounds, ht⟩ := Option.map_eq_some_iff.1 h
    cases ht
    exact (suffix_skipLazy _).trans (suffix_of_readBounds? hbounds)
  case h_7 =>
    obtain ⟨⟨head, t⟩, hhead, ht⟩ := Option.map_eq_some_iff.1 h
    cases ht
    exact (suffix_of_readGroupHead? hhead).trans (List.suffix_cons '?' _)
  case h_9 =>
    obtain ⟨⟨set, t⟩, hset, ht⟩ := Option.map_eq_some_iff.1 h
    cases ht
    exact (suffix_of_readMembers? hset).trans (suffix_start _)
  case h_10 =>
    obtain ⟨⟨e, t⟩, he, ht⟩ := Option.map_eq_some_iff.1 h
    cases ht
    exact (suffix_of_readEscape? he).trans (List.tail_suffix _)
  case h_11 => exact suffix_of_readOther? h
  all_goals
    cases h
    first
    | exact List.suffix_rfl
    | exact suffix_skipLazy _

theorem readToken?_congr {n k : ℕ} (hn : s.length ≤ n) (hk : s.length ≤ k) :
    readToken? n m s = readToken? k m s := by
  unfold readToken?
  split
  case h_9 r =>
    have hstart := (suffix_start r).length_le
    rw [List.length_cons] at hn hk
    have hset : readSet? n m r = readSet? k m r := readMembers?_congr (by omega) (by omega)
    rw [hset]
  all_goals rfl

section Following

variable {rest rest' : Draft → List Char → Option (Draft × List Char)} {d d' inner : Draft}

theorem suffix_of_followGroup? {numbered : Bool}
    (hrest : ∀ d s d' r, rest d s = some (d', r) → r <:+ s)
    (h : followGroup? rest d numbered inner s = some (d', r)) : r <:+ s := by
  unfold followGroup? at h
  split at h
  case h_1 => exact (hrest _ _ _ _ h).trans (List.suffix_cons _ _)
  case h_2 => cases h

theorem suffix_of_follow? (hrest : ∀ d s d' r, rest d s = some (d', r) → r <:+ s) {token : Token}
    (h : follow? rest d token s = some (d', r)) : r <:+ s := by
  unfold follow? at h
  split at h
  case h_1 =>
    obtain ⟨start, -, h⟩ := Option.bind_eq_some_iff.1 h
    obtain ⟨⟨inner, t⟩, hinner, h⟩ := Option.bind_eq_some_iff.1 h
    exact (suffix_of_followGroup? hrest h).trans (hrest _ _ _ _ hinner)
  case h_2 =>
    obtain ⟨next, -, h⟩ := Option.bind_eq_some_iff.1 h
    exact hrest _ _ _ _ h

theorem followGroup?_congr (h : ∀ d r, r.length ≤ s.length → rest d r = rest' d r)
    (numbered : Bool) :
    followGroup? rest d numbered inner s = followGroup? rest' d numbered inner s := by
  unfold followGroup?
  split
  case h_1 => exact h _ _ (by simp)
  case h_2 => rfl

theorem follow?_congr (hrest : ∀ d s d' r, rest' d s = some (d', r) → r <:+ s)
    (h : ∀ d r, r.length ≤ s.length → rest d r = rest' d r) (d : Draft) (token : Token) :
    follow? rest d token s = follow? rest' d token s := by
  unfold follow?
  split
  case h_1 =>
    apply Option.bind_congr
    intro start _
    rw [h _ _ le_rfl]
    apply Option.bind_congr
    rintro ⟨inner, t⟩ hinner
    have ht := (hrest _ _ _ _ hinner).length_le
    exact followGroup?_congr (fun d r hr => h d r (hr.trans ht)) _
  case h_2 =>
    apply Option.bind_congr
    intro next _
    exact h _ _ le_rfl

end Following

theorem suffix_of_readBody? {fuel : ℕ} {d d' : Draft}
    (h : readBody? fuel d s = some (d', r)) : r <:+ s := by
  induction fuel generalizing d d' s r with
  | zero => cases h
  | succ fuel ih =>
    rw [readBody?] at h
    split_ifs at h
    · cases h
      exact List.suffix_rfl
    · obtain ⟨⟨token, t⟩, htoken, h⟩ := Option.bind_eq_some_iff.1 h
      have htoken := (suffix_of_readToken? htoken).trans (List.tail_suffix s)
      exact (suffix_of_follow? (fun _ _ _ _ => ih) h).trans htoken

/-- More fuel than characters is as good as any. -/
theorem readBody?_congr {n k : ℕ} {d : Draft} (hn : s.length < n) (hk : s.length < k) :
    readBody? n d s = readBody? k d s := by
  induction n generalizing k d s with
  | zero => omega
  | succ n ih =>
    obtain ⟨k, rfl⟩ : ∃ j, k = j + 1 := ⟨k - 1, by omega⟩
    rw [readBody?, readBody?, readToken?_congr (Nat.lt_succ_iff.1 hn) (Nat.lt_succ_iff.1 hk)]
    split_ifs
    · rfl
    · apply Option.bind_congr
      rintro ⟨token, t⟩ htoken
      have hs : s ≠ [] := by
        rintro rfl
        cases htoken
      have ht := length_lt_of_suffix_tail (suffix_of_readToken? htoken) hs
      refine follow?_congr (fun _ _ _ _ => suffix_of_readBody?) (fun d r hr => ?_) d token
      exact ih (by omega) (by omega)

end WarehouseAdapter.Pattern
