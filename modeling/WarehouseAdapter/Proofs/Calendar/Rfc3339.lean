import Mathlib
import WarehouseAdapter.Calendar.Reading

/-!
# The grammar of RFC 3339

A date-time of RFC 3339 has numbers of a fixed width with marks between them, a fraction of the
second if there is one, and ends in its offset from UTC: a letter, or a sign with hours and minutes.
The reader of such texts accepts just what the grammar derives.
-/

namespace WarehouseAdapter

/-- The text is the number in as many decimal digits as asked for. -/
structure IsNumber (count n : ℕ) (cs : List Char) : Prop where
  length_eq : cs.length = count
  isDigit : ∀ c ∈ cs, c.isDigit = true
  value_eq : digitsValue cs = n

/-- Nanoseconds, and how they are written behind the seconds. -/
inductive SpellsFraction : ℕ → List Char → Prop
  | absent : SpellsFraction 0 []
  | point {ds : List Char} (hne : ds ≠ []) (hdigits : ∀ d ∈ ds, d.isDigit = true) :
    SpellsFraction (fractionNano ds) ('.' :: ds)

/-- Minutes east of UTC, and how they are written at the end of a date-time. -/
inductive SpellsOffset : ℤ → List Char → Prop
  | utc {c : Char} (hc : c = 'Z' ∨ c = 'z') : SpellsOffset 0 [c]
  | clock {sign : Char} {hour minute : ℕ} {hs ms : List Char}
    (hsign : sign = '+' ∨ sign = '-' ∨ sign = '\u2212') (hhour : IsNumber 2 hour hs)
    (hlt : hour < 24) (hminute : IsNumber 2 minute ms) (hlt' : minute < 60) :
    SpellsOffset (if sign = '+' then 60 * hour + minute else -(60 * hour + minute))
      (sign :: (hs ++ ':' :: ms))

/-- The text is an RFC 3339 date-time with this local reading and this offset. -/
inductive SpellsRfc3339 : List Char → DateTime → ℤ → Prop
  | mk {dt : DateTime} {offset : ℤ} {year : ℕ} {t : Char} {ys mos ds hs mis ss fs os : List Char}
    (hyear : IsNumber 4 year ys) (heq : dt.date.year = year)
    (hmonth : IsNumber 2 dt.date.month mos) (hday : IsNumber 2 dt.date.day ds)
    (ht : t = 'T' ∨ t = 't' ∨ t = ' ') (hhour : IsNumber 2 dt.time.hour hs)
    (hminute : IsNumber 2 dt.time.minute mis) (hsecond : IsNumber 2 dt.time.second ss)
    (hfraction : SpellsFraction dt.time.nano fs) (hoffset : SpellsOffset offset os) :
    SpellsRfc3339 (ys ++ '-' :: (mos ++ '-' :: (ds ++ t :: (hs ++ ':' :: (mis ++ ':' ::
      (ss ++ (fs ++ os))))))) dt offset

variable {cs r ds fs : List Char} {count n nano : ℕ} {offset : ℤ} {dt : DateTime} {c : Char}
  {accepts : Char → Bool}

theorem readExactly?_eq_some_iff :
    readExactly? count cs = some (n, r) ↔ ∃ ds, cs = ds ++ r ∧ IsNumber count n ds := by
  unfold readExactly?
  constructor
  · intro h
    dsimp only at h
    split_ifs at h with hds
    rw [Bool.and_eq_true, decide_eq_true_eq, List.all_eq_true] at hds
    obtain ⟨rfl, rfl⟩ := Prod.mk.inj (Option.some.inj h)
    exact ⟨cs.take count, (List.take_append_drop count cs).symm, hds.1, hds.2, rfl⟩
  · rintro ⟨ds, rfl, rfl, hdigits, rfl⟩
    have hall : ds.all Char.isDigit = true := List.all_eq_true.2 hdigits
    simp [hall]

theorem IsNumber.readExactly?_eq (h : IsNumber count n ds) :
    readExactly? count (ds ++ r) = some (n, r) :=
  readExactly?_eq_some_iff.2 ⟨ds, rfl, h⟩

theorem readChar?_eq_some_iff :
    readChar? accepts cs = some (c, r) ↔ cs = c :: r ∧ accepts c = true := by
  cases cs with
  | nil => simp [readChar?]
  | cons d rest =>
    rw [readChar?, List.cons.injEq]
    split_ifs with hd
    · rw [Option.some_inj, Prod.mk.injEq]
      exact ⟨fun h => ⟨h, h.1 ▸ hd⟩, And.left⟩
    · exact ⟨nofun, fun h => absurd (h.1.1 ▸ h.2) hd⟩

theorem digitsValue_concat (ds : List Char) (c : Char) :
    digitsValue (ds ++ [c]) = 10 * digitsValue ds + (c.toNat - 48) := by
  rw [digitsValue, List.foldl_append]
  rfl

theorem digitsValue_lt (h : ∀ c ∈ ds, c.isDigit = true) : digitsValue ds < 10 ^ ds.length := by
  induction ds using List.reverseRecOn with
  | nil => decide
  | append_singleton ds c ih =>
    have hrest := ih fun d hd => h d (List.mem_append_left _ hd)
    have hlast : c.toNat - 48 < 10 := by
      have hc := h c (by simp)
      simp only [Char.isDigit, Bool.and_eq_true, decide_eq_true_eq, UInt32.le_iff_toNat_le] at hc
      have h57 : c.toNat ≤ 57 := hc.2
      omega
    rw [digitsValue_concat, List.length_append, List.length_singleton, pow_succ]
    omega

theorem IsNumber.lt (h : IsNumber count n ds) : n < 10 ^ count := by
  rw [← h.value_eq, ← h.length_eq]
  exact digitsValue_lt h.isDigit

/-- A number and the mark behind it, and then the rest. -/
theorem bind_numberBefore_eq_some_iff {α : Type} {x : α}
    {f : ℕ × List Char → Char × List Char → Option α} :
    (do
      let p ← readExactly? count cs
      let q ← readChar? accepts p.2
      f p q) = some x ↔
      ∃ n ds c r, cs = ds ++ c :: r ∧ IsNumber count n ds ∧ accepts c = true ∧
        f (n, c :: r) (c, r) = some x := by
  constructor
  · intro h
    obtain ⟨⟨n, r⟩, hnumber, h⟩ := Option.bind_eq_some_iff.1 h
    obtain ⟨⟨c, r⟩, hmark, hrest⟩ := Option.bind_eq_some_iff.1 h
    obtain ⟨rfl, haccepts⟩ := readChar?_eq_some_iff.1 hmark
    obtain ⟨ds, rfl, hds⟩ := readExactly?_eq_some_iff.1 hnumber
    exact ⟨n, ds, c, r, rfl, hds, haccepts, hrest⟩
  · rintro ⟨n, ds, c, r, rfl, hnumber, hmark, hrest⟩
    refine Option.bind_eq_some_iff.2 ⟨(n, c :: r), hnumber.readExactly?_eq, ?_⟩
    exact Option.bind_eq_some_iff.2 ⟨(c, r), readChar?_eq_some_iff.2 ⟨rfl, hmark⟩, hrest⟩

theorem exists_of_readFraction? (h : readFraction? cs = some (nano, r)) :
    ∃ fs, cs = fs ++ r ∧ SpellsFraction nano fs := by
  unfold readFraction? at h
  split at h
  case h_1 rest =>
    obtain ⟨hne, h⟩ := Option.ite_none_left_eq_some.1 h
    obtain ⟨rfl, rfl⟩ := Prod.mk.inj (Option.some.inj h)
    refine ⟨'.' :: rest.takeWhile Char.isDigit, ?_, .point ?_ ?_⟩
    · exact congrArg _ List.takeWhile_append_dropWhile.symm
    · exact fun h => hne (List.isEmpty_iff.2 h)
    · exact fun d hd => List.mem_takeWhile_imp hd
  case h_2 =>
    obtain ⟨rfl, rfl⟩ := Prod.mk.inj (Option.some.inj h)
    exact ⟨[], rfl, .absent⟩

/-- No digit and no point, which would belong to the fraction. -/
def EndsFraction (cs : List Char) : Prop := ∀ c ∈ cs.head?, c.isDigit = false ∧ c ≠ '.'

theorem SpellsFraction.readFraction?_eq (h : SpellsFraction nano fs) (hr : EndsFraction r) :
    readFraction? (fs ++ r) = some (nano, r) := by
  cases h with
  | absent =>
    unfold readFraction?
    split
    case h_1 heq =>
      rw [List.nil_append] at heq
      exact absurd rfl (hr '.' (by rw [heq]; rfl)).2
    case h_2 => rfl
  | @point ds hne hdigits =>
    have hstop : r.takeWhile Char.isDigit = [] ∧ r.dropWhile Char.isDigit = r := by
      cases r with
      | nil => exact ⟨rfl, rfl⟩
      | cons c r => simp [(hr c rfl).1]
    have hspan : spanDigits (ds ++ r) = (ds, r) := by
      rw [spanDigits, List.takeWhile_append_of_pos hdigits, List.dropWhile_append_of_pos hdigits,
        hstop.1, hstop.2, List.append_nil]
    rw [List.cons_append, readFraction?, hspan]
    simp [hne]

theorem SpellsOffset.endsFraction (h : SpellsOffset offset cs) : EndsFraction cs := by
  intro c hc
  cases h with
  | utc hz =>
    obtain rfl : _ = c := Option.some.inj hc
    rcases hz with rfl | rfl <;> decide
  | clock hsign =>
    obtain rfl : _ = c := Option.some.inj hc
    rcases hsign with rfl | rfl | rfl <;> decide

theorem spellsOffset_of_readOffset? (h : readOffset? cs = some offset) :
    SpellsOffset offset cs := by
  unfold readOffset? at h
  split at h
  case h_1 c =>
    obtain ⟨hz, h⟩ := Option.ite_none_right_eq_some.1 h
    obtain rfl := Option.some.inj h
    exact .utc (by simpa using hz)
  case h_2 =>
    obtain ⟨⟨sign, r⟩, hfirst, h⟩ := Option.bind_eq_some_iff.1 h
    simp only [bind_numberBefore_eq_some_iff] at h
    obtain ⟨hour, hs, colon, r, rfl, hhour, hcolon, h⟩ := h
    obtain ⟨⟨minute, r⟩, hlast, h⟩ := Option.bind_eq_some_iff.1 h
    obtain ⟨hend, h⟩ := Option.ite_none_right_eq_some.1 h
    obtain rfl := Option.some.inj h
    obtain ⟨rfl, hsign⟩ := readChar?_eq_some_iff.1 hfirst
    obtain rfl := of_decide_eq_true hcolon
    obtain ⟨ms, rfl, hminute⟩ := readExactly?_eq_some_iff.1 hlast
    simp only [Bool.and_eq_true, List.isEmpty_iff, decide_eq_true_eq] at hend
    obtain ⟨⟨rfl, hlt⟩, hlt'⟩ := hend
    rw [List.append_nil]
    exact .clock (by simpa [or_assoc] using hsign) hhour hlt hminute hlt'

theorem SpellsOffset.readOffset?_eq (h : SpellsOffset offset cs) :
    readOffset? cs = some offset := by
  cases h with
  | utc hz =>
    rw [readOffset?, if_pos (by simpa using hz)]
  | @clock sign hour minute hs ms hsign hhour hlt hminute hlt' =>
    unfold readOffset?
    split
    case h_1 heq => simp at heq
    case h_2 =>
      refine Option.bind_eq_some_iff.2 ⟨(sign, hs ++ ':' :: ms), ?_, ?_⟩
      · exact readChar?_eq_some_iff.2 ⟨rfl, by simpa [or_assoc] using hsign⟩
      · simp only [bind_numberBefore_eq_some_iff]
        refine ⟨hour, hs, ':', ms, rfl, hhour, rfl, ?_⟩
        have hread := hminute.readExactly?_eq (r := [])
        rw [List.append_nil] at hread
        refine Option.bind_eq_some_iff.2 ⟨(minute, []), hread, ?_⟩
        simp [hlt, hlt']

/-- An offset is less than a day. -/
theorem SpellsOffset.bounds (h : SpellsOffset offset cs) : -1440 < offset ∧ offset < 1440 := by
  cases h with
  | utc => decide
  | clock hsign hhour hlt hminute hlt' => split_ifs <;> omega

theorem Reading.dateTime?_eq_some_iff {reading : Reading} : reading.dateTime? = some dt ↔
    dt.date.year = reading.year ∧ dt.date.month = reading.month ∧ dt.date.day = reading.day ∧
      dt.time.hour = reading.hour ∧ dt.time.minute = reading.minute ∧
      dt.time.second = reading.second ∧ dt.time.nano = reading.nano := by
  unfold Reading.dateTime? Date.of? TimeOfDay.of?
  constructor
  · intro h
    obtain ⟨date, hdate, h⟩ := Option.bind_eq_some_iff.1 h
    obtain ⟨time, htime, h⟩ := Option.bind_eq_some_iff.1 h
    obtain ⟨_, hdate⟩ := Option.dite_none_right_eq_some.1 hdate
    obtain ⟨_, htime⟩ := Option.dite_none_right_eq_some.1 htime
    obtain rfl := Option.some.inj hdate
    obtain rfl := Option.some.inj htime
    obtain rfl := Option.some.inj h
    exact ⟨rfl, rfl, rfl, rfl, rfl, rfl, rfl⟩
  · obtain ⟨year, month, day, hour, minute, second, nano⟩ := reading
    rintro ⟨rfl, rfl, rfl, rfl, rfl, rfl, rfl⟩
    rw [dif_pos dt.date.valid, dif_pos dt.time.valid]
    rfl

theorem readRfc3339?_eq_some_iff :
    readRfc3339? cs = some (dt, offset) ↔ SpellsRfc3339 cs dt offset := by
  simp only [readRfc3339?, bind_numberBefore_eq_some_iff]
  constructor
  · rintro ⟨year, ys, y, r, rfl, hyear, hy, month, mos, mo, r, rfl, hmonth, hmo, day, ds, t, r, rfl,
      hday, ht, hour, hs, ho, r, rfl, hhour, hho, minute, mis, mi, r, rfl, hminute, hmi, h⟩
    obtain ⟨⟨second, r⟩, hsecond, h⟩ := Option.bind_eq_some_iff.1 h
    obtain ⟨⟨nano, r⟩, hnano, h⟩ := Option.bind_eq_some_iff.1 h
    obtain ⟨d, hoffset, h⟩ := Option.bind_eq_some_iff.1 h
    obtain ⟨dt', hdt, h⟩ := Option.bind_eq_some_iff.1 h
    obtain ⟨rfl, rfl⟩ := Prod.mk.inj (Option.some.inj h)
    obtain ⟨ss, rfl, hss⟩ := readExactly?_eq_some_iff.1 hsecond
    obtain ⟨fs, rfl, hfs⟩ := exists_of_readFraction? hnano
    obtain ⟨heq, rfl, rfl, rfl, rfl, rfl, rfl⟩ := Reading.dateTime?_eq_some_iff.1 hdt
    obtain rfl := of_decide_eq_true hy
    obtain rfl := of_decide_eq_true hmo
    obtain rfl := of_decide_eq_true hho
    obtain rfl := of_decide_eq_true hmi
    have ht : t = 'T' ∨ t = 't' ∨ t = ' ' := by simpa [or_assoc] using ht
    exact .mk hyear heq hmonth hday ht hhour hminute hss hfs (spellsOffset_of_readOffset? hoffset)
  · rintro ⟨hyear, heq, hmonth, hday, ht, hhour, hminute, hsecond, hfraction, hoffset⟩
    refine ⟨_, _, _, _, rfl, hyear, rfl, _, _, _, _, rfl, hmonth, rfl, _, _, _, _, rfl, hday, ?_,
      _, _, _, _, rfl, hhour, rfl, _, _, _, _, rfl, hminute, rfl, ?_⟩
    · simpa [or_assoc] using ht
    · refine Option.bind_eq_some_iff.2 ⟨_, hsecond.readExactly?_eq, ?_⟩
      refine Option.bind_eq_some_iff.2 ⟨_, hfraction.readFraction?_eq hoffset.endsFraction, ?_⟩
      refine Option.bind_eq_some_iff.2 ⟨_, hoffset.readOffset?_eq, ?_⟩
      refine Option.bind_eq_some_iff.2 ⟨dt, Reading.dateTime?_eq_some_iff.2 ?_, rfl⟩
      exact ⟨heq, rfl, rfl, rfl, rfl, rfl, rfl⟩

end WarehouseAdapter
