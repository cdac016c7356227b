import WarehouseAdapter.Proofs.Calendar.Rfc3339
import WarehouseAdapter.Proofs.Texts

/-!
# One reading for a text

A mark is a character that a layout reads only where it asks for it: no digit, no blank, no sign and
no point. A layout has each mark in the texts that it reads as often as it asks for it. The five
layouts ask for colons and for a `T` in five different ways, and a date-time of RFC 3339 has a third
colon or a `Z`, for which no layout asks. A text is therefore read in one way at most, in whatever
order the ways are tried.
-/

namespace WarehouseAdapter

open LayoutItem

/-- Not part of what stands for a number in a layout. -/
structure IsMark (c : Char) : Prop where
  not_isDigit : c.isDigit = false
  not_isBlank : isBlank c = false
  not_sign : c ∉ ['+', '-', '.']

variable {cs rest : List Char} {c : Char} {limit n nano : ℕ} {year offset : ℤ} {dt : DateTime}
  {item : LayoutItem} {layout : Layout} {r r' : Reading}

theorem isMark_colon : IsMark ':' := ⟨by decide, by decide, by decide⟩

theorem isMark_date : IsMark 'T' := ⟨by decide, by decide, by decide⟩

theorem isMark_utc (hc : c = 'Z' ∨ c = 'z') : IsMark c := by
  rcases hc with rfl | rfl
  all_goals exact ⟨by decide, by decide, by decide⟩

theorem IsMark.notMem_of_digits {ds : List Char} (hc : IsMark c)
    (hds : ∀ d ∈ ds, d.isDigit = true) : c ∉ ds := by
  intro hmem
  have hdigit := hds c hmem
  rw [hc.not_isDigit] at hdigit
  cases hdigit

theorem IsMark.count_skipBlank (hc : IsMark c) (cs : List Char) :
    (skipBlank cs).count c = cs.count c := by
  obtain ⟨blanks, hblanks, hcs⟩ := exists_blanks_append_skipBlank cs
  have hzero : blanks.count c = 0 := by
    apply List.count_eq_zero.2
    intro hmem
    have hblank := hblanks c hmem
    rw [hc.not_isBlank] at hblank
    cases hblank
  conv_rhs => rw [hcs]
  rw [List.count_append, hzero, Nat.zero_add]

theorem IsMark.count_cons_of_sign {d : Char} (hc : IsMark c) (hd : d ∈ ['+', '-', '.'])
    (cs : List Char) : (d :: cs).count c = cs.count c := by
  apply List.count_cons_of_ne
  rintro rfl
  exact hc.not_sign hd

theorem IsMark.count_readDigits? (hc : IsMark c) (h : readDigits? limit cs = some (n, rest)) :
    cs.count c = rest.count c := by
  have hprefix : (cs.take limit).takeWhile Char.isDigit <+: cs :=
    (List.takeWhile_prefix Char.isDigit).trans (List.take_prefix limit cs)
  have hzero : ((cs.take limit).takeWhile Char.isDigit).count c = 0 :=
    List.count_eq_zero.2 (hc.notMem_of_digits fun _ hd => List.mem_takeWhile_imp hd)
  obtain ⟨-, h⟩ := Option.ite_none_left_eq_some.1 h
  obtain ⟨-, rfl⟩ := Prod.mk.inj (Option.some.inj h)
  have happend := List.prefix_iff_eq_append.1 hprefix
  conv_lhs => rw [← happend]
  rw [List.count_append, hzero, Nat.zero_add]

theorem IsMark.count_readNumber? (hc : IsMark c) (h : readNumber? limit cs = some (n, rest)) :
    cs.count c = rest.count c := by
  rw [← hc.count_skipBlank cs]
  exact hc.count_readDigits? h

theorem IsMark.count_readYear? (hc : IsMark c) (h : readYear? cs = some (year, rest)) :
    cs.count c = rest.count c := by
  rw [← hc.count_skipBlank cs]
  unfold readYear? at h
  split at h
  all_goals
    obtain ⟨⟨n, q⟩, hdigits, he⟩ := Option.map_eq_some_iff.1 h
    obtain ⟨-, rfl⟩ := Prod.mk.inj he
    have hcount := hc.count_readDigits? hdigits
  case h_1 hskip => rw [hskip, hc.count_cons_of_sign (by simp), hcount]
  case h_2 hskip => rw [hskip, hc.count_cons_of_sign (by simp), hcount]
  case h_3 => exact hcount

theorem IsMark.count_readFraction? (hc : IsMark c) (h : readFraction? cs = some (nano, rest)) :
    cs.count c = rest.count c := by
  obtain ⟨fs, rfl, hfs⟩ := exists_of_readFraction? h
  rw [List.count_append]
  cases hfs with
  | absent => rw [List.count_nil, Nat.zero_add]
  | point hne hdigits =>
    have hzero := List.count_eq_zero.2 (hc.notMem_of_digits hdigits)
    rw [hc.count_cons_of_sign (by simp), hzero, Nat.zero_add]

/-- An element of a layout takes a mark if it asks for it, and no other mark. -/
theorem IsMark.count_read_item (hc : IsMark c) (h : item.read? r cs = some (r', rest)) :
    cs.count c = [item].count (exactly c) + rest.count c := by
  cases item with
  | year =>
    obtain ⟨⟨y, q⟩, hread, he⟩ := Option.map_eq_some_iff.1 h
    obtain ⟨-, rfl⟩ := Prod.mk.inj he
    simpa using hc.count_readYear? hread
  | month | day | hour | minute | second =>
    obtain ⟨⟨n, q⟩, hread, he⟩ := Option.map_eq_some_iff.1 h
    obtain ⟨-, rfl⟩ := Prod.mk.inj he
    simpa using hc.count_readNumber? hread
  | fraction =>
    obtain ⟨⟨nano, q⟩, hread, he⟩ := Option.map_eq_some_iff.1 h
    obtain ⟨-, rfl⟩ := Prod.mk.inj he
    simpa using hc.count_readFraction? hread
  | blanks =>
    obtain ⟨-, rfl⟩ := Prod.mk.inj (Option.some.inj h)
    simpa using (hc.count_skipBlank cs).symm
  | exactly d =>
    cases cs with
    | nil => cases h
    | cons e cs =>
      obtain ⟨rfl, hsome⟩ := Option.ite_none_right_eq_some.1 h
      obtain ⟨-, rfl⟩ := Prod.mk.inj (Option.some.inj hsome)
      by_cases he : e = c
      · subst he
        simp [Nat.add_comm]
      · simp [he]

theorem IsMark.count_read_layout (hc : IsMark c) (h : layout.read? r cs = some (r', rest)) :
    cs.count c = layout.count (exactly c) + rest.count c := by
  induction layout generalizing r cs with
  | nil =>
    obtain ⟨-, rfl⟩ := Prod.mk.inj (Option.some.inj h)
    simp
  | cons item layout ih =>
    obtain ⟨⟨q, ds⟩, hitem, hlayout⟩ := Option.bind_eq_some_iff.1 h
    have hfirst := hc.count_read_item hitem
    have hbehind := ih hlayout
    have hcons : (item :: layout).count (exactly c) =
        [item].count (exactly c) + layout.count (exactly c) := by
      rw [← List.count_append, List.singleton_append]
    omega

theorem IsMark.count_eq (hc : IsMark c) (h : layout.dateTime? cs = some dt) :
    cs.count c = layout.count (exactly c) := by
  unfold Layout.dateTime? at h
  split at h
  case h_1 q hread => simpa using hc.count_read_layout hread
  case h_2 => cases h

/-- A date-time of RFC 3339 has marks that no layout asks for. -/
theorem SpellsRfc3339.marks (h : SpellsRfc3339 cs dt offset) :
    3 ≤ cs.count ':' ∨ ∃ c, (c = 'Z' ∨ c = 'z') ∧ 0 < cs.count c := by
  obtain ⟨-, -, -, -, -, -, -, -, -, hoffset⟩ := h
  cases hoffset with
  | @utc c hc =>
    refine .inr ⟨c, hc, List.count_pos_iff.2 ?_⟩
    simp
  | clock =>
    left
    simp only [List.count_append, List.count_cons, beq_self_eq_true, if_true]
    omega

theorem not_spells_of_layout (hlayout : layout ∈ Layout.all) (h : layout.dateTime? cs = some dt) :
    readRfc3339? cs = none := by
  apply Option.eq_none_iff_forall_ne_some.2
  intro x hx
  have hfew : ∀ layout ∈ Layout.all, layout.count (exactly ':') ≤ 2 ∧
      layout.count (exactly 'Z') = 0 ∧ layout.count (exactly 'z') = 0 := by decide
  obtain ⟨hcolons, hZ, hz⟩ := hfew layout hlayout
  have hcolon := isMark_colon.count_eq h
  rcases (readRfc3339?_eq_some_iff.1 hx).marks with hmany | ⟨c, hc, hpos⟩
  · omega
  · have hcount := (isMark_utc hc).count_eq h
    rcases hc with rfl | rfl
    all_goals omega

/-- The ways in which a text may be read: as RFC 3339 and by each layout. -/
def alternatives : List (List Char → Option DateTime) :=
  (fun cs => (readRfc3339? cs).map Prod.fst) :: Layout.all.map fun layout cs => layout.dateTime? cs

/-- One of the two does not read the text. -/
def Apart (cs : List Char) (read read' : List Char → Option DateTime) : Prop :=
  read cs = none ∨ read' cs = none

theorem pairwise_apart (cs : List Char) : alternatives.Pairwise (Apart cs) := by
  have hdiffer : Layout.all.Pairwise fun layout layout' =>
      layout.count (exactly ':') ≠ layout'.count (exactly ':') ∨
        layout.count (exactly 'T') ≠ layout'.count (exactly 'T') := by decide
  refine List.pairwise_cons.2 ⟨?_, List.pairwise_map.2 (hdiffer.imp ?_)⟩
  · intro read hread
    obtain ⟨layout, hlayout, rfl⟩ := List.mem_map.1 hread
    cases h : layout.dateTime? cs with
    | none => exact .inr h
    | some dt =>
      exact .inl (congrArg (Option.map Prod.fst) (not_spells_of_layout hlayout h))
  · intro layout layout' hne
    by_contra hboth
    obtain ⟨h, h'⟩ := not_or.1 hboth
    obtain ⟨dt, hdt⟩ := Option.ne_none_iff_exists'.1 h
    obtain ⟨dt', hdt'⟩ := Option.ne_none_iff_exists'.1 h'
    have hcolons := (isMark_colon.count_eq hdt).symm.trans (isMark_colon.count_eq hdt')
    have hletters := (isMark_date.count_eq hdt).symm.trans (isMark_date.count_eq hdt')
    exact hne.elim (absurd hcolons) (absurd hletters)

/-- Of ways that exclude one another, the first that reads a text is the only one. -/
theorem findSome?_eq_some_iff_of_apart {order : List (List Char → Option DateTime)}
    (h : order.Pairwise (Apart cs)) :
    order.findSome? (fun read => read cs) = some dt ↔ ∃ read ∈ order, read cs = some dt := by
  induction order with
  | nil => simp
  | cons read order ih =>
    obtain ⟨hfirst, hrest⟩ := List.pairwise_cons.1 h
    rw [List.findSome?_cons]
    cases hread : read cs with
    | none => simp [ih hrest, hread]
    | some dt' =>
      have hnone : ∀ read' ∈ order, read' cs ≠ some dt := by
        intro read' hmem
        rcases hfirst read' hmem with hno | hno
        · exact absurd (hread.symm.trans hno) (Option.some_ne_none dt')
        · simp [hno]
      simp only [List.mem_cons, exists_eq_or_imp, hread]
      exact (or_iff_left fun ⟨read', hmem, heq⟩ => hnone read' hmem heq).symm

theorem ofText?_eq_findSome? (s : String) :
    DateTime.ofText? s = alternatives.findSome? fun read => read (trim s.toList) := by
  simp only [DateTime.ofText?, readLayouts?, alternatives, List.findSome?_cons, List.findSome?_map]
  cases readRfc3339? (trim s.toList) with
  | none => rfl
  | some x => rfl

theorem readings_exclusive (s : String) :
    alternatives.Pairwise (Apart (trim s.toList)) ∧
      (∀ dt, DateTime.ofText? s = some dt ↔ ∃ read ∈ alternatives, read (trim s.toList) = some dt) ∧
      ∀ order : List (List Char → Option DateTime), order.Perm alternatives →
        order.findSome? (fun read => read (trim s.toList)) = DateTime.ofText? s := by
  have hapart := pairwise_apart (trim s.toList)
  have hiff : ∀ dt, DateTime.ofText? s = some dt ↔
      ∃ read ∈ alternatives, read (trim s.toList) = some dt := by
    intro dt
    rw [ofText?_eq_findSome?]
    exact findSome?_eq_some_iff_of_apart hapart
  refine ⟨hapart, hiff, fun order hperm => ?_⟩
  have hapart' : order.Pairwise (Apart (trim s.toList)) :=
    (hperm.pairwise_iff fun h => h.symm).2 hapart
  apply Option.ext
  intro dt
  rw [hiff, findSome?_eq_some_iff_of_apart hapart']
  simp only [hperm.mem_iff]

/-- A time that follows its date at once, with the ways tried from the last one. -/
theorem readings_exclusive_backward :
    let dt : DateTime := ⟨⟨2020, 2, 29, by decide⟩, ⟨5, 7, 0, 0, by decide⟩⟩
    alternatives.reverse.Perm alternatives ∧
      alternatives.reverse.findSome? (fun read => read (trim " 2020-02-2905: 7".toList)) =
        some dt := by
  intro dt
  have hperm : alternatives.reverse.Perm alternatives := alternatives.reverse_perm
  have hread : DateTime.ofText? " 2020-02-2905: 7" = some dt := by decide +kernel
  exact ⟨hperm, ((readings_exclusive " 2020-02-2905: 7").2.2 _ hperm).trans hread⟩

end WarehouseAdapter
