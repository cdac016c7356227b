import WarehouseAdapter.Proofs.Calendar.DayNumbers
import WarehouseAdapter.Proofs.Calendar.Rfc3339
import WarehouseAdapter.Proofs.Parameter.ReadBack

/-!
# Local times and instants from one text

A text is read as a local time and as an instant by two readers with the same fallbacks. They accept
the same texts. The instant is the local time less the offset that an RFC 3339 date-time carries,
counted in minutes over the ends of days, months and years, and any other text is read as UTC. So
dates and timestamps take the same texts as parameters and as values, and where no offset moves the
instant both are on the same day.
-/

namespace WarehouseAdapter

namespace DateTime

/-- Minutes from the beginning of the last day before year 0. -/
def minuteNumber (dt : DateTime) : ℤ := 1440 * dt.date.dayNumber + dt.time.minuteOfDay

/-- The reading some minutes earlier, at the same second of the minute, be it a leap second. -/
structure IsEarlierBy (x : DateTime) (minutes : ℤ) (y : DateTime) : Prop where
  minuteNumber_eq : x.minuteNumber = y.minuteNumber - minutes
  second_eq : x.time.second = y.time.second
  nano_eq : x.time.nano = y.time.nano

end DateTime

/-- The text carries no offset, or a zero one. -/
def IsUnshifted (s : String) : Prop :=
  ∀ dt offset, SpellsRfc3339 (trim s.toList) dt offset → offset = 0

/-- How a text is read as a local time and as an instant, on its own and as a date or a timestamp
among parameters and values. -/
structure ReadsAlike (s : String) : Prop where
  readable_iff : (∃ ts, Timestamp.ofText? s = some ts) ↔ ∃ dt, DateTime.ofText? s = some dt
  of_spells (dt : DateTime) (offset : ℤ) : SpellsRfc3339 (trim s.toList) dt offset →
    DateTime.ofText? s = some dt ∧
      ∀ ts, Timestamp.ofText? s = some ts ↔ ts.utc.IsEarlierBy offset dt
  of_not_spells : (∀ dt offset, ¬SpellsRfc3339 (trim s.toList) dt offset) →
    Timestamp.ofText? s = (DateTime.ofText? s).map Timestamp.mk
  binds_iff (name : String) : (∃ b, bindParameter name .date (.str s) = .ok b) ↔
    ∃ b, bindParameter name .timestamp (.str s) = .ok b
  converts_iff : (∃ v, coerce .date (.str s) = .ok v) ↔ ∃ v, coerce .timestamp (.str s) = .ok v
  day_read : IsUnshifted s →
    (Timestamp.ofText? s).map (fun ts => ts.utc.date) = (DateTime.ofText? s).map DateTime.date
  day_bound (name : String) (d : Date) : IsUnshifted s →
    (bindParameter name .date (.str s) = .ok (.scalar name .date (.date d)) ↔
      ∃ ts, bindParameter name .timestamp (.str s) = .ok (.scalar name .timestamp (.timestamp ts)) ∧
        d = ts.utc.date)
  day_converted (d : Date) : IsUnshifted s →
    (coerce .date (.str s) = .ok (.date d) ↔
      ∃ ts, coerce .timestamp (.str s) = .ok (.timestamp ts) ∧ d = ts.utc.date)

variable {s : String} {dt x x' : DateTime} {minutes offset : ℤ} {m : ℕ} {cs : List Char}
  {name : String} {w : WireValue} {b : BoundParameter} {v : Value}

theorem TimeOfDay.minuteOfDay_lt (t : TimeOfDay) : t.minuteOfDay < 1440 := by
  obtain ⟨hhour, hminute, -, -⟩ := t.valid
  unfold minuteOfDay
  omega

theorem TimeOfDay.eq_of_minuteOfDay {t t' : TimeOfDay} (hminute : t.minuteOfDay = t'.minuteOfDay)
    (hsecond : t.second = t'.second) (hnano : t.nano = t'.nano) : t = t' := by
  have hlt := t.valid.2.1
  have hlt' := t'.valid.2.1
  unfold minuteOfDay at hminute
  obtain ⟨hhour, hminute⟩ : t.hour = t'.hour ∧ t.minute = t'.minute := by omega
  cases t
  cases t'
  simp_all

theorem TimeOfDay.exists_atMinute?_eq (t : TimeOfDay) (h : m < 1440) : ∃ t',
    t.atMinute? m = some t' ∧ t'.minuteOfDay = m ∧ t'.second = t.second ∧ t'.nano = t.nano := by
  obtain ⟨-, -, hsecond, hnano⟩ := t.valid
  have hvalid : IsTime (m / 60) (m % 60) t.second t.nano := by omega
  refine ⟨⟨m / 60, m % 60, t.second, t.nano, hvalid⟩, dif_pos hvalid, ?_, rfl, rfl⟩
  simp only [minuteOfDay]
  omega

namespace DateTime

theorem IsEarlierBy.unique (h : x.IsEarlierBy minutes dt) (h' : x'.IsEarlierBy minutes dt) :
    x = x' := by
  have heq := h.minuteNumber_eq.trans h'.minuteNumber_eq.symm
  have hlt := x.time.minuteOfDay_lt
  have hlt' := x'.time.minuteOfDay_lt
  unfold minuteNumber at heq
  have hdate : x.date = x'.date := Date.dayNumber_injective (by omega)
  have htime : x.time = x'.time := TimeOfDay.eq_of_minuteOfDay (by rw [hdate] at heq; omega)
    (h.second_eq.trans h'.second_eq.symm) (h.nano_eq.trans h'.nano_eq.symm)
  cases x
  cases x'
  simp_all

/-- The minute of some day that has the number asked for, at the same second. -/
theorem exists_atMinute?_isEarlierBy {d : Date} (h : m < 1440)
    (hnumber : 1440 * d.dayNumber + m = dt.minuteNumber - minutes) :
    ∃ t, dt.time.atMinute? m = some t ∧ IsEarlierBy ⟨d, t⟩ minutes dt := by
  obtain ⟨t, ht, rfl, hsecond, hnano⟩ := dt.time.exists_atMinute?_eq h
  exact ⟨t, ht, hnumber, hsecond, hnano⟩

/-- A shift by less than a day goes to the day before, the same day or the day after. -/
theorem exists_minus?_eq (hyear : -262143 < dt.date.year ∧ dt.date.year < 262142)
    (hminutes : -1440 < minutes ∧ minutes < 1440) :
    ∃ x, dt.minus? minutes = some x ∧ x.IsEarlierBy minutes dt := by
  have hlt := dt.time.minuteOfDay_lt
  unfold minus?
  dsimp only
  split_ifs with hbefore hsame
  · obtain ⟨d, hd, hday⟩ := Date.exists_previous?_eq hyear.1
    have hnumber : 1440 * d.dayNumber + ((dt.time.minuteOfDay - minutes + 1440).toNat : ℕ) =
        dt.minuteNumber - minutes := by
      unfold minuteNumber
      omega
    obtain ⟨t, ht, hx⟩ := exists_atMinute?_isEarlierBy (by omega) hnumber
    exact ⟨⟨d, t⟩, by rw [hd, ht]; rfl, hx⟩
  · have hnumber : 1440 * dt.date.dayNumber + ((dt.time.minuteOfDay - minutes).toNat : ℕ) =
        dt.minuteNumber - minutes := by
      unfold minuteNumber
      omega
    obtain ⟨t, ht, hx⟩ := exists_atMinute?_isEarlierBy (by omega) hnumber
    exact ⟨⟨dt.date, t⟩, by rw [ht]; rfl, hx⟩
  · obtain ⟨d, hd, hday⟩ := Date.exists_next?_eq hyear.2
    have hnumber : 1440 * d.dayNumber + ((dt.time.minuteOfDay - minutes - 1440).toNat : ℕ) =
        dt.minuteNumber - minutes := by
      unfold minuteNumber
      omega
    obtain ⟨t, ht, hx⟩ := exists_atMinute?_isEarlierBy (by omega) hnumber
    exact ⟨⟨d, t⟩, by rw [hd, ht]; rfl, hx⟩

theorem minus?_eq_some_iff (hyear : -262143 < dt.date.year ∧ dt.date.year < 262142)
    (hminutes : -1440 < minutes ∧ minutes < 1440) :
    dt.minus? minutes = some x ↔ x.IsEarlierBy minutes dt := by
  obtain ⟨x', hx', hearlier⟩ := exists_minus?_eq hyear hminutes
  rw [hx', Option.some_inj]
  exact ⟨fun h => h ▸ hearlier, hearlier.unique⟩

end DateTime

theorem SpellsRfc3339.bounds (h : SpellsRfc3339 cs dt offset) :
    (-262143 < dt.date.year ∧ dt.date.year < 262142) ∧ -1440 < offset ∧ offset < 1440 := by
  obtain ⟨hyear, heq, -, -, -, -, -, -, -, hoffset⟩ := h
  have hlt := hyear.lt
  exact ⟨by omega, hoffset.bounds⟩

theorem ofText?_of_spells (h : SpellsRfc3339 (trim s.toList) dt offset) :
    DateTime.ofText? s = some dt ∧ Timestamp.ofText? s = (dt.minus? offset).map Timestamp.mk := by
  rw [DateTime.ofText?, Timestamp.ofText?, readRfc3339?_eq_some_iff.2 h]
  exact ⟨rfl, rfl⟩

theorem ofText?_of_not_spells (h : ∀ dt offset, ¬SpellsRfc3339 (trim s.toList) dt offset) :
    Timestamp.ofText? s = (DateTime.ofText? s).map Timestamp.mk := by
  have hread : readRfc3339? (trim s.toList) = none :=
    Option.eq_none_iff_forall_ne_some.2 fun p hp => h p.1 p.2 (readRfc3339?_eq_some_iff.1 hp)
  rw [DateTime.ofText?, Timestamp.ofText?, hread]

theorem timestamp_eq_some_iff (h : SpellsRfc3339 (trim s.toList) dt offset) (ts : Timestamp) :
    Timestamp.ofText? s = some ts ↔ ts.utc.IsEarlierBy offset dt := by
  obtain ⟨hyear, hoffset⟩ := h.bounds
  rw [(ofText?_of_spells h).2, ← DateTime.minus?_eq_some_iff hyear hoffset, Option.map_eq_some_iff]
  constructor
  · rintro ⟨x, hx, rfl⟩
    exact hx
  · exact fun hts => ⟨ts.utc, hts, rfl⟩

theorem exists_timestamp_iff :
    (∃ ts, Timestamp.ofText? s = some ts) ↔ ∃ dt, DateTime.ofText? s = some dt := by
  by_cases h : ∃ dt offset, SpellsRfc3339 (trim s.toList) dt offset
  · obtain ⟨dt, offset, hspells⟩ := h
    obtain ⟨hyear, hoffset⟩ := hspells.bounds
    obtain ⟨x, -, hx⟩ := DateTime.exists_minus?_eq hyear hoffset
    have hts := (timestamp_eq_some_iff hspells ⟨x⟩).2 hx
    exact ⟨fun _ => ⟨dt, (ofText?_of_spells hspells).1⟩, fun _ => ⟨⟨x⟩, hts⟩⟩
  · simp only [not_exists] at h
    simp [ofText?_of_not_spells h, Option.map_eq_some_iff]

theorem IsUnshifted.timestamp_eq (h : IsUnshifted s) :
    Timestamp.ofText? s = (DateTime.ofText? s).map Timestamp.mk := by
  by_cases hspells : ∃ dt offset, SpellsRfc3339 (trim s.toList) dt offset
  · obtain ⟨dt, offset, hspells⟩ := hspells
    obtain rfl := h dt offset hspells
    rw [(ofText?_of_spells hspells).1, Option.map_some, timestamp_eq_some_iff hspells]
    exact ⟨(sub_zero _).symm, rfl, rfl⟩
  · simp only [not_exists] at hspells
    exact ofText?_of_not_spells hspells

theorem IsUnshifted.exists_on_iff (h : IsUnshifted s) (d : Date) :
    (∃ dt, DateTime.ofText? s = some dt ∧ d = dt.date) ↔
      ∃ ts, Timestamp.ofText? s = some ts ∧ d = ts.utc.date := by
  simp [h.timestamp_eq, Option.map_eq_some_iff]

theorem bindScalar_date_eq_ok_iff : bindScalar .date (.str s) = .ok w ↔
    ∃ dt, DateTime.ofText? s = some dt ∧ w = .date dt.date := by
  rw [bindScalar]
  cases DateTime.ofText? s <;> simp [eq_comm]

theorem bindScalar_timestamp_eq_ok_iff : bindScalar .timestamp (.str s) = .ok w ↔
    ∃ ts, Timestamp.ofText? s = some ts ∧ w = .timestamp ts := by
  rw [bindScalar]
  cases Timestamp.ofText? s <;> simp [eq_comm]

theorem bindParameter_date_eq_ok_iff : bindParameter name .date (.str s) = .ok b ↔
    ∃ dt, DateTime.ofText? s = some dt ∧ b = .scalar name .date (.date dt.date) := by
  simp [bindParameter_primitive, bindSingle_eq_ok_iff, DataType.role, bindScalar_date_eq_ok_iff,
    WireValue.wireType]

theorem bindParameter_timestamp_eq_ok_iff : bindParameter name .timestamp (.str s) = .ok b ↔
    ∃ ts, Timestamp.ofText? s = some ts ∧ b = .scalar name .timestamp (.timestamp ts) := by
  simp [bindParameter_primitive, bindSingle_eq_ok_iff, DataType.role,
    bindScalar_timestamp_eq_ok_iff, WireValue.wireType]

theorem coerce_date_eq_ok_iff : coerce .date (.str s) = .ok v ↔
    ∃ dt, DateTime.ofText? s = some dt ∧ v = .date dt.date := by
  rw [coerce_primitive_eq_ok_iff]
  cases h : DateTime.ofText? s <;> simp [coercePrimitive, Value.isNull, h, eq_comm]

theorem coerce_timestamp_eq_ok_iff : coerce .timestamp (.str s) = .ok v ↔
    ∃ ts, Timestamp.ofText? s = some ts ∧ v = .timestamp ts := by
  rw [coerce_primitive_eq_ok_iff]
  cases h : Timestamp.ofText? s <;> simp [coercePrimitive, Value.isNull, h, eq_comm]

theorem readsAlike (s : String) : ReadsAlike s where
  readable_iff := exists_timestamp_iff
  of_spells _ _ h := ⟨(ofText?_of_spells h).1, timestamp_eq_some_iff h⟩
  of_not_spells := ofText?_of_not_spells
  binds_iff name := by
    simp [bindParameter_date_eq_ok_iff, bindParameter_timestamp_eq_ok_iff, exists_timestamp_iff]
  converts_iff := by
    simp [coerce_date_eq_ok_iff, coerce_timestamp_eq_ok_iff, exists_timestamp_iff]
  day_read h := by
    rw [h.timestamp_eq, Option.map_map]
    rfl
  day_bound name d h := by
    have hday := h.exists_on_iff d
    simp [bindParameter_date_eq_ok_iff, bindParameter_timestamp_eq_ok_iff, hday]
  day_converted d h := by
    have hday := h.exists_on_iff d
    simp [coerce_date_eq_ok_iff, coerce_timestamp_eq_ok_iff, hday]

/-- A leap second at the end of the last year of four digits, and a date alone. -/
theorem readsAlike_year_end :
    let dt : DateTime := ⟨⟨9999, 12, 31, by decide⟩, ⟨23, 59, 60, 250000000, by decide⟩⟩
    let utc : DateTime := ⟨⟨10000, 1, 1, by decide⟩, ⟨0, 0, 60, 250000000, by decide⟩⟩
    let s := " 9999-12-31t23:59:60.25-00:01"
    SpellsRfc3339 (trim s.toList) dt (-1) ∧ DateTime.ofText? s = some dt ∧
      Timestamp.ofText? s = some ⟨utc⟩ ∧ IsUnshifted "2020-02-29" ∧
        ∃ ts, coerce .timestamp (.str "2020-02-29") = .ok (.timestamp ts) ∧
          ⟨2020, 2, 29, by decide⟩ = ts.utc.date := by
  intro dt utc s
  have hread : readRfc3339? (trim s.toList) = some (dt, -1) := by decide +kernel
  have hspells := readRfc3339?_eq_some_iff.1 hread
  obtain ⟨hlocal, hinstant⟩ := (readsAlike s).of_spells dt (-1) hspells
  have hearlier : utc.IsEarlierBy (-1) dt := ⟨by decide, rfl, rfl⟩
  have hunshifted : IsUnshifted "2020-02-29" := by
    intro dt offset h
    have hread : readRfc3339? (trim "2020-02-29".toList) = none := by cbv
    rw [← readRfc3339?_eq_some_iff, hread] at h
    cases h
  have hday : DateTime.ofText? "2020-02-29" = some (.atMidnight ⟨2020, 2, 29, by decide⟩) := by cbv
  have hdate := coerce_date_eq_ok_iff.2 ⟨_, hday, rfl⟩
  exact ⟨hspells, hlocal, (hinstant _).2 hearlier, hunshifted,
    ((readsAlike "2020-02-29").day_converted _ hunshifted).1 hdate⟩

end WarehouseAdapter
