import Mathlib
import WarehouseAdapter.Calendar.Basic

/-!
# Numbers of days

The days of the calendar are numbered from the last day before year 0. The number goes up by one
from a day to the next, over the ends of months and years, and no two dates have the same one.
-/

namespace WarehouseAdapter

/-- Days from the first of January of year 0 to that of a year, which may be earlier. -/
def daysBeforeYear (year : ℤ) : ℤ :=
  365 * year + (year + 3) / 4 - (year + 99) / 100 + (year + 399) / 400

/-- Days in the first months of a year. -/
def daysOfMonths (year : ℤ) : ℕ → ℕ
  | 0 => 0
  | month + 1 => daysOfMonths year month + daysInMonth year (month + 1)

def Date.dayNumber (d : Date) : ℤ :=
  daysBeforeYear d.year + daysOfMonths d.year (d.month - 1) + d.day

variable {year : ℤ} {month : ℕ} {d d' : Date}

theorem daysOfMonths_twelve (year : ℤ) :
    daysOfMonths year 12 = if isLeapYear year then 366 else 365 := by
  cases h : isLeapYear year <;> simp [daysOfMonths, daysInMonth, h]

/-- The years with a leap day are those before which a quotient in the formula goes up. -/
theorem daysBeforeYear_succ (year : ℤ) :
    daysBeforeYear (year + 1) = daysBeforeYear year + daysOfMonths year 12 := by
  rw [daysOfMonths_twelve, daysBeforeYear, daysBeforeYear]
  have hleap : isLeapYear year = true ↔ year % 4 = 0 ∧ (year % 100 ≠ 0 ∨ year % 400 = 0) := by
    simp [isLeapYear]
  split_ifs with h
  · rw [hleap] at h
    omega
  · rw [hleap] at h
    omega

theorem daysOfMonths_zero (year : ℤ) : daysOfMonths year 0 = 0 := rfl

theorem daysOfMonths_of_pos (year : ℤ) (h : 1 ≤ month) :
    daysOfMonths year month = daysOfMonths year (month - 1) + daysInMonth year month := by
  obtain ⟨m, rfl⟩ := Nat.exists_eq_add_of_le' h
  rfl

theorem one_le_daysInMonth (year : ℤ) (month : ℕ) : 1 ≤ daysInMonth year month := by
  unfold daysInMonth
  split_ifs <;> decide

theorem daysOfMonths_mono (year : ℤ) : Monotone (daysOfMonths year) :=
  monotone_nat_of_le_succ fun _ => Nat.le_add_right _ _

theorem daysBeforeYear_mono : Monotone daysBeforeYear := by
  refine monotone_int_of_le_succ fun year => ?_
  rw [daysBeforeYear_succ]
  omega

namespace Date

theorem eq_of_parts (hyear : d.year = d'.year) (hmonth : d.month = d'.month)
    (hday : d.day = d'.day) : d = d' := by
  cases d
  cases d'
  simp_all

theorem day_le_daysOfMonths (d : Date) :
    daysOfMonths d.year (d.month - 1) + d.day ≤ daysOfMonths d.year d.month := by
  obtain ⟨-, -, hmonth, -, -, hday⟩ := d.valid
  rw [daysOfMonths_of_pos d.year hmonth]
  exact Nat.add_le_add_left hday _

theorem dayNumber_lt_of_year_lt (h : d.year < d'.year) : d.dayNumber < d'.dayNumber := by
  have hlast := d.day_le_daysOfMonths
  have hyear := daysOfMonths_mono d.year d.valid.2.2.2.1
  have hnext : daysBeforeYear (d.year + 1) ≤ daysBeforeYear d'.year := daysBeforeYear_mono h
  have hday := d'.valid.2.2.2.2.1
  rw [daysBeforeYear_succ] at hnext
  unfold dayNumber
  omega

theorem dayNumber_lt_of_month_lt (hyear : d.year = d'.year) (h : d.month < d'.month) :
    d.dayNumber < d'.dayNumber := by
  have hlast := d.day_le_daysOfMonths
  have hmonth : daysOfMonths d.year d.month ≤ daysOfMonths d.year (d'.month - 1) :=
    daysOfMonths_mono d.year (by omega)
  have hday := d'.valid.2.2.2.2.1
  unfold dayNumber
  rw [← hyear]
  omega

theorem dayNumber_injective : Function.Injective dayNumber := by
  intro d d' h
  have hyear : d.year = d'.year := by
    rcases lt_trichotomy d.year d'.year with hlt | heq | hlt
    · exact absurd h (dayNumber_lt_of_year_lt hlt).ne
    · exact heq
    · exact absurd h (dayNumber_lt_of_year_lt hlt).ne'
  have hmonth : d.month = d'.month := by
    rcases lt_trichotomy d.month d'.month with hlt | heq | hlt
    · exact absurd h (dayNumber_lt_of_month_lt hyear hlt).ne
    · exact heq
    · exact absurd h (dayNumber_lt_of_month_lt hyear.symm hlt).ne'
  refine eq_of_parts hyear hmonth ?_
  unfold dayNumber at h
  rw [hyear, hmonth] at h
  omega

/-- Of the years that the calendar has, only the last one ends without a next day. -/
theorem exists_next?_eq (h : d.year < 262142) :
    ∃ d', d.next? = some d' ∧ d'.dayNumber = d.dayNumber + 1 := by
  obtain ⟨hyear, -, hmonth, hmonth', hday, hday'⟩ := d.valid
  have hmonths := daysOfMonths_of_pos d.year hmonth
  unfold next?
  split_ifs with hinner hnotlast
  · have hvalid : IsDate d.year d.month (d.day + 1) := by omega
    refine ⟨⟨d.year, d.month, d.day + 1, hvalid⟩, dif_pos hvalid, ?_⟩
    simp only [dayNumber]
    omega
  · have hone := one_le_daysInMonth d.year (d.month + 1)
    have hvalid : IsDate d.year (d.month + 1) 1 := by omega
    refine ⟨⟨d.year, d.month + 1, 1, hvalid⟩, dif_pos hvalid, ?_⟩
    simp only [dayNumber, Nat.add_sub_cancel]
    omega
  · have hone := one_le_daysInMonth (d.year + 1) 1
    have hvalid : IsDate (d.year + 1) 1 1 := by omega
    have hlast : d.month = 12 := by omega
    refine ⟨⟨d.year + 1, 1, 1, hvalid⟩, dif_pos hvalid, ?_⟩
    rw [hlast] at hmonths hinner hday'
    simp only [dayNumber, daysBeforeYear_succ, hlast, Nat.sub_self, daysOfMonths_zero]
    omega

theorem exists_previous?_eq (h : -262143 < d.year) :
    ∃ d', d.previous? = some d' ∧ d'.dayNumber = d.dayNumber - 1 := by
  obtain ⟨-, hyear, hmonth, hmonth', hday, hday'⟩ := d.valid
  unfold previous?
  split_ifs with hinner hnotfirst
  · have hvalid : IsDate d.year d.month (d.day - 1) := by omega
    refine ⟨⟨d.year, d.month, d.day - 1, hvalid⟩, dif_pos hvalid, ?_⟩
    simp only [dayNumber]
    omega
  · have hone := one_le_daysInMonth d.year (d.month - 1)
    have hvalid : IsDate d.year (d.month - 1) (daysInMonth d.year (d.month - 1)) := by omega
    have hmonths := daysOfMonths_of_pos d.year (Nat.le_sub_one_of_lt hnotfirst)
    refine ⟨⟨d.year, d.month - 1, _, hvalid⟩, dif_pos hvalid, ?_⟩
    simp only [dayNumber]
    omega
  · have hlast : daysInMonth (d.year - 1) 12 = 31 := rfl
    have hvalid : IsDate (d.year - 1) 12 31 := by omega
    have hfirst : d.month = 1 := by omega
    have hmonths := daysOfMonths_of_pos (d.year - 1) (show 1 ≤ 12 by decide)
    have hyears := daysBeforeYear_succ (d.year - 1)
    refine ⟨⟨d.year - 1, 12, 31, hvalid⟩, dif_pos hvalid, ?_⟩
    rw [Int.sub_add_cancel] at hyears
    simp only [dayNumber, hfirst, Nat.sub_self, daysOfMonths_zero, hyears]
    omega

end Date

end WarehouseAdapter
