-- The calendar counts days and names dates, and the two agree: every day has
-- its date, the date is one the calendar has, and it leads back to the day.

import Mathlib.Tactic.SplitIfs
import TenantAuth.Time.Calendar

namespace TenantAuth.Date

/-! ## Years -/

/-- The year of a day, both counted from a first of March with which 400 years
begin. -/
def yearWithin (d : Int) : Int := (d - d / 1460 + d / 36524 - d / 146096) / 365

/-- The first day of such a year. -/
def yearStart (y : Int) : Int := 365 * y + y / 4 - y / 100

theorem yearWithin_bounds {d : Int} (h0 : 0 ≤ d) (h1 : d ≤ 146096) :
    0 ≤ yearWithin d ∧ yearWithin d ≤ 399 := by
  unfold yearWithin
  omega

/-- The last day of 400 years belongs to no century of 36524 days. -/
theorem yearWithin_century {d : Int} (h0 : 0 ≤ d) (h1 : d < 146096) :
    yearWithin d / 100 = d / 36524 ∧ 0 ≤ d / 36524 ∧ d / 36524 ≤ 3 := by
  unfold yearWithin
  have hcentury : d / 36524 = 0 ∨ d / 36524 = 1 ∨ d / 36524 = 2 ∨ d / 36524 = 3 := by omega
  rcases hcentury with h | h | h | h <;> omega

/-- A day is one of the 366 from the start of its year on. -/
theorem yearStart_bounds {d : Int} (h0 : 0 ≤ d) (h1 : d ≤ 146096) :
    yearStart (yearWithin d) ≤ d ∧ d ≤ yearStart (yearWithin d) + 365 := by
  unfold yearStart
  by_cases hend : d = 146096
  · subst hend
    decide
  obtain ⟨hcentury, hlow, hhigh⟩ := yearWithin_century h0 (by omega)
  generalize hy : yearWithin d = y at hcentury
  unfold yearWithin at hy
  omega

theorem isLeapYear_iff {y : Int} :
    isLeapYear y = true ↔ y % 4 = 0 ∧ (y % 100 ≠ 0 ∨ y % 400 = 0) := by
  simp [isLeapYear]

/-- A year that has a 366th day ends with the February of a leap year. -/
theorem isLeapYear_of_last {d : Int} (h0 : 0 ≤ d) (h1 : d ≤ 146096)
    (hlast : d = yearStart (yearWithin d) + 365) : isLeapYear (yearWithin d + 1) = true := by
  rw [isLeapYear_iff]
  unfold yearStart at hlast
  by_cases hend : d = 146096
  · subst hend
    decide
  obtain ⟨hcentury, hlow, hhigh⟩ := yearWithin_century h0 (by omega)
  have hwhole : d / 146096 = 0 := by omega
  generalize hy : yearWithin d = y at hcentury hlast
  unfold yearWithin at hy
  have hfour : (y + 1) % 4 = 0 := by
    apply Decidable.byContradiction
    intro hne
    have hquarter : (y + 1) / 4 = y / 4 := by omega
    omega
  omega

/-! ## Days of a year -/

/-- A day of a year that begins in March, as a date. Five months have 153 days. -/
def ofMarch (year day : Int) : Date :=
  let fromMarch := (5 * day + 2) / 153
  let month := if fromMarch < 10 then fromMarch + 3 else fromMarch - 9
  ⟨if month ≤ 2 then year + 1 else year, month.toNat, (day - (153 * fromMarch + 2) / 5 + 1).toNat⟩

theorem ofDays_eq (n : Int) :
    ofDays n =
      let d := (n + 719468) % 146097
      ofMarch (yearWithin d + (n + 719468) / 146097 * 400) (d - yearStart (yearWithin d)) :=
  rfl

/-- The months of a year that begins in March: the first ten lie in the year of
that March, the last two in the next one. A day comes before the next month. -/
theorem ofMarch_cases (year : Int) {day : Int} (h0 : 0 ≤ day) (h1 : day ≤ 365) :
    ∃ m k : Nat, (153 * m + 2) / 5 + k = day ∧ day < (153 * (m + 1) + 2) / 5 ∧
      ((m < 10 ∧ ofMarch year day = ⟨year, m + 3, k + 1⟩)
        ∨ (10 ≤ m ∧ m < 12 ∧ ofMarch year day = ⟨year + 1, m - 9, k + 1⟩)) := by
  obtain ⟨m, hm⟩ : ∃ m : Nat, (5 * day + 2) / 153 = m :=
    ⟨((5 * day + 2) / 153).toNat, by omega⟩
  refine ⟨m, (day - (153 * m + 2) / 5).toNat, by omega, by omega, ?_⟩
  by_cases hten : m < 10
  · refine Or.inl ⟨hten, ?_⟩
    simp only [ofMarch, hm, mk.injEq]
    omega
  · refine Or.inr ⟨by omega, by omega, ?_⟩
    simp only [ofMarch, hm, mk.injEq]
    omega

theorem toDays_ofMarch (year : Int) {day : Int} (h0 : 0 ≤ day) (h1 : day ≤ 365) :
    (ofMarch year day).toDays
      = year / 400 * 146097 + (yearStart (year % 400) + day) - 719468 := by
  obtain ⟨m, k, hday, -, ⟨hm, h⟩ | ⟨hten, hm, h⟩⟩ := ofMarch_cases year h0 h1
  · simp only [h, toDays, yearStart, if_neg (show ¬ m + 3 ≤ 2 by omega)]
    omega
  · simp only [h, toDays, yearStart, if_pos (show m - 9 ≤ 2 by omega)]
    rw [Int.add_sub_cancel]
    omega

theorem exists_ofMarch {year day : Int} (h0 : 0 ≤ day) (h1 : day ≤ 365)
    (hleap : day = 365 → isLeapYear (year + 1) = true) : (ofMarch year day).Exists := by
  obtain ⟨m, k, hday, hnext, ⟨hm, h⟩ | ⟨hten, hm, h⟩⟩ := ofMarch_cases year h0 h1
  · have hlength : k + 1 ≤ daysInMonth year (m + 3) := by
      unfold daysInMonth
      split_ifs <;> omega
    rw [h]
    exact ⟨Nat.le_add_left 1 (m + 2), Nat.add_le_add_right (by omega) 3, Nat.le_add_left 1 k,
      hlength⟩
  · have hlength : k + 1 ≤ daysInMonth (year + 1) (m - 9) := by
      unfold daysInMonth
      by_cases hlast : day = 365
      · simp only [hleap hlast, if_true]
        split_ifs <;> omega
      · split_ifs <;> omega
    have hfirst : 1 ≤ m - 9 := by omega
    have htwelve : m - 9 ≤ 12 := by omega
    rw [h]
    exact ⟨hfirst, htwelve, Nat.le_add_left 1 k, hlength⟩

/-! ## Days -/

/-- What the date of a day is made of: its 400 years, its year in them, and its
day in that year. -/
theorem exists_ofMarch_ofDays (n : Int) :
    ∃ era year day : Int, 0 ≤ year ∧ year ≤ 399 ∧ 0 ≤ day ∧ day ≤ 365
      ∧ n + 719468 = era * 146097 + (yearStart year + day)
      ∧ (day = 365 → isLeapYear (year + 1) = true)
      ∧ ofDays n = ofMarch (year + era * 400) day := by
  have h0 : 0 ≤ (n + 719468) % 146097 := by omega
  have h1 : (n + 719468) % 146097 ≤ 146096 := by omega
  obtain ⟨hyear, hyear'⟩ := yearWithin_bounds h0 h1
  obtain ⟨hstart, hstart'⟩ := yearStart_bounds h0 h1
  refine ⟨_, _, _, hyear, hyear', ?_, ?_, ?_, ?_, ofDays_eq n⟩
  · omega
  · omega
  · omega
  · intro hlast
    exact isLeapYear_of_last h0 h1 (by omega)

theorem isLeapYear_add_mul (y k : Int) : isLeapYear (y + k * 400) = isLeapYear y := by
  rw [Bool.eq_iff_iff, isLeapYear_iff, isLeapYear_iff]
  omega

/-- Every day is the day of its date. -/
theorem toDays_ofDays (n : Int) : (ofDays n).toDays = n := by
  obtain ⟨era, year, day, hyear, hyear', hday, hday', hn, -, h⟩ := exists_ofMarch_ofDays n
  have hera : (year + era * 400) / 400 = era := by omega
  have hwithin : (year + era * 400) % 400 = year := by omega
  rw [h, toDays_ofMarch _ hday hday', hera, hwithin]
  omega

/-- The date of a day is one that the calendar has. -/
theorem exists_ofDays (n : Int) : (ofDays n).Exists := by
  obtain ⟨era, year, day, -, -, hday, hday', -, hleap, h⟩ := exists_ofMarch_ofDays n
  rw [h]
  apply exists_ofMarch hday hday'
  intro hlast
  rw [Int.add_right_comm, isLeapYear_add_mul]
  exact hleap hlast

end TenantAuth.Date
