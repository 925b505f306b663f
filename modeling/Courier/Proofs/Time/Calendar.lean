import Courier.Time.Calendar
import Mathlib.Tactic.IntervalCases
import Mathlib.Tactic.NormNum

/-!
# Dates come back

Every count of days is the count of its date, and that date exists. An era has 400 years, which
begin on the first of March: the year of a day in it is found first, and then the month.

* `Date.IsYearOf`: the year of an era in which a day of the era lies.
* `Date.days_ofDays`, `Date.isValid_ofDays`: the count of a date, and the date of a count.
-/

namespace Courier.Date

/-- The day of an era with which a year of the era begins. -/
def yearStart (year : Int) : Int := 365 * year + year / 4 - year / 100

/-- A day of an era lies in a year of the era: not before its beginning, and before the beginning of
    the next one. Only the last day of the era comes after what would be the end of its last
    year. -/
structure IsYearOf (day year : Int) : Prop where
  nonneg : 0 ≤ year
  le : year ≤ 399
  yearStart_le : yearStart year ≤ day
  lt_or_eq : day < yearStart (year + 1) ∨ year = 399 ∧ day = 146096

theorem isYearOf {day : Int} (h0 : 0 ≤ day) (h : day < 146097) :
    IsYearOf day ((day - day / 1460 + day / 36524 - day / 146096) / 365) := by
  obtain ⟨year, hyear⟩ : ∃ year, (day - day / 1460 + day / 36524 - day / 146096) / 365 = year :=
    ⟨_, rfl⟩
  obtain ⟨century, hcentury⟩ : ∃ century, day / 36524 = century := ⟨_, rfl⟩
  have hc0 : 0 ≤ century := by omega
  have hc4 : century ≤ 4 := by omega
  rw [hyear]
  rcases Int.lt_or_le century 4 with hc | hc
  · have hlast : day / 146096 = 0 := by omega
    rw [hcentury, hlast] at hyear
    -- The century is that of the year, and the leap days are those of the year up to its own.
    have hyears : year / 100 = century := by interval_cases century <;> omega
    have hleaps : day / 1460 = year / 4 ∨ day / 1460 = year / 4 + 1 ∧ year % 4 = 3 := by
      interval_cases century <;> omega
    refine ⟨by omega, by omega, by unfold yearStart; omega, .inl ?_⟩
    have hnext : (year + 1) / 100 = century ∨ year = 100 * century + 99 := by omega
    unfold yearStart
    rcases hnext with hnext | hnext <;> omega
  · have hday : day = 146096 := by omega
    subst hday
    norm_num at hyear
    subst hyear
    exact ⟨by decide, by decide, by decide, .inr ⟨rfl, rfl⟩⟩

/-- A year of an era has 365 days, and one day more if the year after it has a leap day. -/
theorem IsYearOf.sub_le {day year : Int} (h : IsYearOf day year) (era : Int) :
    day - yearStart year ≤ 364 ∨
      day - yearStart year = 365 ∧ isLeapYear (year + era * 400 + 1) = true := by
  obtain ⟨h0, hle, hstart, hend⟩ := h
  simp only [yearStart, isLeapYear, decide_eq_true_eq, Bool.decide_and, Bool.decide_or,
    Bool.and_eq_true, Bool.or_eq_true] at *
  omega

/-- The months since March of a day of a year that begins in March. -/
def monthOf (dayOfYear : Int) : Int := (5 * dayOfYear + 2) / 153

/-- The month and the day of the month of a day of a year that begins in March. -/
def monthDay (dayOfYear : Int) : Nat × Nat :=
  ((if monthOf dayOfYear < 10 then monthOf dayOfYear + 3 else monthOf dayOfYear - 9).toNat,
    (dayOfYear - (153 * monthOf dayOfYear + 2) / 5 + 1).toNat)

theorem ofDays_eq (count : Int) : ∃ era day year, count + 719468 = era * 146097 + day ∧
    IsYearOf day year ∧ ofDays count =
      ⟨if (monthDay (day - yearStart year)).1 ≤ 2 then year + era * 400 + 1 else year + era * 400,
        (monthDay (day - yearStart year)).1, (monthDay (day - yearStart year)).2⟩ := by
  have h0 : 0 ≤ (count + 719468) % 146097 := Int.emod_nonneg _ (by decide)
  have h : (count + 719468) % 146097 < 146097 := Int.emod_lt_of_pos _ (by decide)
  refine ⟨(count + 719468) / 146097, _, _, by omega, isYearOf h0 h, ?_⟩
  simp only [ofDays, monthDay, monthOf, yearStart, mk.injEq, and_true]
  split <;> split <;> omega

theorem monthOf_spec {dayOfYear : Int} (h0 : 0 ≤ dayOfYear) (h : dayOfYear ≤ 365) :
    0 ≤ monthOf dayOfYear ∧ monthOf dayOfYear ≤ 11 ∧
      (153 * monthOf dayOfYear + 2) / 5 ≤ dayOfYear ∧
      dayOfYear < (153 * (monthOf dayOfYear + 1) + 2) / 5 := by
  unfold monthOf
  omega

theorem dayOfMarchYear_monthDay {dayOfYear : Int} (h0 : 0 ≤ dayOfYear) (h : dayOfYear ≤ 365) :
    dayOfMarchYear (monthDay dayOfYear).1 (monthDay dayOfYear).2 = dayOfYear := by
  obtain ⟨hm0, hm, hle, -⟩ := monthOf_spec h0 h
  have hmonth : (((monthDay dayOfYear).1 : Int) + 9) % 12 = monthOf dayOfYear := by
    simp only [monthDay]
    split <;> omega
  simp only [dayOfMarchYear, hmonth]
  simp only [monthDay]
  omega

/-- The count of the date of a count of days. -/
theorem days_ofDays (count : Int) : (ofDays count).days = count := by
  obtain ⟨era, day, year, hcount, hyear, hdate⟩ := ofDays_eq count
  have hstart := hyear.yearStart_le
  have hsub := hyear.sub_le era
  obtain ⟨dayOfYear, hdayOfYear⟩ : ∃ dayOfYear, day - yearStart year = dayOfYear := ⟨_, rfl⟩
  rw [hdayOfYear] at hdate hsub
  have h0 : 0 ≤ dayOfYear := by omega
  have h : dayOfYear ≤ 365 := by omega
  have hday := dayOfMarchYear_monthDay h0 h
  have hera : (year + era * 400) / 400 = era ∧ (year + era * 400) % 400 = year := by
    have := hyear.nonneg
    have := hyear.le
    omega
  have hmarch : (if (ofDays count).month ≤ 2 then (ofDays count).year - 1
      else (ofDays count).year) = year + era * 400 := by
    rw [hdate]
    dsimp only
    split <;> omega
  simp only [days, hmarch, hera]
  rw [hdate, hday]
  unfold yearStart at hdayOfYear
  omega

/-- Each month is as long as the days until the next one, and February as its year says. -/
theorem isValid_monthDay {dayOfYear year : Int} (h0 : 0 ≤ dayOfYear)
    (h : dayOfYear ≤ 364 ∨ dayOfYear = 365 ∧ isLeapYear (year + 1) = true) :
    isValid ⟨if (monthDay dayOfYear).1 ≤ 2 then year + 1 else year, (monthDay dayOfYear).1,
      (monthDay dayOfYear).2⟩ = true := by
  obtain ⟨hm0, hm, hle, hlt⟩ := monthOf_spec h0 (by omega : dayOfYear ≤ 365)
  unfold monthDay
  generalize monthOf dayOfYear = month at *
  have hfebruary : month = 11 → dayOfYear - 337 + 1 ≤ if isLeapYear (year + 1) then 29 else 28 := by
    rintro rfl
    split
    next => omega
    next hleap =>
      have h : dayOfYear ≤ 364 := h.resolve_right fun h => hleap h.2
      omega
  interval_cases month <;> simp [isValid, daysInMonth] at hfebruary ⊢ <;> omega

/-- The date of a count of days exists. -/
theorem isValid_ofDays (count : Int) : (ofDays count).isValid = true := by
  obtain ⟨era, day, year, -, hyear, hdate⟩ := ofDays_eq count
  have h0 : 0 ≤ day - yearStart year := Int.sub_nonneg_of_le hyear.yearStart_le
  rw [hdate]
  exact isValid_monthDay h0 (hyear.sub_le era)

end Courier.Date
