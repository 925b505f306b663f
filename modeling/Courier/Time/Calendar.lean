/-!
# The calendar

Days are counted from 1970-01-01 in the calendar that has a leap year every fourth year, except
every hundredth, but every four-hundredth. The count of a date and the date of a count are both
computed in eras of 400 years that begin on the first of March, so that the leap day is the last
day of its year.

* `Date.days`: the count of a date.
* `Date.ofDays`: the date of a count.
-/

namespace Courier

/-- A year, a month and a day of the month. -/
structure Date where
  year : Int
  month : Nat
  day : Nat
  deriving DecidableEq

namespace Date

/-- Whether a year has a leap day. -/
def isLeapYear (year : Int) : Bool :=
  year % 4 = 0 ∧ (year % 100 ≠ 0 ∨ year % 400 = 0)

/-- The number of days of a month. -/
def daysInMonth (year : Int) (month : Nat) : Nat :=
  if month = 2 then if isLeapYear year then 29 else 28
  else if month = 4 ∨ month = 6 ∨ month = 9 ∨ month = 11 then 30
  else 31

/-- Whether the month and the day exist. -/
def isValid (d : Date) : Bool :=
  1 ≤ d.month ∧ d.month ≤ 12 ∧ 1 ≤ d.day ∧ d.day ≤ daysInMonth d.year d.month

/-- The day of a year that begins on the first of March. -/
def dayOfMarchYear (month day : Nat) : Int :=
  let m : Int := (month + 9) % 12
  (153 * m + 2) / 5 + day - 1

/-- The number of days from 1970-01-01 to a date. -/
def days (d : Date) : Int :=
  let y := if d.month ≤ 2 then d.year - 1 else d.year
  let yearOfEra := y % 400
  y / 400 * 146097 + (yearOfEra * 365 + yearOfEra / 4 - yearOfEra / 100) +
    dayOfMarchYear d.month d.day - 719468

/-- The date so many days after 1970-01-01. -/
def ofDays (count : Int) : Date :=
  let z := count + 719468
  let era := z / 146097
  let dayOfEra := z % 146097
  let yearOfEra := (dayOfEra - dayOfEra / 1460 + dayOfEra / 36524 - dayOfEra / 146096) / 365
  let dayOfYear := dayOfEra - (365 * yearOfEra + yearOfEra / 4 - yearOfEra / 100)
  let m := (5 * dayOfYear + 2) / 153
  let day := dayOfYear - (153 * m + 2) / 5 + 1
  let month := if m < 10 then m + 3 else m - 9
  let year := yearOfEra + era * 400
  ⟨if month ≤ 2 then year + 1 else year, month.toNat, day.toNat⟩

example : (⟨1970, 1, 1⟩ : Date).days = 0 ∧ (⟨2000, 1, 1⟩ : Date).days = 10957 := by decide
example : ofDays (-1) = ⟨1969, 12, 31⟩ ∧ ofDays 11016 = ⟨2000, 2, 29⟩ := by decide

end Date

end Courier
