import Courier.Proofs.Time.Calendar
import Courier.Proofs.Time.TimeOfDay
import Courier.Time.Instant

/-!
# Instants come back

An instant that has been written is read again as it was, to the nanosecond, if its year is one that
can be read.

* `Instant.IsReadable`: the instants whose year can be read.
* `Instant.ofDay_timeOfDay`: an instant is made of its day and its time of day.
* `Instant.year?_yearChars`, `Instant.date?_chars`, `Instant.time?_chars`: the parts are read one
  after the other.
* `Instant.ofText?_text`: reading an instant that has been written.
-/

namespace Courier

open Text

/-- What a valid date says of its month and day. -/
theorem Date.lt_of_isValid {d : Date} (h : d.isValid = true) : d.month < 100 ∧ d.day < 100 := by
  obtain ⟨-, hmonth, -, hday⟩ := of_decide_eq_true h
  unfold daysInMonth at hday
  have hdays : (if d.month = 2 then if isLeapYear d.year then 29 else 28
      else if d.month = 4 ∨ d.month = 6 ∨ d.month = 9 ∨ d.month = 11 then 30 else 31) ≤ 31 := by
    repeat' split
    all_goals decide
  omega

namespace Instant

/-- An instant is made of its day and its time of day. -/
theorem ofDay_timeOfDay (t : Instant) : ofDay t.day t.timeOfDay = t := by
  have h0 : 0 ≤ t.ticks % nanosPerDay := Int.emod_nonneg _ (by decide)
  have hdiv := Int.mul_ediv_add_emod t.ticks nanosPerDay
  rcases t with ⟨ticks⟩
  simp only [ofDay, day, timeOfDay, Int.toNat_of_nonneg h0, mk.injEq] at *
  rw [Int.mul_comm]
  exact hdiv

/-- What is written of a year is read again, up to the hyphen after it. -/
theorem year?_yearChars (year : Int) (cs : List Char) :
    year? (yearChars year ++ '-' :: cs) = some (year, '-' :: cs) := by
  have hdigitless : IsDigitless ('-' :: cs) := isDigitless_cons (by decide) cs
  rw [yearChars]
  split
  next h =>
    have hlen : (padded 4 year.toNat).length = 4 := length_padded (by decide) (by omega)
    have hnumber := number?_padded (Nat.le_of_eq hlen) hdigitless
    obtain ⟨c, digits, hc⟩ := List.exists_cons_of_ne_nil (padded_ne_nil 4 year.toNat)
    obtain ⟨d, hd, rfl⟩ := exists_digitChar_of_mem_padded (hc ▸ List.mem_cons_self)
    have hsign : ∀ d < 10, digitChar d ≠ '-' ∧ digitChar d ≠ '+' := by decide +kernel
    -- A digit is no sign, so that at most four digits are read.
    rw [year?, trimStart_padded]
    split
    next h' => rw [hc, List.cons_append] at h'; exact absurd (List.cons.inj h').1 (hsign d hd).1
    next h' => rw [hc, List.cons_append] at h'; exact absurd (List.cons.inj h').1 (hsign d hd).2
    next =>
      rw [hnumber]
      exact congrArg (fun y => some (y, '-' :: cs)) (Int.toNat_of_nonneg h.1)
  next h =>
    have hnumber : number? (padded 4 year.natAbs ++ '-' :: cs).length
        (padded 4 year.natAbs ++ '-' :: cs) = some (year.natAbs, '-' :: cs) :=
      number?_padded (by simp) hdigitless
    rcases Int.lt_or_le year 0 with hneg | hpos
    · have habs : -(year.natAbs : Int) = year := by omega
      rw [if_pos hneg]
      exact (congrArg (Option.map _) hnumber).trans
        (congrArg (fun y => some (y, '-' :: cs)) habs)
    · rw [if_neg (Int.not_lt.2 hpos)]
      exact (congrArg (Option.map _) hnumber).trans
        (congrArg (fun y => some (y, '-' :: cs)) (Int.natAbs_of_nonneg hpos))

/-- A hyphen is passed over, as no blank stands before it. -/
theorem literal?_trimStart_hyphen (cs : List Char) :
    literal? '-' (trimStart ('-' :: cs)) = some cs :=
  rfl

/-- What is written of a date is read again, up to the mark after it. -/
theorem date?_chars {d : Date} (hvalid : d.isValid = true) (hrange : yearInRange d = true)
    (cs : List Char) :
    date? (yearChars d.year ++ '-' :: (padded 2 d.month ++ '-' :: (padded 2 d.day ++ 'T' :: cs))) =
      some (d, 'T' :: cs) := by
  obtain ⟨hmonth, hday⟩ := Date.lt_of_isValid hvalid
  have hhyphen (cs : List Char) : IsDigitless ('-' :: cs) := isDigitless_cons (by decide) cs
  have hmark : IsDigitless ('T' :: cs) := isDigitless_cons (by decide) cs
  rw [date?, year?_yearChars]
  simp [literal?_trimStart_hyphen, twoDigits?_padded hmonth (hhyphen _),
    twoDigits?_padded hday hmark, hvalid, hrange]

/-- What is written of a time of day is read again, up to the mark after it. -/
theorem time?_chars (t : TimeOfDay) : time? (t.chars ++ ['Z']) = some (t, ['Z']) := by
  have hrest : IsFractionless ['Z'] := ⟨isDigitless_cons (by decide) [], by decide⟩
  rw [time?, TimeOfDay.chars_append, hoursMinutes?_chars]
  simp only [bind, Option.bind_some, literal?_trimStart_colon, seconds?_chars t hrest,
    TimeOfDay.ofParts?_parts]
  rfl

/-- The year of the instant is one that can be read. -/
def IsReadable (t : Instant) : Prop := yearInRange t.date = true

instance (t : Instant) : Decidable t.IsReadable := inferInstanceAs (Decidable (_ = true))

/-- Every year of four digits can be read. -/
theorem isReadable_of_year {t : Instant} (h0 : 0 ≤ t.date.year) (h : t.date.year ≤ 9999) :
    t.IsReadable :=
  decide_eq_true ⟨Int.le_trans (by decide) h0, Int.le_trans h (by decide)⟩

/-- An instant that is read can be read again. -/
theorem isReadable_of_ofText? {text : String} {t : Instant} (h : ofText? text = some t) :
    t.IsReadable := by
  rw [ofText?, ofChars?] at h
  obtain ⟨⟨date, cs⟩, -, h⟩ := Option.bind_eq_some_iff.1 h
  obtain ⟨cs, -, h⟩ := Option.bind_eq_some_iff.1 h
  obtain ⟨⟨time, cs⟩, -, h⟩ := Option.bind_eq_some_iff.1 h
  obtain ⟨⟨offset, cs⟩, -, h⟩ := Option.bind_eq_some_iff.1 h
  dsimp only at h
  split at h
  next hyear =>
    cases h
    exact (Bool.and_eq_true_iff.1 hyear).2
  next => cases h

/-- Reading an instant that has been written gives it back. -/
theorem ofText?_text {t : Instant} (h : t.IsReadable) : ofText? t.text = some t := by
  have hdays : t.date.days = t.day := Date.days_ofDays t.day
  have hvalid : t.date.isValid = true := Date.isValid_ofDays t.day
  have hchars : t.chars = yearChars t.date.year ++ '-' :: (padded 2 t.date.month ++ '-' ::
      (padded 2 t.date.day ++ 'T' :: (t.timeOfDay.chars ++ ['Z']))) := by
    simp [chars]
  have hsame : (ofDay t.day t.timeOfDay).addMinutes (-0) = t := by
    rw [ofDay_timeOfDay, addMinutes]
    simp
  have hoffset : offset? ['Z'] = some (0, []) := rfl
  rw [ofText?, text, String.toList_ofList, ofChars?, hchars,
    date?_chars hvalid h]
  simp only [bind, Option.bind_some, separator?, true_or, if_true, time?_chars, hoffset, hdays,
    hsame]
  rw [show yearInRange t.date = true from h]
  rfl

end Instant

end Courier
