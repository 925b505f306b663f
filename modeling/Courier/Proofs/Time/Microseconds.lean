import Courier.Proofs.Time.Instant

/-!
# Times counted in microseconds

A database keeps an instant or a time of day as a count of microseconds. What lies below a
microsecond is lost on the way, and a leap second becomes the second after it. Every other time
comes back as it was.

* `TimeOfDay.IsWhole`, `Instant.IsWhole`: whole microseconds outside of leap seconds.
* `TimeOfDay.ofMicroseconds_microseconds`, `Instant.ofMicroseconds_microseconds`: such a time is
  found again by its count.
-/

namespace Courier

namespace TimeOfDay

variable {t : TimeOfDay}

/-- The time is a whole number of microseconds, and lies in no leap second. -/
def IsWhole (t : TimeOfDay) : Prop := t.isLeap = false ∧ t.nano % 1000 = 0

instance (t : TimeOfDay) : Decidable t.IsWhole := inferInstanceAs (Decidable (_ ∧ _))

/-- The microseconds since the start of the minute. -/
theorem IsWhole.exists_nanosOfMinute_eq (h : t.IsWhole) :
    ∃ k < 60_000_000, t.nanosOfMinute = k * 1000 := by
  obtain ⟨hleap, hnano⟩ := h
  have hsecond : ¬ 60 ≤ t.nanosOfMinute / nanosPerSecond := of_decide_eq_false hleap
  simp only [nano, nanosPerSecond] at hsecond hnano
  exact ⟨t.nanosOfMinute / 1000, by omega, by omega⟩

theorem minuteOfDay_lt (t : TimeOfDay) : t.minuteOfDay < minutesPerDay :=
  Nat.div_lt_of_lt_mul (Nat.mul_comm minutesPerDay nanosPerMinute ▸ t.rank_lt)

theorem minuteOfDay_mul_add_nanosOfMinute (t : TimeOfDay) :
    t.minuteOfDay * nanosPerMinute + t.nanosOfMinute = t.rank :=
  Nat.div_add_mod' t.rank nanosPerMinute

/-- A time of whole microseconds is found again by its count. -/
theorem ofMicroseconds_microseconds (h : t.IsWhole) : ofMicroseconds t.microseconds = t := by
  obtain ⟨k, hk, hnanos⟩ := h.exists_nanosOfMinute_eq
  have hminute := t.minuteOfDay_lt
  have hcount : t.microseconds = t.minuteOfDay * 60_000_000 + k := by
    rw [microseconds, hnanos, nanosPerSecond]
    omega
  have hdiv : t.microseconds / 60_000_000 % minutesPerDay = t.minuteOfDay := by
    rw [hcount, show (t.minuteOfDay * 60_000_000 + k) / 60_000_000 = t.minuteOfDay by omega,
      Nat.mod_eq_of_lt hminute]
  have hmod : t.microseconds % 60_000_000 = k := by omega
  have hrank := t.minuteOfDay_mul_add_nanosOfMinute
  rw [hnanos] at hrank
  simp only [ofMicroseconds, hdiv, hmod, hrank]

end TimeOfDay

namespace Instant

variable {t : Instant}

/-- The instant is a whole number of microseconds, and lies in no leap second. -/
def IsWhole (t : Instant) : Prop := t.timeOfDay.IsWhole

instance (t : Instant) : Decidable t.IsWhole := inferInstanceAs (Decidable t.timeOfDay.IsWhole)

/-- An instant of whole microseconds is found again by its count. -/
theorem ofMicroseconds_microseconds (h : t.IsWhole) : ofMicroseconds t.microseconds = t := by
  obtain ⟨k, hk, hnanos⟩ := h.exists_nanosOfMinute_eq
  have hticks : t.day * nanosPerDay + t.timeOfDay.rank = t.ticks :=
    congrArg ticks (ofDay_timeOfDay t)
  rw [← t.timeOfDay.minuteOfDay_mul_add_nanosOfMinute, hnanos] at hticks
  -- Nothing is cut off, so that it does not matter toward which time it would be.
  have hcount : t.microseconds =
      t.day * 86_400_000_000 + t.timeOfDay.minuteOfDay * 60_000_000 + k := by
    simp only [microseconds, hnanos, nanosPerSecond]
    rw [Int.tdiv_eq_ediv_of_dvd (by omega)]
    omega
  simp only [nanosPerDay, nanosPerMinute, nanosPerSecond, minutesPerDay] at hticks
  have hback : t.microseconds / 60_000_000 * (61 * 1_000_000_000) +
      t.microseconds % 60_000_000 * 1000 = t.ticks := by omega
  exact congrArg mk hback

end Instant

end Courier
