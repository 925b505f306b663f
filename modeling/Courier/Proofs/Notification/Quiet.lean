import Courier.Notification.Model
import Courier.Proofs.Time.TimeOfDay
import Mathlib.Algebra.Order.Ring.Int
import Mathlib.Data.Prod.Lex

/-!
# Quiet hours

The times of day stand in a circle, on which midnight comes after the last of them. Quiet hours are
an arc of this circle, from their start, which is inside, to their end, which is not. Whether they
go past midnight makes no difference on the circle.

* `TimeOfDay.lt_iff_clock`, `TimeOfDay.exists_rank_eq_iff`: the ranks count the times of day in the
  order of the clock.
* `TimeOfDay.since`: how far a time is after another one, round the circle.
* `UserPreferences.inQuietHours_iff_since`: a time is in the quiet hours exactly if it is less far
  after their start than their end is.
* `inQuietHours_arc`: the quiet hours of all preferences.
-/

namespace Courier

namespace TimeOfDay

variable (t : TimeOfDay) {a b s e : TimeOfDay}

/-! ### Ranks -/

theorem le_iff_rank : a ≤ b ↔ a.rank ≤ b.rank := .rfl

theorem lt_iff_rank : a < b ↔ a.rank < b.rank := .rfl

/-- What a clock shows: hour, minute, second and nanoseconds, compared from the left. -/
def clock : ℕ ×ₗ ℕ ×ₗ ℕ ×ₗ ℕ := toLex (t.hour, toLex (t.minute, toLex (t.second, t.nano)))

theorem rank_eq :
    t.rank = ((t.hour * 60 + t.minute) * 61 + t.second) * nanosPerSecond + t.nano := by
  simp only [hour, minute, second, nano, minuteOfDay, nanosOfMinute, nanosPerMinute, nanosPerSecond]
  omega

/-- A time of day comes before another one exactly if the clock says so. -/
theorem lt_iff_clock : a < b ↔ a.clock < b.clock := by
  have ha := a.rank_eq
  have hb := b.rank_eq
  have := a.minute_lt
  have := b.minute_lt
  have := a.second_le
  have := b.second_le
  have := a.nano_lt
  have := b.nano_lt
  simp only [lt_iff_rank, clock, Prod.Lex.toLex_lt_toLex, ha, hb]
  simp only [nanosPerSecond] at *
  omega

/-- As many times of day as there are ranks. -/
theorem exists_rank_eq_iff {k : ℕ} : (∃ t : TimeOfDay, t.rank = k) ↔ k < nanosPerDay :=
  ⟨fun ⟨t, ht⟩ => ht ▸ t.rank_lt, fun h => ⟨⟨k, h⟩, rfl⟩⟩

theorem eq_of_rank_eq (h : a.rank = b.rank) : a = b := by
  cases a
  cases b
  cases h
  rfl

/-! ### Distances round the day -/

/-- How far a time is after another one, if midnight comes after the last time of day. -/
def since (t s : TimeOfDay) : ℤ := ((t.rank : ℤ) - s.rank) % nanosPerDay

/-- The way from a later time of day to an earlier one goes past midnight. -/
theorem since_eq (t s : TimeOfDay) :
    t.since s = if s ≤ t then (t.rank : ℤ) - s.rank else t.rank - s.rank + nanosPerDay := by
  have ht := t.rank_lt
  have hs := s.rank_lt
  split
  next h =>
    rw [le_iff_rank] at h
    exact Int.emod_eq_of_lt (by omega) (by omega)
  next h =>
    rw [le_iff_rank] at h
    rw [since, ← Int.add_emod_right]
    exact Int.emod_eq_of_lt (by omega) (by omega)

/-- What is less far after the start than the end is. If the end comes before the start, this is
    what is not before the start or else before the end. -/
theorem since_lt_since_iff :
    t.since s < e.since s ↔ if s ≤ e then s ≤ t ∧ t < e else s ≤ t ∨ t < e := by
  have ht := t.rank_lt
  have he := e.rank_lt
  simp only [since_eq, le_iff_rank, lt_iff_rank]
  split <;> split <;> omega

theorem since_self_lt_iff : s.since s < e.since s ↔ s ≠ e := by
  have hne : s ≠ e ↔ s.rank ≠ e.rank := not_congr ⟨congrArg rank, eq_of_rank_eq⟩
  have hs := s.rank_lt
  rw [hne]
  simp only [since_eq, le_iff_rank]
  split <;> split <;> omega

/-- Of the two arcs between distinct times, each time is on exactly one. -/
theorem since_lt_since_swap (h : s ≠ e) : t.since e < s.since e ↔ ¬t.since s < e.since s := by
  have hne : s.rank ≠ e.rank := fun heq => h (eq_of_rank_eq heq)
  have ht := t.rank_lt
  have hs := s.rank_lt
  have he := e.rank_lt
  -- Each of the four ways goes past midnight or does not.
  simp only [since_eq, le_iff_rank]
  split <;> split <;> split <;> split <;> omega

end TimeOfDay

namespace Notification

namespace UserPreferences

variable (p : UserPreferences) (s e t : TimeOfDay)

/-- The preferences with both ends of the quiet hours set. -/
def withQuiet : UserPreferences := { p with quietStart := some s, quietEnd := some e }

/-- Before midnight and past it, the quiet hours are what is less far after their start than their
    end is. -/
theorem inQuietHours_withQuiet : (p.withQuiet s e).inQuietHours t ↔ t.since s < e.since s := by
  rw [TimeOfDay.since_lt_since_iff]
  change (if s ≤ e then decide (s ≤ t ∧ t < e) else decide (s ≤ t ∨ t < e)) = true ↔ _
  split <;> exact decide_eq_true_iff

variable {p}

theorem inQuietHours_iff_since : p.inQuietHours t ↔
    ∃ s e, p.quietStart = some s ∧ p.quietEnd = some e ∧ t.since s < e.since s := by
  constructor
  · intro h
    have hset := h
    rw [inQuietHours] at hset
    split at hset
    next s e hs he =>
      refine ⟨s, e, hs, he, ?_⟩
      rw [← inQuietHours_withQuiet p, withQuiet, ← hs, ← he]
      exact h
    next => cases hset
  · rintro ⟨s, e, hs, he, h⟩
    rw [← inQuietHours_withQuiet p, withQuiet, ← hs, ← he] at h
    exact h

end UserPreferences

/-- The quiet hours of all preferences. The ranks count the times of day in the order of the clock.
    A time is in the quiet hours exactly if both ends are set and it lies on the half-open arc of
    the day from their start to their end. So the start is inside unless the quiet hours are empty,
    the end is not, and each time is in exactly one of the quiet hours from one time to another one
    and back. -/
theorem inQuietHours_arc (p : UserPreferences) :
    (∀ a b : TimeOfDay, a.rank < b.rank ↔ a.clock < b.clock) ∧
      (∀ k, (∃ t : TimeOfDay, t.rank = k) ↔ k < nanosPerDay) ∧
      (∀ t, p.inQuietHours t ↔ ∃ s e, p.quietStart = some s ∧ p.quietEnd = some e ∧
        ((t.rank : ℤ) - s.rank) % nanosPerDay < ((e.rank : ℤ) - s.rank) % nanosPerDay) ∧
      (∀ s e, s ≠ e → (p.withQuiet s e).inQuietHours s ∧ ¬(p.withQuiet s e).inQuietHours e ∧
        ∀ t, (p.withQuiet e s).inQuietHours t = !(p.withQuiet s e).inQuietHours t) ∧
      ∀ s t, ¬(p.withQuiet s s).inQuietHours t := by
  refine ⟨fun _ _ => TimeOfDay.lt_iff_clock, fun _ => TimeOfDay.exists_rank_eq_iff,
    fun _ => UserPreferences.inQuietHours_iff_since _, fun s e hne => ⟨?_, ?_, fun t => ?_⟩,
    fun s t => ?_⟩
  · rwa [p.inQuietHours_withQuiet, TimeOfDay.since_self_lt_iff]
  · rw [p.inQuietHours_withQuiet]
    exact Int.lt_irrefl _
  · rw [Bool.eq_not_iff, Ne, Bool.eq_iff_iff, p.inQuietHours_withQuiet, p.inQuietHours_withQuiet,
      TimeOfDay.since_lt_since_swap t hne]
    exact not_iff_self
  · have hle : s ≤ s := Nat.le_refl _
    rw [p.inQuietHours_withQuiet, TimeOfDay.since_lt_since_iff, if_pos hle]
    exact fun h => absurd h.2 (Nat.not_lt.2 h.1)

/-- So many minutes after midnight. -/
def afterMidnight (minutes : ℕ) (h : minutes < minutesPerDay) : TimeOfDay :=
  ⟨minutes * nanosPerMinute, Nat.mul_lt_mul_of_pos_right h (by decide)⟩

/-- Quiet hours from ten in the evening to midnight. They go on to the last moment of the day, in a
    leap second. From midnight to ten in the evening it is not quiet then. -/
theorem inQuietHours_arc_evening :
    let p := UserPreferences.default .nil ⟨0⟩
    let ten := afterMidnight 1320 (by decide)
    let midnight := afterMidnight 0 (by decide)
    let last : TimeOfDay := ⟨nanosPerDay - 1, by decide⟩
    ten ≠ midnight ∧ (p.withQuiet ten midnight).inQuietHours ten ∧
      ¬(p.withQuiet ten midnight).inQuietHours midnight ∧
      (p.withQuiet ten midnight).inQuietHours last ∧
      (p.withQuiet midnight ten).inQuietHours last = false := by
  intro p ten midnight last
  have hne : ten ≠ midnight := by decide
  have hlast : (p.withQuiet ten midnight).inQuietHours last := by decide
  obtain ⟨-, -, -, harcs, -⟩ := inQuietHours_arc p
  obtain ⟨hstart, hend, hback⟩ := harcs ten midnight hne
  refine ⟨hne, hstart, hend, hlast, ?_⟩
  rw [hback, hlast]
  rfl

end Notification

end Courier
