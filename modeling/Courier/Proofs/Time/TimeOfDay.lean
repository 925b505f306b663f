import Courier.Proofs.Text.Digits

/-!
# Times of day come back

A time of day that has been written is read again as it was, to the nanosecond, a leap second
included.

* `TimeOfDay.ofParts?_parts`: a time of day is made of its parts.
* `Text.hoursMinutes?_chars`, `Text.seconds?_chars`: the parts are read one after the other.
* `TimeOfDay.ofText?_text`: reading a time of day that has been written.
-/

namespace Courier

open Text

namespace TimeOfDay

variable (t : TimeOfDay)

theorem hour_lt : t.hour < 24 := by
  have h := t.rank_lt
  simp only [hour, minuteOfDay, nanosPerDay, nanosPerMinute, nanosPerSecond, minutesPerDay] at *
  omega

theorem minute_lt : t.minute < 60 := Nat.mod_lt _ (by decide)

theorem second_le : t.second ≤ 60 := by
  simp only [second, nanosOfMinute, nanosPerMinute, nanosPerSecond]
  omega

theorem nano_lt : t.nano < nanosPerSecond := Nat.mod_lt _ (by decide)

/-- A time of day is made of its parts. -/
theorem ofParts?_parts : ofParts? t.hour t.minute t.second t.nano = some t := by
  rw [ofParts?, dif_pos ⟨t.hour_lt, t.minute_lt, t.second_le, t.nano_lt⟩]
  have hminute : t.hour * 60 + t.minute = t.minuteOfDay := by
    simp only [hour, minute]
    omega
  have hnano : t.second * nanosPerSecond + t.nano = t.nanosOfMinute :=
    Nat.div_add_mod' t.nanosOfMinute nanosPerSecond
  have hrank : t.minuteOfDay * nanosPerMinute + t.nanosOfMinute = t.rank :=
    Nat.div_add_mod' t.rank nanosPerMinute
  rw [Option.some.injEq, mk.injEq, hminute, Nat.add_assoc, hnano, hrank]

end TimeOfDay

namespace Text

/-- What begins with another character than a digit. -/
theorem isDigitless_cons {c : Char} (h : digitValue? c = none) (cs : List Char) :
    IsDigitless (c :: cs) := by
  intro d hd
  cases hd
  exact h

/-- Neither a digit nor a point stands in front, so that a fraction would be over here. -/
def IsFractionless (cs : List Char) : Prop := IsDigitless cs ∧ '.' ∉ cs.head?

theorem isFractionless_nil : IsFractionless [] := ⟨fun _ h => (nomatch h), fun h => (nomatch h)⟩

/-- Digits of a fraction count as many nanoseconds as their place says. -/
theorem fraction?_padded {width n : Nat} {rest : List Char} (hw : 0 < width) (hle : width ≤ 9)
    (h : n < 10 ^ width) (hrest : IsDigitless rest) :
    fraction? (padded width n ++ rest) = some (n * 10 ^ (9 - width), rest) := by
  have hlen : (padded width n).length = width := length_padded hw h
  have hnumber : number? 9 (padded width n ++ rest) = some (n, rest) :=
    number?_padded (Nat.le_trans (Nat.le_of_eq hlen) hle) hrest
  have hdrop : rest.dropWhile (fun c => (digitValue? c).isSome) = rest := by
    rcases rest with - | ⟨c, rest⟩
    · rfl
    · rw [List.dropWhile_cons_of_neg]
      simp [hrest c rfl]
  rw [fraction?, hnumber]
  simp only [Option.map_some, hdrop, List.length_append, hlen, Nat.add_sub_cancel_right]
  rfl

theorem optionalFraction?_chars {nano : Nat} (h : nano < nanosPerSecond) {rest : List Char}
    (hrest : IsFractionless rest) :
    optionalFraction? (TimeOfDay.fractionChars nano ++ rest) = some (nano, rest) := by
  have hn : nano < 10 ^ 9 := h
  rw [TimeOfDay.fractionChars]
  split
  next h0 =>
    rw [List.nil_append, h0, optionalFraction?]
    rintro cs rfl
    exact hrest.2 rfl
  split
  next h6 =>
    have hlt : nano / 1_000_000 < 10 ^ 3 := by omega
    refine (fraction?_padded (by decide) (by decide) hlt hrest.1).trans ?_
    rw [show 10 ^ (9 - 3) = 1_000_000 from rfl, Nat.div_mul_cancel (Nat.dvd_of_mod_eq_zero h6)]
  split
  next h3 =>
    have hlt : nano / 1_000 < 10 ^ 6 := by omega
    refine (fraction?_padded (by decide) (by decide) hlt hrest.1).trans ?_
    rw [show 10 ^ (9 - 6) = 1_000 from rfl, Nat.div_mul_cancel (Nat.dvd_of_mod_eq_zero h3)]
  next =>
    refine (fraction?_padded (by decide) (by decide) hn hrest.1).trans ?_
    rw [show 10 ^ (9 - 9) = 1 from rfl, Nat.mul_one]

/-- A colon is passed over, as no blank stands before it. -/
theorem literal?_trimStart_colon (cs : List Char) :
    literal? ':' (trimStart (':' :: cs)) = some cs :=
  rfl

variable (t : TimeOfDay)

/-- What is written of the seconds of a time of day is read again. -/
theorem seconds?_chars {rest : List Char} (hrest : IsFractionless rest) :
    seconds? (padded 2 t.second ++ (TimeOfDay.fractionChars t.nano ++ rest)) =
      some ((t.second, t.nano), rest) := by
  have hsecond : t.second < 100 := Nat.lt_of_le_of_lt t.second_le (by decide)
  have hdigitless : IsDigitless (TimeOfDay.fractionChars t.nano ++ rest) := by
    rw [TimeOfDay.fractionChars]
    split
    next => exact hrest.1
    all_goals repeat' split
    all_goals exact isDigitless_cons (by decide) _
  rw [seconds?, twoDigits?_padded hsecond hdigitless]
  simp [Nat.not_lt.2 t.second_le, optionalFraction?_chars t.nano_lt hrest]

/-- What is written of the hours and minutes of a time of day is read again. -/
theorem hoursMinutes?_chars (cs : List Char) :
    hoursMinutes? (padded 2 t.hour ++ ':' :: (padded 2 t.minute ++ ':' :: cs)) =
      some ((t.hour, t.minute), ':' :: cs) := by
  have hhour : t.hour < 100 := Nat.lt_trans t.hour_lt (by decide)
  have hminute : t.minute < 100 := Nat.lt_trans t.minute_lt (by decide)
  have hdigitless (cs : List Char) : IsDigitless (':' :: cs) := isDigitless_cons (by decide) cs
  rw [hoursMinutes?, twoDigits?_padded hhour (hdigitless _)]
  simp [Nat.not_lt.2 (Nat.le_of_lt_succ t.hour_lt), literal?_trimStart_colon,
    twoDigits?_padded hminute (hdigitless _), Nat.not_lt.2 (Nat.le_of_lt_succ t.minute_lt)]

end Text

namespace TimeOfDay

variable (t : TimeOfDay)

theorem chars_append (rest : List Char) :
    t.chars ++ rest = padded 2 t.hour ++ ':' :: (padded 2 t.minute ++ ':' ::
      (padded 2 t.second ++ (fractionChars t.nano ++ rest))) := by
  simp [chars]

/-- Reading a time of day that has been written gives it back. -/
theorem ofText?_text : ofText? t.text = some t := by
  have hseconds := seconds?_chars t isFractionless_nil
  rw [ofText?, text, String.toList_ofList, ofChars?, ← List.append_nil t.chars, chars_append,
    hoursMinutes?_chars]
  simp only [literal?_trimStart_colon, Option.bind_some, hseconds, Option.getD_some, bind]
  exact t.ofParts?_parts

/-- The last moment of a day, in a leap second. -/
example : text ⟨nanosPerDay - 1, by decide⟩ = "23:59:60.999999999" := by decide +kernel

end TimeOfDay

end Courier
