import Courier.Text.Blank
import Courier.Text.Digits

/-!
# Times of day

A time of day is counted in nanoseconds, with room for 61 seconds in every minute: the last of them
is a leap second, written as second 60. So the order of the counts is the order of the times, and
every count below the length of the day is a time.

* `TimeOfDay.text`: hours, minutes and seconds in two digits each, and the fewest of 0, 3, 6 or 9
  digits of a fraction that are exact.
* `TimeOfDay.ofText?`: reads hours and minutes, and seconds with a fraction if they follow. Blanks
  may stand around each number.
-/

namespace Courier

/-- Nanoseconds in a second. -/
def nanosPerSecond : Nat := 1_000_000_000

/-- Nanoseconds in a minute that ends in a leap second. -/
def nanosPerMinute : Nat := 61 * nanosPerSecond

/-- Minutes in a day. -/
def minutesPerDay : Nat := 1440

/-- Nanoseconds in a day of minutes of 61 seconds. -/
def nanosPerDay : Nat := minutesPerDay * nanosPerMinute

/-- A time of day, counted in nanoseconds with 61 seconds in every minute. -/
structure TimeOfDay where
  /-- The count, which is also the rank of the time among all times of day. -/
  rank : Nat
  rank_lt : rank < nanosPerDay
  deriving DecidableEq

namespace TimeOfDay

instance : Inhabited TimeOfDay := ⟨⟨0, by decide⟩⟩

instance : LE TimeOfDay := ⟨fun a b => a.rank ≤ b.rank⟩
instance : LT TimeOfDay := ⟨fun a b => a.rank < b.rank⟩
instance (a b : TimeOfDay) : Decidable (a ≤ b) := Nat.decLe a.rank b.rank
instance (a b : TimeOfDay) : Decidable (a < b) := Nat.decLt a.rank b.rank

/-- The minute of the day, from 0. -/
def minuteOfDay (t : TimeOfDay) : Nat := t.rank / nanosPerMinute

/-- The nanoseconds since the start of the minute. -/
def nanosOfMinute (t : TimeOfDay) : Nat := t.rank % nanosPerMinute

def hour (t : TimeOfDay) : Nat := t.minuteOfDay / 60
def minute (t : TimeOfDay) : Nat := t.minuteOfDay % 60

/-- The second of the minute; 60 in a leap second. -/
def second (t : TimeOfDay) : Nat := t.nanosOfMinute / nanosPerSecond

/-- The nanoseconds since the start of the second. -/
def nano (t : TimeOfDay) : Nat := t.nanosOfMinute % nanosPerSecond

/-- Whether the time lies in a leap second. -/
def isLeap (t : TimeOfDay) : Bool := 60 ≤ t.second

/-- The time of day of the given parts, if they are in range. -/
def ofParts? (hour minute second nano : Nat) : Option TimeOfDay :=
  if h : hour < 24 ∧ minute < 60 ∧ second ≤ 60 ∧ nano < nanosPerSecond then
    some ⟨(hour * 60 + minute) * nanosPerMinute + second * nanosPerSecond + nano, by
      obtain ⟨h1, h2, h3, h4⟩ := h
      simp only [nanosPerDay, nanosPerMinute, nanosPerSecond, minutesPerDay] at *
      omega⟩
  else none

/-- The digits of a fraction of a second after its point: none, 3, 6 or 9, the fewest that are
    exact. -/
def fractionChars (nano : Nat) : List Char :=
  if nano = 0 then []
  else if nano % 1_000_000 = 0 then '.' :: Text.padded 3 (nano / 1_000_000)
  else if nano % 1_000 = 0 then '.' :: Text.padded 6 (nano / 1_000)
  else '.' :: Text.padded 9 nano

/-- The characters of a time of day. -/
def chars (t : TimeOfDay) : List Char :=
  Text.padded 2 t.hour ++ ':' :: Text.padded 2 t.minute ++ ':' :: Text.padded 2 t.second ++
    fractionChars t.nano

/-- The text of a time of day. -/
def text (t : TimeOfDay) : String := .ofList t.chars

/-- The microseconds since midnight, a leap second counted as the second after it. -/
def microseconds (t : TimeOfDay) : Nat :=
  (t.minuteOfDay * (60 * nanosPerSecond) + t.nanosOfMinute) / 1000

/-- The time of day so many microseconds after midnight. After a day it is midnight again. -/
def ofMicroseconds (count : Nat) : TimeOfDay :=
  ⟨count / 60_000_000 % minutesPerDay * nanosPerMinute + count % 60_000_000 * 1000, by
    simp only [nanosPerDay, nanosPerMinute, nanosPerSecond, minutesPerDay]
    omega⟩

end TimeOfDay

/-! ### Reading the numbers of a time -/

namespace Text

/-- Reads a number of at least one and at most `most` decimal digits. -/
def number? (most : Nat) (cs : List Char) : Option (Nat × List Char) :=
  let found := (cs.take most).takeWhile fun c => (digitValue? c).isSome
  if found.isEmpty then none
  else some (found.foldl (fun n c => n * 10 + (digitValue? c).getD 0) 0, cs.drop found.length)

/-- Reads a number of at most two digits after any blanks. -/
def twoDigits? (cs : List Char) : Option (Nat × List Char) :=
  number? 2 (trimStart cs)

/-- Passes over the given character. -/
def literal? (c : Char) : List Char → Option (List Char)
  | [] => none
  | d :: cs => if d = c then some cs else none

/-- Reads the digits of a fraction of a second as nanoseconds. Digits after the ninth are passed
    over. -/
def fraction? (cs : List Char) : Option (Nat × List Char) :=
  (number? 9 cs).map fun (value, rest) =>
    (value * Nat.pow 10 (9 - (cs.length - rest.length)),
      rest.dropWhile fun c => (digitValue? c).isSome)

/-- Reads a fraction of a second where a point begins one, and else nothing. -/
def optionalFraction? : List Char → Option (Nat × List Char)
  | '.' :: cs => fraction? cs
  | cs => some (0, cs)

/-- Reads seconds and their fraction. -/
def seconds? (cs : List Char) : Option ((Nat × Nat) × List Char) := do
  let (second, cs) ← twoDigits? cs
  if 60 < second then failure
  let (nano, cs) ← optionalFraction? cs
  return ((second, nano), cs)

/-- Reads hours and minutes with a colon between them. -/
def hoursMinutes? (cs : List Char) : Option ((Nat × Nat) × List Char) := do
  let (hour, cs) ← twoDigits? cs
  if 23 < hour then failure
  let cs ← literal? ':' (trimStart cs)
  let (minute, cs) ← twoDigits? cs
  if 59 < minute then failure
  return ((hour, minute), cs)

end Text

namespace TimeOfDay

/-- Reads a time of day: hours and minutes, seconds if a colon brings them, and nothing else but
    blanks. -/
def ofChars? (cs : List Char) : Option TimeOfDay := do
  let ((hour, minute), cs) ← Text.hoursMinutes? cs
  let withSeconds := (Text.literal? ':' (Text.trimStart cs)).bind Text.seconds?
  let ((second, nano), cs) := withSeconds.getD ((0, 0), cs)
  if (Text.trimStart cs).isEmpty then ofParts? hour minute second nano else none

/-- The time of day that a text says. -/
def ofText? (text : String) : Option TimeOfDay := ofChars? text.toList

end TimeOfDay

end Courier
