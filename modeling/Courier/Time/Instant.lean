import Courier.Time.Calendar
import Courier.Time.TimeOfDay

/-!
# Instants

A point in time is counted in nanoseconds from 1970-01-01T00:00:00Z, with room for 61 seconds in
every minute, as in a time of day. So the order of the counts is the order of the instants, a leap
second included, and moving by whole minutes is addition.

* `Instant.text`: date, `T`, time of day and `Z`. A year outside 0 to 9999 is written with its sign.
* `Instant.ofText?`: reads a date, a time of day and an offset from UTC. Blanks may stand around
  numbers, and the offset may be `Z`, `UTC` or hours and minutes.
* `Instant.microseconds`, `Instant.ofMicroseconds`: the instant as a database keeps it.
-/

namespace Courier

/-- A point in time, counted in nanoseconds with 61 seconds in every minute. -/
structure Instant where
  ticks : Int
  deriving DecidableEq

namespace Instant

instance : Inhabited Instant := ⟨⟨0⟩⟩

instance : LE Instant := ⟨fun a b => a.ticks ≤ b.ticks⟩
instance : LT Instant := ⟨fun a b => a.ticks < b.ticks⟩
instance (a b : Instant) : Decidable (a ≤ b) := Int.decLe a.ticks b.ticks
instance (a b : Instant) : Decidable (a < b) := Int.decLt a.ticks b.ticks

/-- The number of whole days since 1970-01-01. -/
def day (t : Instant) : Int := t.ticks / nanosPerDay

/-- The time of day in UTC. -/
def timeOfDay (t : Instant) : TimeOfDay :=
  ⟨(t.ticks % nanosPerDay).toNat, by
    have h := Int.emod_lt_of_pos t.ticks (show (0 : Int) < nanosPerDay by decide)
    have h0 := Int.emod_nonneg t.ticks (show (nanosPerDay : Int) ≠ 0 by decide)
    omega⟩

/-- The date in UTC. -/
def date (t : Instant) : Date := .ofDays t.day

/-- The instant of a day and a time of day in UTC. -/
def ofDay (day : Int) (time : TimeOfDay) : Instant := ⟨day * nanosPerDay + time.rank⟩

/-- The instant so many minutes later. -/
def addMinutes (t : Instant) (minutes : Int) : Instant := ⟨t.ticks + minutes * nanosPerMinute⟩

/-! ### Writing -/

/-- The characters of a year: four digits, and outside 0 to 9999 a sign in front. -/
def yearChars (year : Int) : List Char :=
  if 0 ≤ year ∧ year ≤ 9999 then Text.padded 4 year.toNat
  else (if year < 0 then '-' else '+') :: Text.padded 4 year.natAbs

/-- The characters of an instant. -/
def chars (t : Instant) : List Char :=
  yearChars t.date.year ++ '-' :: Text.padded 2 t.date.month ++ '-' :: Text.padded 2 t.date.day ++
    'T' :: t.timeOfDay.chars ++ ['Z']

/-- The text of an instant. -/
def text (t : Instant) : String := .ofList t.chars

/-! ### Reading -/

/-- Reads a year: at most four digits, or a sign and any number of digits. -/
def year? (cs : List Char) : Option (Int × List Char) :=
  match Text.trimStart cs with
  | '-' :: rest => (Text.number? rest.length rest).map fun (n, rest) => (-(n : Int), rest)
  | '+' :: rest => (Text.number? rest.length rest).map fun (n, rest) => ((n : Int), rest)
  | rest => (Text.number? 4 rest).map fun (n, rest) => ((n : Int), rest)

/-- The least and the greatest year of a date that can be read. -/
def leastYear : Int := -262143
def greatestYear : Int := 262142

/-- Whether the year of a date is in range. -/
def yearInRange (d : Date) : Bool := leastYear ≤ d.year ∧ d.year ≤ greatestYear

/-- Reads a date whose parts are joined by hyphens. -/
def date? (cs : List Char) : Option (Date × List Char) := do
  let (year, cs) ← year? cs
  let cs ← Text.literal? '-' (Text.trimStart cs)
  let (month, cs) ← Text.twoDigits? cs
  let cs ← Text.literal? '-' (Text.trimStart cs)
  let (day, cs) ← Text.twoDigits? cs
  let d : Date := ⟨year, month, day⟩
  if d.isValid && yearInRange d then some (d, cs) else none

/-- Reads a time of day with its seconds. -/
def time? (cs : List Char) : Option (TimeOfDay × List Char) := do
  let ((hour, minute), cs) ← Text.hoursMinutes? cs
  let cs ← Text.literal? ':' (Text.trimStart cs)
  let ((second, nano), cs) ← Text.seconds? cs
  let t ← TimeOfDay.ofParts? hour minute second nano
  return (t, Text.trimStart cs)

/-- Reads exactly two digits. -/
def pair? : List Char → Option (Nat × List Char)
  | a :: b :: cs => do
    let tens ← Text.digitValue? a
    let ones ← Text.digitValue? b
    return (tens * 10 + ones, cs)
  | _ => none

/-- Reads hours and minutes of an offset, with any colons and blanks between them, as minutes. An
    offset is shorter than a day. -/
def offsetMinutes? (cs : List Char) : Option (Nat × List Char) := do
  let (hours, cs) ← pair? cs
  let (minutes, cs) ← pair? (cs.dropWhile fun c => c = ':' || Text.isBlank c)
  if 24 ≤ hours || 60 ≤ minutes then failure
  return (hours * 60 + minutes, cs)

/-- Reads an offset from UTC in minutes: `Z` or `UTC` in any case, or a sign, hours and minutes. The
    minus may be a hyphen or U+2212. -/
def offset? (cs : List Char) : Option (Int × List Char) :=
  if (cs.take 3).map Char.toUpper = ['U', 'T', 'C'] then some (0, cs.drop 3) else
  match cs with
  | 'Z' :: cs | 'z' :: cs => some (0, cs)
  | '+' :: cs => (offsetMinutes? cs).map fun (m, cs) => ((m : Int), cs)
  | '-' :: cs | '\u2212' :: cs => (offsetMinutes? cs).map fun (m, cs) => (-(m : Int), cs)
  | _ => none

/-- Passes over the mark between date and time of day: `T` in any case, or a space. -/
def separator? : List Char → Option (List Char)
  | c :: cs => if c = 'T' ∨ c = 't' ∨ c = ' ' then some cs else none
  | [] => none

/-- Reads an instant: date, time of day and offset, and nothing else but blanks. -/
def ofChars? (cs : List Char) : Option Instant := do
  let (date, cs) ← date? cs
  let cs ← separator? cs
  let (time, cs) ← time? cs
  let (offset, cs) ← offset? cs
  let t := (ofDay date.days time).addMinutes (-offset)
  if (Text.trimStart cs).isEmpty && yearInRange t.date then some t else none

/-- The instant that a text says. -/
def ofText? (text : String) : Option Instant := ofChars? text.toList

/-! ### Microseconds -/

/-- The microseconds from 1970-01-01T00:00:00Z, a leap second counted as the second after it, with
    what lies below a microsecond cut off toward 2000-01-01T00:00:00Z. -/
def microseconds (t : Instant) : Int :=
  let epoch : Int := 10957 * 86400 * nanosPerSecond
  let nanos := t.day * (86400 * nanosPerSecond) + t.timeOfDay.minuteOfDay * (60 * nanosPerSecond) +
    t.timeOfDay.nanosOfMinute
  (nanos - epoch).tdiv 1000 + epoch / 1000

/-- The instant so many microseconds after 1970-01-01T00:00:00Z. -/
def ofMicroseconds (count : Int) : Instant :=
  ⟨count / 60_000_000 * nanosPerMinute + count % 60_000_000 * 1000⟩

end Instant

end Courier
