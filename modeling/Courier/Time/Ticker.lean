/-!
# Tickers

A ticker is due at its start and then once in every period. A tick that comes late does not move the
later ones: they stay on the grid of multiples of the period from the start. Ticks that have been
missed altogether are skipped.

* `Ticker.tick`: the ticker after a tick at the given time.
-/

namespace Courier

/-- A source of ticks. -/
structure Ticker where
  /-- The milliseconds between two ticks. -/
  period : Nat
  /-- When the next tick is due. -/
  due : Nat
  deriving DecidableEq

namespace Ticker

/-- A ticker that starts at the given time. -/
def start (period now : Nat) : Ticker := ⟨period, now⟩

/-- Whether a tick is due. -/
def isDue (t : Ticker) (now : Nat) : Bool := t.due ≤ now

/-- How many milliseconds late a tick may come before those after it count as missed. -/
def tolerance : Nat := 5

/-- The ticker after a tick at the given time. The next tick is due a period after this one was, or
    if this one came too late, at the next point of the grid after the given time. -/
def tick (t : Ticker) (now : Nat) : Ticker :=
  { t with
    due := if t.due + tolerance < now then now + t.period - (now - t.due) % t.period
      else t.due + t.period }

end Ticker

end Courier
