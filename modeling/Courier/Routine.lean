import Courier.Request

/-!
# Routines

A routine runs in the background: again and again it waits for something, and then does a round of
work. It can be cancelled, but only while it waits. A round that has begun is carried through.

* `Wait`: what a routine waits for, with `Wait.Event` for what then happens.
* `Routine`: what a routine does at its start, in each round and at its end.
-/

namespace Courier

/-- What a routine waits for. -/
inductive Wait
  /-- The next tick of its clock. -/
  | tick
  /-- The next delivery of its subscriptions. -/
  | delivery
  deriving DecidableEq

/-- What happens while a routine waits: a tick, or a delivery unless all subscriptions have
    ended. -/
abbrev Wait.Event : Wait → Type
  | tick => Unit
  | delivery => Option Delivery

/-- Work that is done in the background. -/
structure Routine where
  wait : Wait
  opening : Action Unit
  /-- A round of work, which says whether another one may follow. -/
  round : wait.Event → Action Bool
  closing : Action Unit

end Courier
