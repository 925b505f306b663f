import Courier.Bus.Consumer
import Courier.Bus.Streams
import Courier.Outbox.Worker
import Courier.Routine
import Courier.Simulation.Surroundings
import Courier.Time.Ticker

/-!
# Simulated tasks

A task carries out a routine. It runs when its turn comes, until it has to wait: for its source, or
for the answer to a request that takes its time.

* `Source`: where the events of a routine come from: a ticker, or the subscriptions to a bus.
* `Task.turn`: a task in its turn.
-/

namespace Courier.Simulation

/-- Where the events come from that a routine waits for. -/
abbrev Source : Wait → Type
  | .tick => Ticker
  | .delivery => Streams

/-- What comes of asking a source. -/
inductive Polled (α : Type)
  | event (a : α)
  /-- Nothing, at least before the given time. -/
  | nothing (until? : Option Nat)
  /-- Nothing, but the source asks to be asked again soon. -/
  | yielded

/-- What a task is about. -/
inductive Activity
  /-- It has not had a turn yet. -/
  | fresh
  /-- It waits for its source. -/
  | waiting
  /-- It waits for an answer in its rounds, or in its closing. -/
  | paused (isClosing : Bool) (resume : Surroundings → Option (Action Bool) × Surroundings)
  /-- It has ended, in its own way or torn down. -/
  | over (isTornDown : Bool)

/-- A routine that is carried out. -/
structure Task where
  routine : Routine
  source : Source routine.wait
  activity : Activity
  /-- When the task is to be woken, if nothing wakes it before. -/
  alarm : Option Nat
  /-- Whether the task is to have another turn soon. -/
  yields : Bool

namespace Task

/-- Starts a worker's ticker, which is due at once. -/
def ofWorker (w : Outbox.Worker) : Task :=
  ⟨w.routine, ⟨w.period, 0⟩, .fresh, none, false⟩

/-- A consumer with the subscriptions of its topics. -/
def ofConsumer (c : Consumer) (subscriptions : List Subscription) : Task :=
  ⟨c.routine, .new subscriptions, .fresh, none, false⟩

/-- Whether the task has ended. -/
def isOver (t : Task) : Bool := t.activity matches .over _

/-- Whether the task waits for its source. -/
def isWaiting (t : Task) : Bool := t.activity matches .waiting

/-- Whether the task has been torn down. -/
def isTornDown (t : Task) : Bool := t.activity matches .over true

end Task

namespace Source

/-- The source at the first turn of a task: a ticker starts then. -/
def start : (w : Wait) → Source w → Nat → Source w
  | .tick, ticker, now => Ticker.start (Ticker.period ticker) now
  | .delivery, streams, _ => streams

/-- Asks a source for the next event. Places in the queue of a bus are given ranks, of which the
    next free one is given and comes back. -/
def poll : (w : Wait) → Source w → Nat → Surroundings →
    Polled w.Event × Source w × Nat × Surroundings
  | .tick, ticker, rank, s =>
    if Ticker.isDue ticker s.now then (.event (), Ticker.tick ticker s.now, rank, s)
    else (.nothing (some (Ticker.due ticker)), ticker, rank, s)
  | .delivery, streams, rank, s =>
    let step := Streams.poll s.bus rank streams
    let s := step.lost.foldl (fun s skipped => s.report (.lagged skipped)) s
    let s := { s with bus := s.bus.unsubscribe step.finished }
    let polled : Polled (Option Delivery) := match step.reading with
      | .ended => .event none
      | .delivery d => .event (some d)
      | .waiting => .nothing none
      | .yielded => .yielded
    (polled, step.streams, step.rank, s)

/-- How many events a source can yield at most, if nothing new comes and no time passes. -/
def backlog : (w : Wait) → Source w → Surroundings → Nat
  | .tick, ticker, s => s.now + 1 - Ticker.due ticker
  | .delivery, streams, s => Streams.backlog s.bus streams + 1

/-- Gives a source up. -/
def release : (w : Wait) → Source w → Surroundings → Surroundings
  | .tick, _, s => s
  | .delivery, streams, s =>
    { s with bus := s.bus.unsubscribe (Streams.live streams).entries.length }

/-- The places of a source in the queue of a bus. -/
def parked : (w : Wait) → Source w → List (Nat × Nat)
  | .tick, _ => []
  | .delivery, streams => Streams.parked streams

/-- Wakes what waits at a place in the queue of a bus. -/
def wake (i : Nat) : (w : Wait) → Source w → Source w
  | .tick, ticker => ticker
  | .delivery, streams => Streams.wake streams i

end Source

namespace Task

/-- A task after its turn, with the next free rank and the surroundings. -/
abbrev Turn := Task × Nat × Surroundings

/-- The task has ended. -/
def settle (t : Task) (isTornDown : Bool) (rank : Nat) (s : Surroundings) : Turn :=
  ({ t with activity := .over isTornDown, alarm := none, yields := false }, rank,
    t.source.release t.routine.wait s)

/-- The task waits for an answer. -/
def pause (t : Task) (isClosing : Bool) (delay : Nat)
    (resume : Surroundings → Option (Action Bool) × Surroundings) (rank : Nat)
    (s : Surroundings) : Turn :=
  ({ t with activity := .paused isClosing resume, alarm := some (s.now + delay), yields := false },
    rank, s)

/-- Goes on with the closing of the routine. -/
def close (t : Task) (action : Action Bool) (rank : Nat) (s : Surroundings) : Turn :=
  match runToDelay action s with
  | (.done _, s) => t.settle false rank s
  | (.broken, s) => t.settle true rank s
  | (.paused delay resume, s) => t.pause true delay resume rank s

/-- Goes on with a round of the routine, and with so many rounds after it at most. -/
def carryOn (isCancelled : Bool) : Nat → Task → Action Bool → Nat → Surroundings → Turn
  | rounds, t, action, rank, s =>
    match runToDelay action s with
    | (.broken, s) => t.settle true rank s
    | (.paused delay resume, s) => t.pause false delay resume rank s
    | (.done goesOn, s) =>
      if !goesOn || isCancelled then t.close (do t.routine.closing; return false) rank s
      else
        match Source.poll t.routine.wait t.source rank s with
        | (.nothing until?, source, rank, s) =>
          ({ t with source := source, activity := .waiting, alarm := until?, yields := false },
            rank, s)
        | (.yielded, source, rank, s) =>
          ({ t with source := source, activity := .waiting, alarm := none, yields := true },
            rank, s)
        | (.event e, source, rank, s) =>
          match rounds with
          | 0 => ({ t with activity := .waiting, alarm := none, yields := true }, rank, s)
          | rounds + 1 =>
            carryOn isCancelled rounds { t with source := source } (t.routine.round e) rank s

/-- Goes on with as many rounds as there can be. -/
def proceed (t : Task) (isCancelled : Bool) (action : Action Bool) (rank : Nat)
    (s : Surroundings) : Turn :=
  carryOn isCancelled (Source.backlog t.routine.wait t.source s + 1) t action rank s

/-- A task in its turn. -/
def turn (t : Task) (isCancelled : Bool) (rank : Nat) (s : Surroundings) : Turn :=
  match t.activity with
  | .over _ => (t, rank, s)
  | .fresh =>
    let t := { t with source := Source.start t.routine.wait t.source s.now }
    t.proceed isCancelled (do t.routine.opening; return true) rank s
  | .waiting => t.proceed isCancelled (return true) rank s
  | .paused isClosing resume =>
    match resume s with
    | (none, s) => t.settle true rank s
    | (some action, s) =>
      if isClosing then t.close action rank s else t.proceed isCancelled action rank s

end Task

end Courier.Simulation
