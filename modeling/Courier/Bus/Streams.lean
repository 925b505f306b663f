import Courier.Bus.Memory
import Courier.Table

/-!
# Reading several subscriptions

A consumer reads the subscriptions of its topics side by side. Those that may have something to read
stand in a queue: the first one is read, and goes to the end of the queue when it has yielded a
delivery, or is parked until something is published when it has nothing to read.

* `Streams.poll`: reads on until there is a delivery, everything is parked, or all have ended.
* `Streams.wake`: takes a parked subscription back into the queue.
-/

namespace Courier

/-- Subscriptions that are read side by side. -/
structure Streams where
  /-- The subscriptions that have not ended, by their numbers. -/
  live : Table Nat Subscription
  /-- The numbers of those that may have something to read, in the order of reading. -/
  ready : List Nat
  /-- The numbers of those that wait for something to be published, each with the rank at which it
      was parked. -/
  parked : List (Nat × Nat)

namespace Streams

/-- Subscriptions of which none has been read. -/
def new (subscriptions : List Subscription) : Streams :=
  ⟨⟨(List.range subscriptions.length).zip subscriptions⟩, List.range subscriptions.length, []⟩

/-- What comes of reading. -/
inductive Reading
  /-- All subscriptions have ended. -/
  | ended
  | delivery (d : Delivery)
  /-- There is nothing to read. -/
  | waiting
  /-- There is nothing to read, but whoever reads is asked to come again soon. -/
  | yielded

/-- How many events were lost at each place where a subscription was moved forward, what comes of
    reading, how many subscriptions have ended, the subscriptions then, and the next free rank. -/
structure Step where
  lost : List Nat
  reading : Reading
  finished : Nat
  streams : Streams
  rank : Nat

/-- Reads the subscriptions with the given numbers in order. So many have been read since the last
    one has ended. When that makes all of them, whoever reads is asked to come again. -/
def pollFrom (bus : MemoryBus) (count finished rank : Nat) (s : Streams) : List Nat → Step
  | [] =>
    ⟨[], if s.live.entries.isEmpty then .ended else .waiting, finished, { s with ready := [] },
      rank⟩
  | i :: rest =>
    match s.live.get? i with
    | none => pollFrom bus count finished rank s rest
    | some subscription =>
      match bus.next subscription with
      | (lost, .delivery d, subscription) =>
        ⟨lost, .delivery d, finished,
          { s with live := s.live.insert i subscription, ready := rest ++ [i] }, rank⟩
      | (lost, .ended, _) =>
        let step := pollFrom bus 0 (finished + 1) rank { s with live := s.live.erase i } rest
        { step with lost := lost ++ step.lost }
      | (lost, .waiting, subscription) =>
        let s : Streams :=
          { s with live := s.live.insert i subscription, parked := s.parked ++ [(i, rank)] }
        if count + 1 = s.live.entries.length then
          ⟨lost, .yielded, finished, { s with ready := rest }, rank + 1⟩
        else
          let step := pollFrom bus (count + 1) finished (rank + 1) s rest
          { step with lost := lost ++ step.lost }

/-- Reads on until there is a delivery, everything is parked, or all subscriptions have ended. -/
def poll (bus : MemoryBus) (rank : Nat) (s : Streams) : Step :=
  pollFrom bus 0 0 rank s s.ready

/-- Takes a parked subscription back into the queue. -/
def wake (s : Streams) (i : Nat) : Streams :=
  { s with ready := s.ready ++ [i], parked := s.parked.filter fun p => p.1 ≠ i }

/-- How many events there are to read at most, counting one more for each subscription. -/
def backlog (bus : MemoryBus) (s : Streams) : Nat :=
  s.live.values.foldl (fun count subscription =>
    count + (bus.log.length + 1 - subscription.position)) 0

end Streams

end Courier
