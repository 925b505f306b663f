import Courier.Bus.Delivery
import Courier.Bus.Topic

/-!
# The bus in memory

A bus that keeps the events published to it in a log. A subscriber reads the log from a position of
its own on, and sees the events that its topic selects. The bus promises only its last events, as
many as its capacity: a subscriber that falls further behind is moved forward, and told how many
events it has lost.

* `MemoryBus.bind`: keeps the place in the log for the first subscriber of a topic.
* `MemoryBus.subscribe`: a subscription from the kept place on, or from now on.
* `MemoryBus.publish`: adds an event to the log, if anybody is there to read it.
* `MemoryBus.read`: one step of a subscription; `MemoryBus.next` reads on to a delivery.

Closing the bus ends every subscription at once, and everything that is not read then stays unread.
-/

namespace Courier

/-- A bus in memory. -/
structure MemoryBus where
  /-- How many of the last events are kept for subscribers. -/
  capacity : Nat
  /-- The events published, the first one first. -/
  log : List BusEvent
  /-- The topics for which a place in the log is kept. -/
  bindings : List (String × Nat)
  /-- How many subscriptions there are. -/
  subscribers : Nat
  isClosed : Bool
  /-- How many deliveries have been confirmed. -/
  confirmed : Nat

/-- A place in the log from which a subscriber reads, and the pattern of the events that it sees. -/
structure Subscription where
  pattern : String
  position : Nat

namespace MemoryBus

/-- A bus that keeps at least so many events: as many as the next power of two. -/
def new (capacity : Nat) : MemoryBus := ⟨capacity.nextPowerOfTwo, [], [], 0, false, 0⟩

/-- The capacity of a bus for which none is given. -/
def defaultCapacity : Nat := 1024

instance : Inhabited MemoryBus := ⟨new defaultCapacity⟩

/-- The error for what is asked of a closed bus. -/
def closedError : DeliveryError := .bus "in-memory bus is closed"

/-- Keeps the present place in the log for the first subscriber of a topic. A place that is already
    kept stays. -/
def bind (b : MemoryBus) (topic : String) : MemoryBus :=
  match b.bindings.lookup topic with
  | some _ => b
  | none => { b with bindings := b.bindings ++ [(topic, b.log.length)] }

/-- The place at which a new subscriber of a topic begins. -/
def start (b : MemoryBus) (topic : String) : Nat :=
  (b.bindings.lookup topic).getD b.log.length

/-- A new subscription. The place kept for its topic goes over to it. -/
def subscribe (b : MemoryBus) (topic : String) : Except DeliveryError (Subscription × MemoryBus) :=
  if b.isClosed then .error closedError
  else .ok (⟨Topic.subtree topic, b.start topic⟩,
    { b with
      bindings := b.bindings.filter fun e => e.1 ≠ topic
      subscribers := b.subscribers + 1 })

/-- The bus after so many subscriptions have been given up. -/
def unsubscribe (b : MemoryBus) (count : Nat) : MemoryBus :=
  { b with subscribers := b.subscribers - count }

/-- Whether anybody reads, or will read, what is published. -/
def hasReaders (b : MemoryBus) : Bool := 0 < b.subscribers || !b.bindings.isEmpty

/-- What becomes of an event that is published. -/
inductive Publication
  | sent
  /-- Nobody is there to read it. -/
  | unheard

/-- Publishes an event. -/
def publish (b : MemoryBus) (e : BusEvent) : Except DeliveryError (Publication × MemoryBus) :=
  if b.isClosed then .error closedError
  else if b.hasReaders then .ok (.sent, { b with log := b.log ++ [e] })
  else .ok (.unheard, b)

/-- Closes the bus. -/
def close (b : MemoryBus) : MemoryBus := { b with isClosed := true }

/-- Counts a confirmed delivery. -/
def confirm (b : MemoryBus) : MemoryBus := { b with confirmed := b.confirmed + 1 }

/-- The first position whose event is still kept. -/
def oldest (b : MemoryBus) : Nat := b.log.length - b.capacity

/-- What one step of a subscription comes upon. -/
inductive Reading
  /-- The bus is closed. -/
  | ended
  /-- There is nothing to read yet. -/
  | waiting
  /-- So many events were lost. -/
  | lagged (skipped : Nat)
  /-- An event that the topic does not select. -/
  | passed
  | event (e : BusEvent)

/-- One step of a subscription: what it comes upon, and where it stands then. -/
def read (b : MemoryBus) (s : Subscription) : Reading × Subscription :=
  if b.isClosed then (.ended, s)
  else if s.position < b.oldest then
    (.lagged (b.oldest - s.position), { s with position := b.oldest })
  else
    match b.log[s.position]? with
    | none => (.waiting, s)
    | some e =>
      (if Topic.isMatch s.pattern e.eventType then .event e else .passed,
        { s with position := s.position + 1 })

/-- What a subscription yields. -/
inductive Yield
  | ended
  | waiting
  | delivery (d : Delivery)

/-- Reads on until there is a delivery or nothing more to read. The first part lists how many events
    were lost each time the subscription was moved forward. -/
def next (b : MemoryBus) (s : Subscription) : List Nat × Yield × Subscription :=
  go (b.log.length + 1 - s.position) s
where
  /-- Takes at most so many steps and one more. -/
  go : Nat → Subscription → List Nat × Yield × Subscription
    | steps, s =>
      match b.read s with
      | (.ended, s) => ([], .ended, s)
      | (.waiting, s) => ([], .waiting, s)
      | (.event e, s) => ([], .delivery ⟨e, some .counted⟩, s)
      | (.passed, s) =>
        match steps with
        | 0 => ([], .waiting, s)
        | steps + 1 => go steps s
      | (.lagged skipped, s) =>
        match steps with
        | 0 => ([skipped], .waiting, s)
        | steps + 1 =>
          let (lost, yield, s) := go steps s
          (skipped :: lost, yield, s)

end MemoryBus

end Courier
