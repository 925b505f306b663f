import Courier.Outbox.Event

/-!
# The outbox

Events are stored in the outbox, fetched from it to be published, and marked by what came of that.
`Store` keeps the events in memory, in the order in which they were stored.

* `Op`: what is asked of an outbox, with `Op.Answer` for what comes back.
* `Store.store`: all events of a batch or none of them.
* `Store.fetch`: the oldest events of a status.
* `Store.perform`: the answer to an operation and the store after it.
-/

namespace Courier.Outbox

/-- What is asked of an outbox. -/
inductive Op
  /-- Store a batch of events. -/
  | store (events : List Event)
  /-- Fetch the oldest pending events. -/
  | fetchUnpublished (limit : Int)
  | markPublished (id : Uuid)
  /-- Count a failure. -/
  | markFailed (id : Uuid) (reason : String)
  | markAbandoned (id : Uuid)
  /-- Fetch the oldest abandoned events. -/
  | fetchAbandoned (limit : Int)

/-- What an operation answers: fetched events, or the new count of failures. -/
abbrev Op.Answer : Op → Type
  | store _ | markPublished _ | markAbandoned _ => Unit
  | fetchUnpublished _ | fetchAbandoned _ => List Event
  | markFailed _ _ => UInt32

/-- The first identifier in a list that has been seen before. -/
def firstSeen (seen : List Uuid) : List Uuid → Option Uuid
  | [] => none
  | id :: ids => if id ∈ seen then some id else firstSeen (id :: seen) ids

/-- The error for an event that is not in the outbox. -/
def missing (id : Uuid) : DeliveryError := .notFound ("outbox event " ++ id.text)

/-- The events of an outbox in memory, in the order in which they were stored. -/
structure Store where
  events : List Event

namespace Store

/-- The outbox without events. -/
def empty : Store := ⟨[]⟩

instance : Inhabited Store := ⟨empty⟩

/-- The event with the given identifier. -/
def get? (s : Store) (id : Uuid) : Option Event := s.events.find? fun e => e.id = id

def size (s : Store) : Nat := s.events.length

/-- Stores a batch, unless one of its identifiers is taken or comes twice. -/
def store (s : Store) (batch : List Event) : Except DeliveryError Store :=
  match firstSeen (s.events.map (·.id)) (batch.map (·.id)) with
  | some id => .error (.outbox ("duplicate outbox event id " ++ id.text))
  | none => .ok ⟨s.events ++ batch⟩

/-- The oldest events of a status, at most so many; of the same age the one stored first. -/
def fetch (s : Store) (status : Status) (limit : Int) : List Event :=
  ((s.events.filter fun e => e.status = status).mergeSort
    fun a b => a.createdAt ≤ b.createdAt).take limit.toNat

/-- Changes the first event with the given identifier in a list. -/
def updateFirst (id : Uuid) (f : Event → Event) : List Event → List Event
  | [] => []
  | e :: es => if e.id = id then f e :: es else e :: updateFirst id f es

/-- Changes the event with the given identifier and gives it as it is then. -/
def update (s : Store) (id : Uuid) (f : Event → Event) : Except DeliveryError (Event × Store) :=
  match s.get? id with
  | none => .error (missing id)
  | some e => .ok (f e, ⟨updateFirst id f s.events⟩)

/-- The answer to an operation at the given time, and the store after it. -/
def perform (now : Instant) : (op : Op) → Store → Except DeliveryError op.Answer × Store
  | .store batch, s =>
    match s.store batch with
    | .error error => (.error error, s)
    | .ok s => (.ok (), s)
  | .fetchUnpublished limit, s => (.ok (s.fetch .pending limit), s)
  | .fetchAbandoned limit, s => (.ok (s.fetch .abandoned limit), s)
  | .markPublished id, s =>
    match s.update id fun e => e.recordPublished now with
    | .error error => (.error error, s)
    | .ok (_, s) => (.ok (), s)
  | .markFailed id reason, s =>
    match s.update id fun e => e.recordFailure reason with
    | .error error => (.error error, s)
    | .ok (e, s) => (.ok e.retryCount, s)
  | .markAbandoned id, s =>
    match s.update id fun e => e.recordAbandoned with
    | .error error => (.error error, s)
    | .ok (_, s) => (.ok (), s)

end Store

end Courier.Outbox
