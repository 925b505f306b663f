import Courier.Request

/-!
# Raised events

What happens to an aggregate is raised as an event, which is written as an outbox event at once. The
events of one piece of work are collected in the order in which they were raised, and then taken
together into the outbox.

* `EventMetadata.new`: what is known of an event that has just happened.
* `DomainEvent.toOutbox`: the outbox event of a domain event, if its payload can be written.
* `RaisedEvents.raise`, `RaisedEvents.take`, `RaisedEvents.clear`: the collection.
-/

namespace Courier

/-- What is known of every event. -/
structure EventMetadata where
  eventId : Uuid
  eventType : String
  aggregateType : String
  aggregateId : String
  occurredAt : Instant
  deriving DecidableEq

instance : Json.Model EventMetadata where
  fields := [.plain "event_id" Uuid, .plain "event_type" String, .plain "aggregate_type" String,
    .plain "aggregate_id" String, .plain "occurred_at" Instant]
  toRecord m := (m.eventId, m.eventType, m.aggregateType, m.aggregateId, m.occurredAt, ())
  ofRecord := fun (eventId, eventType, aggregateType, aggregateId, occurredAt, _) =>
    ⟨eventId, eventType, aggregateType, aggregateId, occurredAt⟩
  ofRecord_toRecord _ := rfl

/-- What is known of an event that has just happened, under a fresh identifier. -/
def EventMetadata.new (eventType aggregateType aggregateId : String) : Action EventMetadata := do
  let id ← ask .freshId
  let now ← ask .clock
  return ⟨id, eventType, aggregateType, aggregateId, now⟩

/-- Something that has happened to an aggregate. -/
structure DomainEvent where
  metadata : EventMetadata
  /-- The payload as JSON, or why it cannot be written. -/
  payload : Except String Bytes

namespace DomainEvent

/-- The outbox event of a domain event: pending, and not yet failed. -/
def toOutbox (e : DomainEvent) : Except DeliveryError Outbox.Event :=
  match e.payload with
  | .error reason => .error (.serialization reason)
  | .ok payload => .ok {
      id := e.metadata.eventId
      aggregateType := e.metadata.aggregateType
      aggregateId := e.metadata.aggregateId
      eventType := e.metadata.eventType
      payload := payload
      createdAt := e.metadata.occurredAt
      publishedAt := none
      retryCount := 0
      lastError := none
      status := .pending }

end DomainEvent

/-- The events raised in one piece of work, in order. -/
structure RaisedEvents where
  events : List Outbox.Event

namespace RaisedEvents

/-- Nothing raised yet. -/
def empty : RaisedEvents := ⟨[]⟩

instance : Inhabited RaisedEvents := ⟨empty⟩

/-- Raises an event. If it cannot be written, the collection stays as it is. -/
def raise (r : RaisedEvents) (e : DomainEvent) : Except DeliveryError Unit × RaisedEvents :=
  match e.toOutbox with
  | .error error => (.error error, r)
  | .ok row => (.ok (), ⟨r.events ++ [row]⟩)

/-- Takes all events out. -/
def take (r : RaisedEvents) : List Outbox.Event × RaisedEvents := (r.events, empty)

/-- Forgets all events. -/
def clear (_ : RaisedEvents) : RaisedEvents := empty

end RaisedEvents

end Courier
