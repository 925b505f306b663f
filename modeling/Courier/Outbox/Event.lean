import Courier.Error
import Courier.Json.Record

/-!
# Outbox events

An event waits in the outbox until it has been published, or until it has failed so often that it is
abandoned. What happens to an event is recorded in it.

* `Event.recordPublished`: keeps the first time of publication.
* `Event.recordFailure`: counts the failure, up to the greatest count there is.
* `Event.recordAbandoned`: abandons a pending event and no other.
-/

namespace Courier.Outbox

/-- Where an event stands. -/
inductive Status
  /-- It is to be published. -/
  | pending
  /-- It has been published. -/
  | published
  /-- It has failed too often, and stays where it is. -/
  | abandoned
  deriving DecidableEq

namespace Status

def name : Status → String
  | pending => "pending"
  | published => "published"
  | abandoned => "abandoned"

instance : Named Status where
  all := [pending, published, abandoned]
  name := name
  mem_all a := by cases a <;> decide
  name_injective a b := by cases a <;> cases b <;> decide

instance : Json.Codec Status := Json.namedCodec Status

/-- Whether nothing more is done with an event. -/
def isTerminal (s : Status) : Bool := s ≠ pending

/-- The status with the given name. -/
def ofText? (text : String) : Except DeliveryError Status :=
  match Named.ofName? text with
  | some s => .ok s
  | none => .error (.parse ("unknown outbox status: " ++ text))

end Status

/-- An event in the outbox. -/
structure Event where
  /-- The identifier, under which the event is also published. -/
  id : Uuid
  aggregateType : String
  aggregateId : String
  /-- The type, by which the event is routed. -/
  eventType : String
  payload : Bytes
  createdAt : Instant
  publishedAt : Option Instant
  /-- How often publishing has failed. -/
  retryCount : UInt32
  /-- The reason of the last failure. -/
  lastError : Option String
  status : Status
  deriving DecidableEq

namespace Event

instance : Json.Model Event where
  fields := [.plain "id" Uuid, .plain "aggregate_type" String, .plain "aggregate_id" String,
    .plain "event_type" String, .plain "payload" Bytes, .plain "created_at" Instant,
    .plain "published_at" (Option Instant), .plain "retry_count" UInt32,
    .plain "last_error" (Option String), .plain "status" Status]
  toRecord e := (e.id, e.aggregateType, e.aggregateId, e.eventType, e.payload, e.createdAt,
    e.publishedAt, e.retryCount, e.lastError, e.status, ())
  ofRecord := fun (id, aggregateType, aggregateId, eventType, payload, createdAt, publishedAt,
      retryCount, lastError, status, _) =>
    ⟨id, aggregateType, aggregateId, eventType, payload, createdAt, publishedAt, retryCount,
      lastError, status⟩
  ofRecord_toRecord _ := rfl

def isPending (e : Event) : Bool := e.status = .pending

/-- Whether the event has failed as often as it may. -/
def isExhausted (e : Event) (maxRetries : UInt32) : Bool := maxRetries ≤ e.retryCount

/-- The event as published at the given time, unless a time is already recorded. -/
def recordPublished (e : Event) (now : Instant) : Event :=
  { e with publishedAt := e.publishedAt.or (some now), status := .published }

/-- The next count of failures; the greatest count stays. -/
def nextCount (n : UInt32) : UInt32 := if n = 0xFFFFFFFF then n else n + 1

/-- The event after one more failure. -/
def recordFailure (e : Event) (reason : String) : Event :=
  { e with retryCount := nextCount e.retryCount, lastError := some reason }

/-- The event as abandoned, if it was pending. -/
def recordAbandoned (e : Event) : Event :=
  if e.status = .pending then { e with status := .abandoned } else e

end Event

end Courier.Outbox
