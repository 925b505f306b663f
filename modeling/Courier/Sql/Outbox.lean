import Courier.Outbox.Store
import Courier.Sql.Session

/-!
# The outbox in a database

The operations of the outbox as statements. A batch is stored in one transaction; when it belongs to
a transaction that somebody else has begun, only its insertions are run.

* `Outbox.params`, `Outbox.decode`: an event as parameters, and from a row.
* `Outbox.insertAll`: the insertions of a batch.
* `Outbox.perform`: the session of an operation.
-/

namespace Courier.Sql.Outbox

open Courier.Outbox

/-- The table of events. -/
def relation : Relation where
  name := "outbox_events"
  columns := ["id", "aggregate_type", "aggregate_id", "event_type", "payload", "created_at",
    "published_at", "retry_count", "last_error", "status"]

/-- An event as the parameters of its insertion. -/
def params (e : Event) : List Value :=
  [Stored.toValue e.id, Stored.toValue e.aggregateType, Stored.toValue e.aggregateId,
    Stored.toValue e.eventType, Stored.toValue e.payload, Stored.toValue e.createdAt,
    Stored.toValue e.publishedAt, Stored.toValue (countToInteger e.retryCount),
    Stored.toValue e.lastError, Stored.toValue e.status.name]

/-- Reads a row as an event, unless its status is none. -/
def decode (r : Row) : Except Failure (Except DeliveryError Event) := do
  let id ← r.get "id"
  let aggregateType ← r.get "aggregate_type"
  let aggregateId ← r.get "aggregate_id"
  let eventType ← r.get "event_type"
  let payload ← r.get "payload"
  let createdAt ← r.get "created_at"
  let publishedAt ← r.get "published_at"
  let retryCount ← r.get "retry_count"
  let lastError ← r.get "last_error"
  let status ← r.get "status"
  return (Status.ofText? status).map fun status =>
    ⟨id, aggregateType, aggregateId, eventType, payload, createdAt, publishedAt,
      integerToCount retryCount, lastError, status⟩

/-- Runs the insertions of a batch, up to the first that is refused. -/
def insertAll : List Event → Session (Except Failure Unit)
  | [] => return .ok ()
  | e :: es => do
    match ← run relation.insertion (params e) with
    | .error failure => return .error failure
    | .ok _ => insertAll es

/-- Stores a batch. -/
def store (batch : List Event) : Session (Except Failure Unit) :=
  if batch.isEmpty then return .ok () else transaction (insertAll batch)

/-- Fetches the oldest events of a status. -/
def fetch (status : Status) (limit : Int) : Session (Except DeliveryError (List Event)) := do
  if limit ≤ 0 then return .ok []
  let rows ← fetchAll decode
    (relation.selection "status = $1 ORDER BY created_at ASC LIMIT $2")
    [Stored.toValue status.name, Stored.toValue limit]
  return match rows with
    | .error failure => .error failure.toError
    | .ok events => events.mapM id

/-- Marks an event as published. -/
def markPublished (id : Uuid) : Session (Except DeliveryError Unit) := do
  let affected ← execute ("UPDATE outbox_events SET " ++
    "published_at = COALESCE(published_at, NOW()), status = 'published' WHERE id = $1")
    [Stored.toValue id]
  return match affected with
    | .error failure => .error failure.toError
    | .ok 0 => .error (missing id)
    | .ok _ => .ok ()

/-- Counts a failure. -/
def markFailed (id : Uuid) (reason : String) : Session (Except DeliveryError UInt32) := do
  let count : Except Failure (Option Int) ← fetchFirst (fun r => r.only "retry_count")
    ("UPDATE outbox_events SET retry_count = retry_count + 1, last_error = $2 WHERE id = $1 " ++
      "RETURNING retry_count") [Stored.toValue id, Stored.toValue reason]
  return match count with
    | .error failure => .error failure.toError
    | .ok none => .error (missing id)
    | .ok (some n) => .ok (integerToCount n)

/-- Abandons a pending event. -/
def markAbandoned (id : Uuid) : Session (Except DeliveryError Unit) := do
  let affected ← execute ("UPDATE outbox_events SET status = 'abandoned' " ++
    "WHERE id = $1 AND status = 'pending'") [Stored.toValue id]
  return match affected with
    | .error failure => .error failure.toError
    | .ok _ => .ok ()

/-- The session of an operation. -/
def perform : (op : Op) → Session (Except DeliveryError op.Answer)
  | .store batch => do
    let outcome ← store batch
    return outcome.mapError Failure.toError
  | .fetchUnpublished limit => fetch .pending limit
  | .fetchAbandoned limit => fetch .abandoned limit
  | .markPublished id => markPublished id
  | .markFailed id reason => markFailed id reason
  | .markAbandoned id => markAbandoned id

end Courier.Sql.Outbox
