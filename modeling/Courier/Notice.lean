import Courier.Bus.Delivery

/-!
# Notices

What the parts of the system report to the log. A notice is what has happened; its level, its
message and its fields are how the log shows it.

* `Notice.level`, `Notice.message`, `Notice.fields`: a notice as it is shown.
-/

namespace Courier

/-- How much a notice matters. -/
inductive Level
  | debug
  | info
  | warn
  | error
  deriving DecidableEq

/-- The name of a level in the log. -/
def Level.name : Level → String
  | debug => "DEBUG"
  | info => "INFO"
  | warn => "WARN"
  | error => "ERROR"

/-- The value of a field of a notice. -/
inductive Shown
  | text (s : String)
  | number (n : Nat)
  deriving DecidableEq

/-- Something that is reported to the log. -/
inductive Notice
  /-- A call that was worth a try has failed, and nothing follows from that. -/
  | bestEffortFailed (operation error : String)
  -- The worker
  | workerStarted (pollInterval batchSize : Nat) (maxRetries : UInt32)
  | workerStopped
  | fetchFailed (error : DeliveryError)
  | tickFinished (fetched published failed abandoned skipped : Nat)
  /-- An event that had already failed too often was fetched. -/
  | retriesExceeded (event : Outbox.Event) (maxRetries : UInt32)
  | publishFailed (event : Outbox.Event) (error : DeliveryError)
  /-- An event has just failed too often. -/
  | retriesReached (event : Outbox.Event) (retryCount : UInt32)
  | failureNotRecorded (event : Outbox.Event) (error : DeliveryError)
  | publicationNotRecorded (event : Outbox.Event) (error : DeliveryError)
  -- The consumer
  | consumerStarted (topics : List String)
  | consumerStopped
  | subscriptionsEnded
  | unhandled (event : BusEvent)
  | handlerFailed (handler : String) (event : BusEvent) (error : DeliveryError)
  | lagged (skipped : Nat)
  | taskFailed
  -- The notification service
  | malformedPayload (handler : String) (event : BusEvent)
  | preferencesUnknown (userId : Uuid) (error : ServiceError)
  | inAppDisabled (userId : Uuid)
  | pushDisabled (userId : Uuid)
  | pushPartlyFailed (userId : Uuid) (success failure : Nat)
  -- The broker
  | publisherConnected (exchange : String)
  | subscriberConnected (exchange queue : String) (topics : List String)
  | topicUnbound (topic queue : String)
  | subscriptionStarted (queue topic : String)
  | brokerConsumerFailed (error : String)

namespace Notice

/-- How much the notice matters. -/
def level : Notice → Level
  | tickFinished .. | inAppDisabled .. | pushDisabled .. => .debug
  | workerStarted .. | workerStopped | consumerStarted .. | consumerStopped | subscriptionsEnded
  | unhandled .. | pushPartlyFailed .. | publisherConnected .. | subscriberConnected ..
  | subscriptionStarted .. => .info
  | bestEffortFailed .. | retriesExceeded .. | publishFailed .. | retriesReached .. | lagged ..
  | preferencesUnknown .. | topicUnbound .. | brokerConsumerFailed .. => .warn
  | fetchFailed .. | failureNotRecorded .. | publicationNotRecorded .. | handlerFailed ..
  | taskFailed | malformedPayload .. => .error

/-- What the notice says. -/
def message : Notice → String
  | bestEffortFailed .. => "best-effort call failed"
  | workerStarted .. => "outbox worker started"
  | workerStopped => "outbox worker stopped"
  | fetchFailed .. => "outbox worker failed to fetch unpublished events"
  | tickFinished .. => "outbox tick finished"
  | retriesExceeded .. => "outbox event exceeded max retries, abandoning"
  | publishFailed .. => "failed to publish outbox event"
  | retriesReached .. => "outbox event reached max retries, abandoning"
  | failureNotRecorded .. => "failed to record outbox publish failure"
  | publicationNotRecorded .. => "failed to mark outbox event as published"
  | consumerStarted .. => "event consumer started"
  | consumerStopped => "event consumer stopped"
  | subscriptionsEnded => "subscription streams ended"
  | unhandled .. => "unhandled event type"
  | handlerFailed .. => "event handler failed"
  | lagged .. => "in-memory subscriber lagged behind"
  | taskFailed => "background task terminated abnormally"
  | malformedPayload .. => "malformed event payload, dropping"
  | preferencesUnknown .. => "preference lookup failed, falling back to defaults"
  | inAppDisabled .. => "in-app notifications disabled by user"
  | pushDisabled .. => "push notifications disabled by user"
  | pushPartlyFailed .. => "push partially failed"
  | publisherConnected .. => "amqp publisher connected"
  | subscriberConnected .. => "amqp subscriber connected"
  | topicUnbound .. => "topic was not bound at connect, binding now"
  | subscriptionStarted .. => "amqp subscription started"
  | brokerConsumerFailed .. => "amqp consumer error"

/-- The fields that name an outbox event. -/
def ofEvent (e : Outbox.Event) : List (String × Shown) :=
  [("event_id", .text e.id.text), ("event_type", .text e.eventType)]

/-- The fields that name an event on a bus. -/
def ofBusEvent (e : BusEvent) : List (String × Shown) :=
  [("event_id", .text e.id), ("event_type", .text e.eventType)]

/-- What the notice says it of. -/
def fields : Notice → List (String × Shown)
  | bestEffortFailed operation error => [("operation", .text operation), ("error", .text error)]
  | workerStarted pollInterval batchSize maxRetries =>
    [("poll_interval_ms", .number pollInterval), ("batch_size", .number batchSize),
      ("max_retries", .number maxRetries.toNat)]
  | fetchFailed error => [("error", .text error.text)]
  | tickFinished fetched published failed abandoned skipped =>
    [("fetched", .number fetched), ("published", .number published), ("failed", .number failed),
      ("abandoned", .number abandoned), ("skipped", .number skipped)]
  | retriesExceeded e maxRetries => ofEvent e ++
    [("retry_count", .number e.retryCount.toNat), ("max_retries", .number maxRetries.toNat),
      ("last_error", .text (e.lastError.getD ""))]
  | publishFailed e error => ofEvent e ++ [("error", .text error.text)]
  | retriesReached e retryCount => ofEvent e ++ [("retry_count", .number retryCount.toNat)]
  | failureNotRecorded e error | publicationNotRecorded e error =>
    [("event_id", .text e.id.text), ("error", .text error.text)]
  | consumerStarted topics => [("topics", .text (Text.quotedList topics))]
  | unhandled e => ofBusEvent e
  | handlerFailed handler e error =>
    ("handler", .text handler) :: ofBusEvent e ++ [("error", .text error.text)]
  | lagged skipped => [("skipped", .number skipped)]
  | malformedPayload handler e => ("handler", .text handler) :: ofBusEvent e
  | preferencesUnknown userId error =>
    [("user_id", .text userId.text), ("error", .text error.text)]
  | inAppDisabled userId | pushDisabled userId => [("user_id", .text userId.text)]
  | pushPartlyFailed userId success failure =>
    [("user_id", .text userId.text), ("success", .number success), ("failure", .number failure)]
  | publisherConnected exchange => [("exchange", .text exchange)]
  | subscriberConnected exchange queue topics =>
    [("exchange", .text exchange), ("queue", .text queue),
      ("topics", .text (Text.quotedList topics))]
  | topicUnbound topic queue => [("topic", .text topic), ("queue", .text queue)]
  | subscriptionStarted queue topic => [("queue", .text queue), ("topic", .text topic)]
  | brokerConsumerFailed error => [("error", .text error)]
  | workerStopped | consumerStopped | subscriptionsEnded | taskFailed => []

end Notice

end Courier
