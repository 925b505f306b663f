import Courier.Amqp.Session

/-!
# Publishing to a broker

A publisher has a channel of its own, on which each message is confirmed by the broker. An event is
routed by its type, and its message carries the identifier and the type of the event.

* `Publisher.connect`, `Publisher.publish`, `Publisher.close`: the life of a publisher.
-/

namespace Courier.Amqp

/-- What publishes events to an exchange. -/
structure Publisher where
  connection : Connection
  channel : Channel
  exchange : String

namespace Publisher

/-- Connects a publisher to an exchange. -/
def connect (host exchange : String) : Session (Except DeliveryError Publisher) := do
  match ← openChannel host exchange with
  | .error error => return .error error
  | .ok (connection, channel) =>
    match ← ask (.enableConfirms channel) with
    | .error reason =>
      closeQuietly connection channel
      return .error (failure "enable confirms" reason)
    | .ok _ =>
      note (.publisherConnected exchange)
      return .ok ⟨connection, channel, exchange⟩

/-- The properties of the message of an event that is published at the given time. -/
def properties (e : Outbox.Event) (now : Instant) : Properties where
  contentType := "application/json"
  deliveryMode := 2
  messageId := e.id.text
  type := e.eventType
  timestamp := (now.microseconds / 1_000_000).toNat

/-- Publishes an event, and waits until the broker has taken it. -/
def publish (p : Publisher) (e : Outbox.Event) : Session (Except DeliveryError Unit) := do
  let now ← ask .clock
  match ← ask (.publish p.channel p.exchange e.eventType e.payload (properties e now)) with
  | .error reason => return .error (.bus reason)
  | .ok .rejected => return .error (.bus ("broker rejected event " ++ e.id.text))
  | .ok .taken => return .ok ()

/-- Closes a publisher. -/
def close (p : Publisher) : Session (Except DeliveryError Unit) :=
  closeBoth p.connection p.channel

end Publisher

end Courier.Amqp
