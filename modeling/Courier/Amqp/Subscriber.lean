import Courier.Amqp.Session

/-!
# Subscribing to a broker

A subscriber has a queue to which its topics are bound when it connects. Each subscription is a
consumer of that queue. A message becomes an event with the identifier and the type that it carries,
or else with no identifier and its routing key as its type.

* `Subscriber.connect`, `Subscriber.subscribe`, `Subscriber.close`: the life of a subscriber.
* `BusEvent.ofMessage`: the event of a message.
* `Subscription.next`, `Subscription.confirm`: reading and confirming deliveries.
-/

namespace Courier

/-- The event of a message. -/
def BusEvent.ofMessage (m : Amqp.Message) : BusEvent :=
  ⟨m.messageId.getD "", m.type.getD m.routingKey, m.payload⟩

namespace Amqp

/-- What subscribes to the topics that are bound to a queue. -/
structure Subscriber where
  connection : Connection
  channel : Channel
  exchange : String
  queue : String
  /-- The topics that were bound when the subscriber connected. -/
  topics : List String

/-- A consumer of a queue. -/
structure Subscription where
  channel : Channel
  consumer : ConsumerId

/-- Binds a topic and everything below it to a queue. -/
def bindTopic (channel : Channel) (queue exchange topic : String) :
    Session (Except DeliveryError Unit) := do
  match ← ask (.bindQueue channel queue exchange (Topic.subtree topic)) with
  | .error reason => return .error (failure ("bind " ++ Topic.subtree topic) reason)
  | .ok _ => return .ok ()

/-- Binds topics to a queue, up to the first that fails. -/
def bindTopics (channel : Channel) (queue exchange : String) :
    List String → Session (Except DeliveryError Unit)
  | [] => return .ok ()
  | topic :: topics => do
    match ← bindTopic channel queue exchange topic with
    | .error error => return .error error
    | .ok _ => bindTopics channel queue exchange topics

namespace Subscriber

/-- Connects a subscriber to an exchange, with its queue and its topics. -/
def connect (host exchange queue : String) (topics : List String) :
    Session (Except DeliveryError Subscriber) := do
  match ← openChannel host exchange with
  | .error error => return .error error
  | .ok (connection, channel) =>
    match ← ask (.declareQueue channel queue) with
    | .error reason =>
      closeQuietly connection channel
      return .error (failure ("declare queue " ++ queue) reason)
    | .ok _ =>
      match ← bindTopics channel queue exchange topics with
      | .error error =>
        closeQuietly connection channel
        return .error error
      | .ok _ =>
        note (.subscriberConnected exchange queue topics)
        return .ok ⟨connection, channel, exchange, queue, topics⟩

/-- Sees to it that a topic is bound. -/
def ensureBound (s : Subscriber) (topic : String) : Session (Except DeliveryError Unit) := do
  if topic ∈ s.topics then return .ok ()
  note (.topicUnbound topic s.queue)
  bindTopic s.channel s.queue s.exchange topic

/-- Subscribes to a topic. -/
def subscribe (s : Subscriber) (topic : String) :
    Session (Except DeliveryError Subscription) := do
  match ← s.ensureBound topic with
  | .error error => return .error error
  | .ok _ =>
    let id ← ask .freshId
    match ← ask (.consume s.channel s.queue (s.queue ++ "-" ++ id.text)) with
    | .error reason => return .error (failure ("consume " ++ s.queue) reason)
    | .ok consumer =>
      note (.subscriptionStarted s.queue topic)
      return .ok ⟨s.channel, consumer⟩

/-- Closes a subscriber. -/
def close (s : Subscriber) : Session (Except DeliveryError Unit) :=
  closeBoth s.connection s.channel

end Subscriber

namespace Subscription

/-- Reports failures to the log. -/
def reportAll : List String → Session Unit
  | [] => pure ()
  | reason :: reasons => do
    note (.brokerConsumerFailed reason)
    reportAll reasons

/-- The next delivery, unless there will be none. -/
def next (s : Subscription) : Session (Option Delivery) := do
  let (reasons, message) ← ask (.receive s.consumer)
  reportAll reasons
  return message.map fun m => ⟨.ofMessage m, some (.tagged m.tag)⟩

/-- Confirms a message by its number. -/
def acknowledge (s : Subscription) (tag : Nat) : Session (Except DeliveryError Unit) := do
  match ← ask (.confirm s.channel tag) with
  | .error reason => return .error (failure "ack" reason)
  | .ok _ => return .ok ()

/-- Confirms a delivery, if that can be done. -/
def confirm (s : Subscription) (d : Delivery) : Session Unit :=
  match d.receipt with
  | some (.tagged tag) => bestEffort DeliveryError.text "ack delivery" (s.acknowledge tag)
  | _ => pure ()

end Subscription

end Amqp

end Courier
