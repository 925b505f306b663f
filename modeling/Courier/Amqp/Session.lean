import Courier.BestEffort
import Courier.Bus.Topic

/-!
# Sessions with a message broker

What is said to a broker of the Advanced Message Queuing Protocol: a connection is opened, a channel
is opened on it, and exchanges, queues, messages and consumers are dealt with on the channel.

* `Request`, `Session`: what is asked of a broker, and the programs that ask it.
* `openChannel`: a channel on a connection of its own, with an exchange.
* `closeQuietly`, `closeBoth`: two ways to close a channel and its connection.
-/

namespace Courier.Amqp

/-- A connection to a broker, by its number. -/
structure Connection where
  number : Nat
  deriving DecidableEq

/-- A channel on a connection, by its number. -/
structure Channel where
  number : Nat
  deriving DecidableEq

/-- A consumer on a channel, by its number. -/
structure ConsumerId where
  number : Nat
  deriving DecidableEq

/-- What is told of a message beside its payload. -/
structure Properties where
  contentType : String
  /-- How the broker is to keep the message; 2 means that it outlives the broker. -/
  deliveryMode : Nat
  messageId : String
  type : String
  /-- Seconds since 1970-01-01T00:00:00Z. -/
  timestamp : Nat
  deriving DecidableEq

/-- Whether the broker has taken a message. -/
inductive Confirmation
  | taken
  | rejected
  deriving DecidableEq

/-- A message from the broker. -/
structure Message where
  messageId : Option String
  type : Option String
  routingKey : String
  /-- The number by which the message is confirmed. -/
  tag : Nat
  payload : Bytes
  deriving DecidableEq

/-- What is asked of a broker. -/
inductive Request
  | freshId
  | clock
  | note (notice : Notice)
  /-- Open a connection to the given virtual host. -/
  | connect (host : String)
  | openChannel (connection : Connection)
  /-- Declare an exchange by topics that outlives the broker. -/
  | declareExchange (channel : Channel) (exchange : String)
  /-- Declare a queue that outlives the broker. -/
  | declareQueue (channel : Channel) (queue : String)
  /-- Have the messages of an exchange that match a pattern go to a queue. -/
  | bindQueue (channel : Channel) (queue exchange pattern : String)
  /-- Have each published message confirmed. -/
  | enableConfirms (channel : Channel)
  | publish (channel : Channel) (exchange routingKey : String) (payload : Bytes)
    (properties : Properties)
  /-- Have the messages of a queue delivered to a consumer with the given tag. -/
  | consume (channel : Channel) (queue tag : String)
  | confirm (channel : Channel) (tag : Nat)
  | closeChannel (channel : Channel) (code : Nat) (text : String)
  | closeConnection (connection : Connection) (code : Nat) (text : String)
  /-- Wait for the next message to a consumer. -/
  | receive (consumer : ConsumerId)

/-- What comes back. A refusal is the broker's text. What is received is the next message, unless
    there will be none, and the failures before it. -/
abbrev Request.Answer : Request → Type
  | freshId => Uuid
  | clock => Instant
  | note _ => Unit
  | connect _ => Except String Connection
  | openChannel _ => Except String Channel
  | declareExchange _ _ | declareQueue _ _ | bindQueue _ _ _ _ | enableConfirms _ | confirm _ _
  | closeChannel _ _ _ | closeConnection _ _ _ => Except String Unit
  | publish _ _ _ _ _ => Except String Confirmation
  | consume _ _ _ => Except String ConsumerId
  | receive _ => List String × Option Message

/-- A program that talks to a broker. -/
abbrev Session (α : Type) := Program Request Request.Answer α

instance : HasLog Request Request.Answer := ⟨fun notice => .ask (.note notice) .done⟩

/-- Asks a single request. -/
def ask (q : Request) : Session q.Answer := .request q

/-- The error of a step, with what the broker says. -/
def failure (step reason : String) : DeliveryError := .bus (step ++ ": " ++ reason)

/-- The code of a close without a fault. -/
def closeCode : Nat := 200

/-- Closes a channel and its connection, and reports what fails. -/
def closeQuietly (connection : Connection) (channel : Channel) : Session Unit := do
  bestEffort id "close amqp channel" (ask (.closeChannel channel closeCode "closing"))
  bestEffort id "close amqp connection" (ask (.closeConnection connection closeCode "closing"))

/-- Closes a channel and its connection, up to the first that fails. -/
def closeBoth (connection : Connection) (channel : Channel) :
    Session (Except DeliveryError Unit) := do
  match ← ask (.closeChannel channel closeCode "closing") with
  | .error reason => return .error (failure "close channel" reason)
  | .ok _ =>
    match ← ask (.closeConnection connection closeCode "closing") with
    | .error reason => return .error (failure "close connection" reason)
    | .ok _ => return .ok ()

/-- Opens a connection and a channel on it, and declares an exchange. What has been opened is closed
    if a step fails. -/
def openChannel (host exchange : String) :
    Session (Except DeliveryError (Connection × Channel)) := do
  match ← ask (.connect host) with
  | .error reason => return .error (failure "connect" reason)
  | .ok connection =>
    match ← ask (.openChannel connection) with
    | .error reason =>
      bestEffort id "close amqp connection"
        (ask (.closeConnection connection closeCode "channel failed"))
      return .error (failure "open channel" reason)
    | .ok channel =>
      match ← ask (.declareExchange channel exchange) with
      | .error reason =>
        closeQuietly connection channel
        return .error (failure ("declare exchange " ++ exchange) reason)
      | .ok _ => return .ok (connection, channel)

end Courier.Amqp
