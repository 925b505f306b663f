import Courier.Amqp.Publisher
import Courier.Amqp.Subscriber
import Courier.Simulation.Surroundings

/-!
# A scripted broker

A broker that routes no message. It does as it is asked, unless the script says that it closes a
channel or a connection instead, or rejects a message. What has been closed refuses everything.

* `Broker.run`: runs a session against the broker.
* `Broker.deliver`: sends messages to a consumer.
-/

namespace Courier.Simulation

open Amqp

/-- What the broker does instead of answering as usual. -/
inductive BrokerReply
  | closeChannel
  | closeConnection
  /-- It does not take a message. This uses up the reply to the next call as well. -/
  | reject

/-- How far a connection or a channel is usable. -/
inductive LinkState
  | isOpen
  | closedByClient
  | closedByBroker
  deriving DecidableEq

/-- A consumer with the messages that wait for it. -/
structure BrokerConsumer where
  channel : Nat
  messages : List Message
  /-- Whether a failure is still to be reported. -/
  isFailed : Bool

/-- A broker, with all that has ever been opened on it. -/
structure Broker where
  connections : List LinkState
  /-- The channels, each with the number of its connection. -/
  channels : List (Nat × LinkState)
  consumers : List BrokerConsumer
  /-- The replies to the next calls of each method. -/
  scripts : Table String (List (Option BrokerReply))
  /-- The calls that have reached the broker. -/
  calls : List Amqp.Request
  notices : List Notice
  /-- How often the clock has been read. -/
  readings : Nat
  /-- How many identifiers have been given out. -/
  ids : Nat

namespace Broker

/-- A broker on which nothing has been opened. -/
def new : Broker := ⟨[], [], [], .empty, [], [], 0, 0⟩

/-- The text of every refusal. -/
def refusal : String := "<broker error>"

/-- The name of the method of a call. -/
def method : Amqp.Request → String
  | .connect _ => "connection.open"
  | .openChannel _ => "channel.open"
  | .declareExchange _ _ => "exchange.declare"
  | .declareQueue _ _ => "queue.declare"
  | .bindQueue _ _ _ _ => "queue.bind"
  | .enableConfirms _ => "confirm.select"
  | .publish _ _ _ _ _ => "basic.publish"
  | .consume _ _ _ => "basic.consume"
  | .confirm _ _ => "basic.ack"
  | .closeChannel _ _ _ => "channel.close"
  | .closeConnection _ _ _ => "connection.close"
  | .freshId | .clock | .note _ | .receive _ => ""

/-- Whether a connection is open. -/
def isOpen (b : Broker) (connection : Nat) : Bool := b.connections[connection]? = some .isOpen

/-- Whether a channel and its connection are open. -/
def isUsable (b : Broker) (channel : Nat) : Bool :=
  match b.channels[channel]? with
  | some (connection, .isOpen) => b.isOpen connection
  | _ => false

/-- Closes a channel, if it is open. When the broker closes it, its consumers fail. -/
def closeChannel (b : Broker) (channel : Nat) (by_ : LinkState) : Broker :=
  if b.isUsable channel then
    { b with
      channels := b.channels.modify channel fun c => (c.1, by_)
      consumers := b.consumers.map fun c =>
        if c.channel = channel ∧ by_ = .closedByBroker then { c with isFailed := true } else c }
  else b

/-- Closes a connection with its channels. -/
def closeConnection (b : Broker) (connection : Nat) (by_ : LinkState) : Broker :=
  let own := (List.range b.channels.length).filter fun i =>
    (b.channels[i]?.map (·.1)) = some connection
  let b := own.foldl (fun b i => b.closeChannel i by_) b
  { b with connections := b.connections.set connection by_ }

/-- Takes what the script says to the next call of a method. -/
def takeReply (b : Broker) (method : String) : Option BrokerReply × Broker :=
  match b.scripts.get? method with
  | some (reply :: rest) => (reply, { b with scripts := b.scripts.insert method rest })
  | _ => (none, b)

/-- Notes a call, and takes what the script says to it. -/
def take (b : Broker) (call : Amqp.Request) : Option BrokerReply × Broker :=
  { b with calls := b.calls ++ [call] }.takeReply (method call)

/-- Answers a call on a channel: as usual, if neither the state of the channel nor the script says
    otherwise. -/
def answerOn {α : Type} (b : Broker) (channel : Nat) (call : Amqp.Request)
    (usual : Broker → Except String α × Broker) : Except String α × Broker :=
  if b.isUsable channel then
    match b.take call with
    | (some .closeChannel, b) => (.error refusal, b.closeChannel channel .closedByBroker)
    | (some .closeConnection, b) =>
      (.error refusal,
        b.closeConnection ((b.channels[channel]?.map (·.1)).getD 0) .closedByBroker)
    | (_, b) => usual b
  else (.error refusal, b)

/-- An answer without content. -/
def done (b : Broker) : Except String Unit × Broker := (.ok (), b)

/-- Answers a request. -/
def answer : (q : Amqp.Request) → Broker → q.Answer × Broker
  | .freshId, b => (.nth b.ids, { b with ids := b.ids + 1 })
  | .clock, b => (Surroundings.reading b.readings, { b with readings := b.readings + 1 })
  | .note notice, b => ((), { b with notices := b.notices ++ [notice] })
  | .connect host, b =>
    match b.take (.connect host) with
    | (none, b) =>
      (.ok ⟨b.connections.length⟩, { b with connections := b.connections ++ [.isOpen] })
    | (some _, b) => (.error refusal, b)
  | .openChannel c, b =>
    if b.isOpen c.number then
      match b.take (.openChannel c) with
      | (none, b) =>
        (.ok ⟨b.channels.length⟩, { b with channels := b.channels ++ [(c.number, .isOpen)] })
      | (some .closeConnection, b) =>
        (.error refusal, b.closeConnection c.number .closedByBroker)
      | (some _, b) => (.error refusal, b)
    else (.error refusal, b)
  | .declareExchange ch exchange, b =>
    b.answerOn ch.number (.declareExchange ch exchange) done
  | .declareQueue ch queue, b => b.answerOn ch.number (.declareQueue ch queue) done
  | .bindQueue ch queue exchange pattern, b =>
    b.answerOn ch.number (.bindQueue ch queue exchange pattern) done
  | .enableConfirms ch, b => b.answerOn ch.number (.enableConfirms ch) done
  | .publish ch exchange routingKey payload properties, b =>
    let call := Amqp.Request.publish ch exchange routingKey payload properties
    b.answerOn ch.number call fun after =>
      match b.scripts.get? (method call) with
      | some (some .reject :: _) => (.ok .rejected, (after.takeReply (method call)).2)
      | _ => (.ok .taken, after)
  | .consume ch queue tag, b =>
    b.answerOn ch.number (.consume ch queue tag) fun b =>
      (.ok ⟨b.consumers.length⟩, { b with consumers := b.consumers ++ [⟨ch.number, [], false⟩] })
  | .confirm ch tag, b =>
    -- Nothing answers a confirmation, so that it does not fail when the broker closes on it.
    if b.isUsable ch.number then (.ok (), (b.answerOn ch.number (.confirm ch tag) done).2)
    else (.error refusal, b)
  | .closeChannel ch code text, b =>
    b.answerOn ch.number (.closeChannel ch code text) fun b =>
      (.ok (), b.closeChannel ch.number .closedByClient)
  | .closeConnection c code text, b =>
    if b.isOpen c.number then
      match b.take (.closeConnection c code text) with
      | (none, b) => (.ok (), b.closeConnection c.number .closedByClient)
      | (some _, b) => (.error refusal, b.closeConnection c.number .closedByBroker)
    else (.error refusal, b)
  | .receive consumer, b =>
    match b.consumers[consumer.number]? with
    | none => (([], none), b)
    | some c =>
      match c.messages with
      | m :: rest =>
        (([], some m),
          { b with consumers := b.consumers.set consumer.number { c with messages := rest } })
      | [] =>
        ((if c.isFailed then [refusal] else [], none),
          { b with consumers := b.consumers.set consumer.number { c with isFailed := false } })

/-- Runs a session against the broker. -/
def run {α : Type} (session : Amqp.Session α) (b : Broker) : α × Broker :=
  Program.run answer session b

/-- Sends messages to a consumer, as long as its channel is open. -/
def deliver (b : Broker) (consumer : Nat) (messages : List Message) : Broker :=
  { b with consumers := b.consumers.modify consumer fun c =>
      if b.isUsable c.channel then { c with messages := c.messages ++ messages } else c }

/-- Scripts the replies to the next calls of a method. -/
def script (b : Broker) (method : String) (replies : List (Option BrokerReply)) : Broker :=
  { b with scripts := b.scripts.insert method replies }

/-- Takes the calls and the notices since the last time. -/
def collect (b : Broker) : List Amqp.Request × List Notice × Broker :=
  (b.calls, b.notices, { b with calls := [], notices := [] })

end Broker

end Courier.Simulation
