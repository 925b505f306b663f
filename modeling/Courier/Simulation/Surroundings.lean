import Courier.Bus.Memory
import Courier.Request
import Courier.Simulation.Database
import Courier.Simulation.Script
import Courier.Sql.Notification
import Courier.Sql.Outbox

/-!
# Simulated surroundings

Surroundings in which actions can be run without anything outside: the stores are in memory or talk
to a scripted database, every endpoint asks its script first, and what goes out is recorded.

* `Effect`: what goes out.
* `Surroundings.begin`: a request is made, and `Pending` is what is left to be done for its answer
  after the delay that the script says.
* `runToDelay`: runs an action up to the first delay.
-/

namespace Courier.Simulation

/-- Something that goes out of the system. -/
inductive Effect
  | publish (event : Outbox.Event)
  | close
  | handle (handler : String) (event : BusEvent)
  | acknowledge (eventId : String)
  | email (message : Notification.EmailMessage)
  | sms (message : Notification.SmsMessage)
  | push (message : Notification.PushMessage) (tokens : List String)
  | statement (statement : Sql.Statement)

/-- The stores in memory. -/
structure Stores where
  outbox : Outbox.Store
  inbox : Notification.Inbox.Store
  preferences : Notification.Preferences.Store
  tokens : Notification.Tokens.Store
  logs : Notification.Logs.Store

instance : Inhabited Stores := ⟨⟨.empty, .empty, .empty, .empty, .empty⟩⟩

/-- What surrounds the system. -/
structure Surroundings where
  /-- The time of the simulation in milliseconds. -/
  now : Nat
  /-- How often the clock has been read. -/
  readings : Nat
  /-- How many identifiers have been given out. -/
  ids : Nat
  stores : Stores
  /-- The database that is used in place of the stores, if there is one. -/
  database : Option Database
  bus : MemoryBus
  /-- Whether what is published goes to the bus, and not to a scripted publisher. -/
  publishesToBus : Bool
  /-- The scripts of the endpoints whose errors are of the delivery. -/
  deliveryScripts : Scripts DeliveryError Unit
  /-- The scripts of the endpoints whose errors are of the service. -/
  serviceScripts : Scripts ServiceError Unit
  emailScript : Script ServiceError String
  smsScript : Script ServiceError String
  pushScript : Script ServiceError Notification.PushReport
  /-- What has gone out, each with the time of the simulation. -/
  effects : List (Nat × Effect)
  /-- What has been reported to the log. -/
  notices : List Notice

namespace Surroundings

/-- Surroundings in which nothing has happened. -/
def new (bus : MemoryBus) (publishesToBus : Bool) (database : Option Database) : Surroundings where
  now := 0
  readings := 0
  ids := 0
  stores := default
  database := database
  bus := bus
  publishesToBus := publishesToBus
  deliveryScripts := .empty
  serviceScripts := .empty
  emailScript := .plain
  smsScript := .plain
  pushScript := .plain
  effects := []
  notices := []

/-! ### Clock, identifiers and records -/

/-- The first reading of the clock: 2026-01-01T00:00:00Z. -/
def firstReading : Instant := .ofMicroseconds 1_767_225_600_000_000

/-- The reading of the clock with the given index. Each is a microsecond after the one before. -/
def reading (index : Nat) : Instant := ⟨firstReading.ticks + index * 1000⟩

/-- Reads the clock. -/
def readClock (s : Surroundings) : Instant × Surroundings :=
  (reading s.readings, { s with readings := s.readings + 1 })

/-- Gives out an identifier. -/
def giveId (s : Surroundings) : Uuid × Surroundings := (.nth s.ids, { s with ids := s.ids + 1 })

/-- Reports to the log. -/
def report (s : Surroundings) (notice : Notice) : Surroundings :=
  { s with notices := s.notices ++ [notice] }

/-- Records what goes out. -/
def emit (s : Surroundings) (effect : Effect) : Surroundings :=
  { s with effects := s.effects ++ [(s.now, effect)] }

/-! ### Stores -/

/-- Runs a session on a database. -/
def query {α : Type} (s : Surroundings) (database : Database) (session : Sql.Session α) :
    α × Surroundings :=
  let (a, statements, database) := database.run session
  (a, statements.foldl (fun s statement => s.emit (.statement statement))
    { s with database := some database })

/-- Performs an operation of the outbox. -/
def performOutbox (op : Outbox.Op) (s : Surroundings) :
    Except DeliveryError op.Answer × Surroundings :=
  match s.database with
  | some database => s.query database (Sql.Outbox.perform op)
  | none =>
    let (now, s) := s.readClock
    let (a, outbox) := s.stores.outbox.perform now op
    (a, { s with stores.outbox := outbox })

/-- Performs an operation on notifications. -/
def performInbox (op : Notification.Inbox.Op) (s : Surroundings) :
    Except ServiceError op.Answer × Surroundings :=
  match s.database with
  | some database => s.query database (Sql.Inbox.perform op)
  | none =>
    let (now, s) := s.readClock
    let (a, inbox) := s.stores.inbox.perform now op
    (a, { s with stores.inbox := inbox })

/-- Performs an operation on preferences. -/
def performPreferences (op : Notification.Preferences.Op) (s : Surroundings) :
    Except ServiceError op.Answer × Surroundings :=
  match s.database with
  | some database => s.query database (Sql.Preferences.perform op)
  | none =>
    let (a, preferences) := s.stores.preferences.perform op
    (a, { s with stores.preferences := preferences })

/-- Performs an operation on push tokens. -/
def performTokens (op : Notification.Tokens.Op) (s : Surroundings) :
    Except ServiceError op.Answer × Surroundings :=
  match s.database with
  | some database => s.query database (Sql.Tokens.perform op)
  | none =>
    let (now, s) := s.readClock
    let (a, tokens) := s.stores.tokens.perform now op
    (a, { s with stores.tokens := tokens })

/-- Performs an operation on delivery logs. -/
def performLogs (op : Notification.Logs.Op) (s : Surroundings) :
    Except ServiceError op.Answer × Surroundings :=
  match s.database with
  | some database => s.query database (Sql.Logs.perform op)
  | none =>
    let (a, logs) := s.stores.logs.perform op
    (a, { s with stores.logs := logs })

/-! ### Endpoints -/

/-- The name of the endpoint of an operation. -/
def outboxEndpoint : Outbox.Op → String
  | .store _ => "outbox.store"
  | .fetchUnpublished _ => "outbox.fetch_unpublished"
  | .markPublished _ => "outbox.mark_published"
  | .markFailed _ _ => "outbox.mark_failed"
  | .markAbandoned _ => "outbox.mark_abandoned"
  | .fetchAbandoned _ => "outbox.fetch_abandoned"

def inboxEndpoint : Notification.Inbox.Op → String
  | .store _ => "notifications.store"
  | .findById _ => "notifications.find_by_id"
  | .findByUser _ _ _ => "notifications.find_by_user"
  | .markRead _ => "notifications.mark_as_read"
  | .markAllRead _ => "notifications.mark_all_as_read"
  | .unreadCount _ => "notifications.unread_count"

def preferencesEndpoint : Notification.Preferences.Op → String
  | .get _ => "preferences.get"
  | .upsert _ => "preferences.upsert"

def tokensEndpoint : Notification.Tokens.Op → String
  | .store _ => "push_tokens.store"
  | .findByUser _ => "push_tokens.find_by_user"
  | .deactivate _ => "push_tokens.deactivate"
  | .delete _ => "push_tokens.delete"
  | .deleteByUser _ => "push_tokens.delete_by_user"

def logsEndpoint : Notification.Logs.Op → String
  | .store _ => "delivery_logs.store"
  | .findByNotification _ => "delivery_logs.find_by_notification"

/-- The endpoint to which an event is published: the one of its type, if that has a script. -/
def publishEndpoint (s : Surroundings) (event : Outbox.Event) : String :=
  let endpoint := "publisher.publish:" ++ event.eventType
  if (s.deliveryScripts.get? endpoint).isSome then endpoint else "publisher.publish"

/-- What is left to be done for an answer after a delay. There is no answer if whoever waits for it
    is torn down. -/
structure Pending (α : Type) where
  delay : Nat
  finish : Surroundings → Option α × Surroundings

/-- An answer that is there at once. -/
def atOnce {α : Type} (a : α) : Pending α := ⟨0, fun s => (some a, s)⟩

/-- What is left to be done by an outcome: on success, the given operation. -/
def carryOut {ε ρ α : Type} (outcome : Outcome ε ρ)
    (perform : Option ρ → Surroundings → Except ε α × Surroundings) : Pending (Except ε α) where
  delay := outcome.delay
  finish s :=
    match outcome.verdict with
    | .breakDown => (none, s)
    | .fail error => (some (.error error), s)
    | .succeed answer =>
      let (a, s) := perform answer s
      (some a, s)

/-- Asks the script of an endpoint whose errors are of the delivery. -/
def callDelivery {α : Type} (s : Surroundings) (endpoint : String)
    (perform : Surroundings → Except DeliveryError α × Surroundings) :
    Pending (Except DeliveryError α) × Surroundings :=
  let (outcome, scripts) := s.deliveryScripts.next endpoint
  (carryOut outcome fun _ => perform, { s with deliveryScripts := scripts })

/-- Asks the script of an endpoint whose errors are of the service. -/
def callService {α : Type} (s : Surroundings) (endpoint : String)
    (perform : Surroundings → Except ServiceError α × Surroundings) :
    Pending (Except ServiceError α) × Surroundings :=
  let (outcome, scripts) := s.serviceScripts.next endpoint
  (carryOut outcome fun _ => perform, { s with serviceScripts := scripts })

/-- What an endpoint does that has nothing to do but to be called. -/
def nothing {ε : Type} (s : Surroundings) : Except ε Unit × Surroundings := (.ok (), s)

/-- Publishes an event to the bus. That nobody is there to read it is reported only. -/
def publishToBus (s : Surroundings) (event : Outbox.Event) :
    Except DeliveryError Unit × Surroundings :=
  match s.bus.publish (.ofOutbox event) with
  | .error error => (.error error, s)
  | .ok (.sent, bus) => (.ok (), { s with bus := bus })
  | .ok (.unheard, _) =>
    (.ok (), s.report (.bestEffortFailed "broadcast in-memory event" "channel closed"))

/-- Makes a request. -/
def begin : (q : Request) → Surroundings → Pending q.Answer × Surroundings
  | .clock, s => let (now, s) := s.readClock; (atOnce now, s)
  | .freshId, s => let (id, s) := s.giveId; (atOnce id, s)
  | .note notice, s => (atOnce (), s.report notice)
  | .outbox op, s => s.callDelivery (outboxEndpoint op) (performOutbox op)
  | .publish event, s =>
    if s.publishesToBus then
      let (a, s) := s.publishToBus event
      (atOnce a, s)
    else
      let s := s.emit (.publish event)
      s.callDelivery (s.publishEndpoint event) nothing
  | .closePublisher, s =>
    if s.publishesToBus then (atOnce (.ok ()), { s with bus := s.bus.close })
    else (s.emit .close).callDelivery "publisher.close" nothing
  | .handle handler event, s =>
    (s.emit (.handle handler event)).callDelivery ("handler:" ++ handler) nothing
  | .confirm receipt eventId, s =>
    match receipt with
    | .counted => (atOnce (.ok ()), { s with bus := s.bus.confirm })
    | .returned => (s.emit (.acknowledge eventId)).callDelivery "ack" nothing
    | .tagged _ => (atOnce (.ok ()), s)
  | .inbox op, s => s.callService (inboxEndpoint op) (performInbox op)
  | .preferences op, s => s.callService (preferencesEndpoint op) (performPreferences op)
  | .tokens op, s => s.callService (tokensEndpoint op) (performTokens op)
  | .logs op, s => s.callService (logsEndpoint op) (performLogs op)
  | .sendEmail message, s =>
    let (outcome, script) := s.emailScript.next
    (carryOut outcome fun answer s => (.ok answer, s),
      { s.emit (.email message) with emailScript := script })
  | .sendSms message, s =>
    let (outcome, script) := s.smsScript.next
    (carryOut outcome fun answer s => (.ok answer, s),
      { s.emit (.sms message) with smsScript := script })
  | .sendPush message tokens, s =>
    let (outcome, script) := s.pushScript.next
    (carryOut outcome fun answer s => (.ok (answer.getD ⟨tokens.length, 0, [], none⟩), s),
      { s.emit (.push message tokens) with pushScript := script })

/-- Takes what has gone out and what has been reported since the last time. -/
def collect (s : Surroundings) : List (Nat × Effect) × List Notice × Surroundings :=
  (s.effects, s.notices, { s with effects := [], notices := [] })

end Surroundings

/-! ### Running actions -/

/-- How far an action has come. -/
inductive Progress (α : Type)
  | done (a : α)
  /-- It has been torn down. -/
  | broken
  /-- It waits for so many milliseconds, and then goes on. -/
  | paused (delay : Nat) (resume : Surroundings → Option (Action α) × Surroundings)

/-- Runs an action up to the first delay. -/
def runToDelay {α : Type} : Action α → Surroundings → Progress α × Surroundings
  | .done a, s => (.done a, s)
  | .ask q next, s =>
    let (pending, s) := s.begin q
    if pending.delay = 0 then
      match pending.finish s with
      | (none, s) => (.broken, s)
      | (some a, s) => runToDelay (next a) s
    else
      (.paused pending.delay fun s =>
        match pending.finish s with
        | (none, s) => (none, s)
        | (some a, s) => (some (next a), s), s)

end Courier.Simulation
