import Courier.BestEffort
import Courier.Notification.Message
import Courier.Notification.Repository
import Courier.Outbox.Store

/-!
# Requests

What the parts of the system ask of their surroundings: the stores, the publisher, the senders of
the channels, the clock, fresh identifiers and the log.

* `Request`, `Request.Answer`: the questions and what comes back.
* `Action`: a program that asks them.
-/

namespace Courier

/-- What is asked of the surroundings. -/
inductive Request
  /-- What time it is. -/
  | clock
  /-- An identifier never given before. -/
  | freshId
  /-- To report to the log. -/
  | note (notice : Notice)
  | outbox (op : Outbox.Op)
  /-- To publish an event. -/
  | publish (event : Outbox.Event)
  | closePublisher
  /-- To have an event handled by a handler from outside. -/
  | handle (handler : String) (event : BusEvent)
  /-- To confirm the delivery of the event with the given identifier. -/
  | confirm (receipt : Receipt) (eventId : String)
  | inbox (op : Notification.Inbox.Op)
  | preferences (op : Notification.Preferences.Op)
  | tokens (op : Notification.Tokens.Op)
  | logs (op : Notification.Logs.Op)
  /-- To send a message over a channel. What comes back is the provider's name for it, if any. -/
  | sendEmail (message : Notification.EmailMessage)
  | sendSms (message : Notification.SmsMessage)
  | sendPush (message : Notification.PushMessage) (tokens : List String)

/-- What comes back. -/
abbrev Request.Answer : Request → Type
  | clock => Instant
  | freshId => Uuid
  | note _ => Unit
  | outbox op => Except DeliveryError op.Answer
  | publish _ | closePublisher | handle _ _ | confirm _ _ => Except DeliveryError Unit
  | inbox op => Except ServiceError op.Answer
  | preferences op => Except ServiceError op.Answer
  | tokens op => Except ServiceError op.Answer
  | logs op => Except ServiceError op.Answer
  | sendEmail _ | sendSms _ => Except ServiceError (Option String)
  | sendPush _ _ => Except ServiceError Notification.PushReport

/-- A program that asks requests. -/
abbrev Action (α : Type) := Program Request Request.Answer α

instance : HasLog Request Request.Answer := ⟨fun notice => .ask (.note notice) .done⟩

/-- Asks a single request. -/
def ask (q : Request) : Action q.Answer := .request q

end Courier
