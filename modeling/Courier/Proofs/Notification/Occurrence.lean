import Courier.Notification.Notifier
import Courier.Proofs.Bus.Memory
import Courier.Proofs.Json.Record

/-!
# What has happened

What the service notifies its users of is a translation or a new user. It travels as an event, and
whoever gets the event knows what has happened.

* `Occurrence.ofBusEvent?_eq`: an event says what has happened, as it was raised.
* `Occurrence.isMatch_topics`: each event is selected by one of the two topics.
* `raiseAll`: the events of several occurrences, raised one after the other.
-/

namespace Courier.Notification

theorem TranslationCreated.lawful : ∀ f ∈ Json.Model.fields TranslationCreated, f.Lawful := by
  simp only [Json.Model.fields, List.forall_mem_cons, List.not_mem_nil, false_implies,
    implies_true, Json.Field.lawful_plain, and_self]

theorem TranslationCreated.parse_print (t : TranslationCreated) :
    Json.Model.parse (Json.Model.print t) = .ok t :=
  Json.Model.parse_print lawful (by decide) t

theorem UserCreated.lawful : ∀ f ∈ Json.Model.fields UserCreated, f.Lawful := by
  simp only [Json.Model.fields, List.forall_mem_cons, List.not_mem_nil, false_implies,
    implies_true, Json.Field.lawful_plain, Json.Field.lawful_sparse, and_self]

theorem UserCreated.parse_print (u : UserCreated) :
    Json.Model.parse (Json.Model.print u) = .ok u :=
  Json.Model.parse_print lawful (by decide) u

/-- Something that users are notified of. -/
inductive Occurrence
  | translation (t : TranslationCreated)
  | user (u : UserCreated)
  deriving DecidableEq

namespace Occurrence

/-- The user who is notified. -/
def userId : Occurrence → Uuid
  | translation t => t.userId
  | user u => u.userId

/-- The user who is welcomed, if one has been created. -/
def user? : Occurrence → Option UserCreated
  | translation _ => none
  | user u => some u

def eventType : Occurrence → String
  | translation _ => translationCreated
  | user _ => userCreated

def payload : Occurrence → Bytes
  | translation t => Json.Model.print t
  | user u => Json.Model.print u

/-- The event of what has just happened. -/
def event : Occurrence → Action DomainEvent
  | translation t => t.new
  | user u => u.new

/-- What has happened according to an event. -/
def ofBusEvent? (e : BusEvent) : Option Occurrence :=
  if e.eventType = translationCreated then
    (Json.Model.parse e.payload).toOption.map translation
  else if e.eventType = userCreated then (Json.Model.parse e.payload).toOption.map user
  else none

theorem userCreated_ne : userCreated ≠ translationCreated := by decide

/-- An event says what has happened, as it was raised. -/
theorem ofBusEvent?_eq {e : BusEvent} {o : Occurrence} (ht : e.eventType = o.eventType)
    (hp : e.payload = o.payload) : ofBusEvent? e = some o := by
  cases o with
  | translation t =>
    have ht : e.eventType = translationCreated := ht
    rw [ofBusEvent?, if_pos ht, hp, payload, t.parse_print]
    rfl
  | user u =>
    have ht : e.eventType = userCreated := ht
    rw [ofBusEvent?, if_neg (ht ▸ userCreated_ne), if_pos ht, hp, payload, u.parse_print]
    rfl

/-! ### Topics -/

theorem isMatch_translation :
    Topic.isMatch (Topic.subtree translationTopic) translationCreated = true ∧
      Topic.isMatch (Topic.subtree translationTopic) userCreated = false := by
  decide +kernel

theorem isMatch_user :
    Topic.isMatch (Topic.subtree userTopic) userCreated = true ∧
      Topic.isMatch (Topic.subtree userTopic) translationCreated = false := by
  decide +kernel

/-- Each of the two topics selects the events that the other one does not. -/
theorem isMatch_topics (o : Occurrence) :
    Topic.isMatch (Topic.subtree userTopic) o.eventType =
      !Topic.isMatch (Topic.subtree translationTopic) o.eventType := by
  cases o with
  | translation t => rw [eventType, isMatch_user.2, isMatch_translation.1]; rfl
  | user u => rw [eventType, isMatch_user.1, isMatch_translation.2]; rfl

end Occurrence

/-! ### Raising -/

/-- Raises the events of what has happened, in order. -/
def raiseAll : List Occurrence → RaisedEvents → Action RaisedEvents
  | [], raised => return raised
  | o :: os, raised => do
    let e ← o.event
    raiseAll os (raised.raise e).2

end Courier.Notification
