import Courier.Proofs.Notification.Desk

/-!
# Those who raise events and those who handle them agree

What has happened is raised as an event with a payload, stored in the outbox, sent over a bus to
those who have subscribed to its topic, and handed to a handler that reads the payload. All of these
mean the same: the event is heard under its own topic alone, exactly one handler is found for it,
and that handler reads what has happened, as it was raised.

* `Handler.Reads`: what a handler reads in an event and acts on.
* `Occurrence.event_run`: the event as it stands in the outbox.
* `Occurrence.event_agrees`: where the event goes, and what is read there.
-/

namespace Courier

/-- A handler reads the payload of every event as a record of the type and acts on what it has
    read, and in this event it reads this record. -/
structure Handler.Reads {α : Type} [Json.Model α] (h : Handler)
    (act : α → Action (Except DeliveryError Unit)) (e : BusEvent) (a : α) : Prop where
  handle_eq : h.handle = Notification.Notifier.onPayload h.name act
  parse_eq : Json.Model.parse e.payload = .ok a
  /-- It asks nothing and reports nothing before it acts. -/
  act_eq : h.handle e = act a

theorem Handler.Reads.of_parse {α : Type} [Json.Model α] {h : Handler}
    {act : α → Action (Except DeliveryError Unit)} {e : BusEvent} {a : α}
    (hhandle : h.handle = Notification.Notifier.onPayload h.name act)
    (hparse : Json.Model.parse e.payload = .ok a) : h.Reads act e a :=
  ⟨hhandle, hparse, hhandle ▸ Notification.Notifier.onPayload_eq hparse h.name act⟩

namespace Notification

/-- The topics of the events of the service. -/
def topics : List String := [translationTopic, userTopic]

namespace Occurrence

/-- The topic under which its event is heard. -/
def topic : Occurrence → String
  | translation _ => translationTopic
  | user _ => userTopic

/-- The handler that is meant for its event. -/
def handler (s : Service) : Occurrence → Handler
  | translation _ => Notifier.translation
  | user _ => Notifier.welcome s

/-- The handler reads in an event what has happened, and this is what it acts on. -/
def IsRead (s : Service) (h : Handler) (e : BusEvent) : Occurrence → Prop
  | translation t => h.Reads Notifier.announceCompleted e t
  | user u => h.Reads (Notifier.greetUser s) e u

/-- The event carries the identifier that it was given, its own type and its own payload. -/
theorem event_run {σ : Type} (answer : (q : Request) → σ → q.Answer × σ) (st : σ)
    (o : Occurrence) :
    ∃ row, (o.event.run answer st).1.toOutbox = .ok row ∧
      row.id = (o.event.run answer st).1.metadata.eventId ∧
      row.eventType = o.eventType ∧ row.payload = o.payload := by
  rcases o with t | u
  · exact ⟨_, rfl, rfl, rfl, rfl⟩
  · exact ⟨_, rfl, rfl, rfl, rfl⟩

/-- Of the topics of the service, an event is heard under its own and no other. -/
theorem isMatch_topic (o : Occurrence) :
    ∀ topic ∈ topics, Topic.isMatch (Topic.subtree topic) o.eventType ↔ topic = o.topic := by
  have hne : translationTopic ≠ userTopic := by decide
  rcases o with t | u
  · simp [topics, topic, eventType, isMatch_translation.1, isMatch_user.2, hne.symm]
  · simp [topics, topic, eventType, isMatch_translation.2, isMatch_user.1, hne]

/-- Exactly one handler of the service is found for an event. -/
theorem matching_eventType (s : Service) (o : Occurrence) :
    (Registry.ofList Handler.handled (Notifier.all s)).matching o.eventType = [o.handler s] := by
  rw [matching_all]
  rcases o with t | u
  · exact if_pos rfl
  · exact (if_neg userCreated_ne).trans (if_pos rfl)

/-- The handler that is meant for an event reads there what has happened. -/
theorem isRead (s : Service) {e : BusEvent} {o : Occurrence} (he : e.payload = o.payload) :
    o.IsRead s (o.handler s) e := by
  rcases o with t | u
  · exact .of_parse rfl (he ▸ t.parse_print)
  · exact .of_parse rfl (he ▸ u.parse_print)

/-- Whatever has happened, and whatever identifier and time its event is given: on the bus the event
    has its identifier as text, it is heard under its own topic alone, one handler is found for it,
    and that handler reads it as it was raised. -/
theorem event_agrees {σ : Type} (answer : (q : Request) → σ → q.Answer × σ) (st : σ)
    (s : Service) (o : Occurrence) :
    ∃ row, (o.event.run answer st).1.toOutbox = .ok row ∧
      (BusEvent.ofOutbox row).id = (o.event.run answer st).1.metadata.eventId.text ∧
      (∀ topic ∈ topics,
        Topic.isMatch (Topic.subtree topic) (BusEvent.ofOutbox row).eventType ↔ topic = o.topic) ∧
      (Registry.ofList Handler.handled (Notifier.all s)).matching
        (BusEvent.ofOutbox row).eventType = [o.handler s] ∧
      o.IsRead s (o.handler s) (BusEvent.ofOutbox row) := by
  obtain ⟨row, hrow, hid, htype, hpayload⟩ := o.event_run answer st
  have htype : (BusEvent.ofOutbox row).eventType = o.eventType := htype
  refine ⟨row, hrow, congrArg Uuid.text hid, ?_, ?_, isRead s hpayload⟩
  · rw [htype]
    exact o.isMatch_topic
  · rw [htype]
    exact o.matching_eventType s

end Occurrence

end Notification

end Courier
