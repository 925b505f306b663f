import Courier.Proofs.Amqp.Construction
import Courier.Proofs.Uuid

/-!
# Events through a broker

A publisher hands an event to the broker in a single message, and a subscriber makes an event of
each message that it gets. Between them the broker passes the payload on as it is, and so it does
with the short texts of a message, which have room for so many bytes and no more.

* `Message.Carries`: a message is what the broker makes of something published.
* `Publisher.publish_runs`: what is published of an event, and when that has succeeded.
* `Subscription.next_runs`: what becomes of a message.
* `publish_carried`: an event comes through a broker as it comes through the bus in memory.
-/

namespace Courier

/-- No character takes more than four bytes. -/
theorem Text.utf8ByteSize_ofList_le (cs : List Char) :
    (String.ofList cs).utf8ByteSize ≤ 4 * cs.length := by
  induction cs with
  | nil => exact Nat.le_refl 0
  | cons c cs ih =>
    rw [String.ofList_cons, String.utf8ByteSize_append, String.utf8ByteSize_singleton,
      List.length_cons]
    have hc := c.utf8Size_le_four
    omega

namespace Amqp

/-- For how many bytes a short text has room. -/
def shortLimit : Nat := 255

/-- There is room for every identifier. -/
theorem utf8ByteSize_id_le (id : Uuid) : id.text.utf8ByteSize ≤ shortLimit := by
  have h := Text.utf8ByteSize_ofList_le id.chars
  rw [id.length_chars] at h
  exact h.trans (by decide)

/-- The message is what the broker makes of something published. Of a short text for which there is
    no room nothing is said. -/
structure Message.Carries (m : Message) (routingKey : String) (payload : Bytes)
    (properties : Properties) : Prop where
  payload_eq : m.payload = payload
  routingKey_eq (h : routingKey.utf8ByteSize ≤ shortLimit) : m.routingKey = routingKey
  messageId_eq (h : properties.messageId.utf8ByteSize ≤ shortLimit) :
    m.messageId = some properties.messageId
  type_eq (h : properties.type.utf8ByteSize ≤ shortLimit) : m.type = some properties.type

/-- A message that carries an event becomes the event that travels over the bus in memory. -/
theorem Message.Carries.ofMessage_eq {m : Message} {e : Outbox.Event} {now : Instant}
    (h : m.Carries e.eventType e.payload (Publisher.properties e now))
    (htype : e.eventType.utf8ByteSize ≤ shortLimit) : BusEvent.ofMessage m = .ofOutbox e := by
  rw [BusEvent.ofMessage, h.messageId_eq (utf8ByteSize_id_le e.id), h.type_eq htype, h.payload_eq]
  rfl

variable {calls : Calls}

/-- Whatever the broker answers, a single message is published. It is a success if and only if the
    broker has taken the message. -/
theorem Publisher.publish_runs {p : Publisher} {e : Outbox.Event}
    {result : Except DeliveryError Unit} (h : (p.publish e).Runs calls (.done result)) :
    ∃ now outcome, calls = [⟨.clock, now⟩,
        ⟨.publish p.channel p.exchange e.eventType e.payload (properties e now), outcome⟩] ∧
      (result = .ok () ↔ outcome = .ok .taken) := by
  obtain ⟨now, calls₁, rfl, h₁⟩ := Program.Runs.of_request_bind h
  obtain ⟨outcome, calls₂, rfl, h₂⟩ := Program.Runs.of_request_bind h₁
  refine ⟨now, outcome, ?_⟩
  rcases outcome with reason | confirmation
  · obtain ⟨rfl, rfl⟩ := h₂.of_done
    simp
  · cases confirmation with
    | taken | rejected =>
      obtain ⟨rfl, rfl⟩ := h₂.of_done
      simp

namespace Subscription

theorem reportAll_runs {reasons : List String} (h : (reportAll reasons).Runs calls (.done ())) :
    talk calls = [] := by
  induction reasons generalizing calls with
  | nil =>
    obtain ⟨rfl, -⟩ := h.of_done
    rfl
  | cons reason reasons ih =>
    obtain ⟨_, calls', rfl, h'⟩ := Program.Runs.of_ask h
    have hrest : talk calls' = [] := ih h'
    exact hrest

/-- Whatever failures come before it, the next message becomes the next delivery. -/
theorem next_runs {s : Subscription} {delivery : Option Delivery}
    (h : s.next.Runs calls (.done delivery)) :
    ∃ received, talk calls = [⟨.receive s.consumer, received⟩] ∧
      delivery = received.2.map fun m => ⟨.ofMessage m, some (.tagged m.tag)⟩ := by
  obtain ⟨received, calls₁, rfl, h₁⟩ := Program.Runs.of_request_bind h
  obtain ⟨_, reports, rest, rfl, hreports, hrest⟩ := h₁.of_bind
  obtain ⟨rfl, rfl⟩ := hrest.of_done
  refine ⟨received, ?_, rfl⟩
  rw [List.append_nil]
  exact congrArg (_ :: ·) (reportAll_runs hreports)

end Subscription

/-- An event whose type is short is published in a single message, as a document that outlives the
    broker, under its own identifier and type, and with success if and only if the broker has taken
    the message. Where a subscription receives what the broker makes of that message, the event is
    delivered as it travels over the bus in memory. Where it receives a message without a type, the
    routing key is the type of the event, and one without an identifier is an event without one. -/
theorem publish_carried {σ τ : Type} (answer : (q : Request) → σ → q.Answer × σ) (st : σ)
    (answer' : (q : Request) → τ → q.Answer × τ) (st' : τ) (p : Publisher) (s : Subscription)
    (e : Outbox.Event) (h : e.eventType.utf8ByteSize ≤ shortLimit) :
    ∃ (now : Instant) (timestamp : Nat) (outcome : Except String Confirmation)
        (received : List String × Option Message),
      (p.publish e).transcript answer st = [⟨.clock, now⟩,
        ⟨.publish p.channel p.exchange e.eventType e.payload
          ⟨"application/json", 2, e.id.text, e.eventType, timestamp⟩, outcome⟩] ∧
      (((p.publish e).run answer st).1 = .ok () ↔ outcome = .ok .taken) ∧
      talk (s.next.transcript answer' st') = [⟨.receive s.consumer, received⟩] ∧
      ∀ m, received.2 = some m → ∃ d, (s.next.run answer' st').1 = some d ∧
        (m.Carries e.eventType e.payload
            ⟨"application/json", 2, e.id.text, e.eventType, timestamp⟩ →
          d.event = .ofOutbox e) ∧
        (m.type = none → d.event.eventType = m.routingKey) ∧
        (m.messageId = none → d.event.id = "") := by
  obtain ⟨now, outcome, hcalls, hok⟩ :=
    Publisher.publish_runs ((p.publish e).runs_transcript answer st)
  obtain ⟨received, hreceived, hnext⟩ :=
    Subscription.next_runs (s.next.runs_transcript answer' st')
  refine ⟨now, _, outcome, received, hcalls, hok, hreceived, fun m hm => ?_⟩
  rw [hm] at hnext
  refine ⟨_, hnext, fun hcarries => hcarries.ofMessage_eq h, fun htype => ?_, fun hid => ?_⟩
  · exact congrArg (Option.getD · m.routingKey) htype
  · exact congrArg (Option.getD · "") hid

open Simulation in
/-- A broker with a channel on which messages wait for a consumer. -/
def waitingBroker (messages : List Message) : Broker :=
  { Broker.new with
    connections := [.isOpen]
    channels := [(0, .isOpen)]
    consumers := [⟨0, messages, false⟩] }

open Simulation in
/-- The scripted broker takes an event, and a message that carries the event arrives as that
    event. -/
theorem publish_carried_waitingBroker :
    let e : Outbox.Event :=
      ⟨.nil, "user", "1", "user.created", [123, 125], ⟨0⟩, none, 0, none, .pending⟩
    let b := waitingBroker [⟨some e.id.text, some e.eventType, e.eventType, 1, e.payload⟩]
    e.eventType.utf8ByteSize ≤ shortLimit ∧
      ((Publisher.publish ⟨⟨0⟩, ⟨0⟩, "events"⟩ e).run Broker.answer b).1 = .ok () ∧
      ∃ d, ((Subscription.next ⟨⟨0⟩, ⟨0⟩⟩).run Broker.answer b).1 = some d ∧
        d.event = .ofOutbox e := by
  intro e b
  have hshort : e.eventType.utf8ByteSize ≤ shortLimit := by decide
  obtain ⟨now, timestamp, outcome, received, hcalls, hok, hreceived, hnext⟩ :=
    publish_carried Broker.answer b Broker.answer b ⟨⟨0⟩, ⟨0⟩, "events"⟩ ⟨⟨0⟩, ⟨0⟩⟩ e hshort
  have htaken : ((Publisher.publish ⟨⟨0⟩, ⟨0⟩, "events"⟩ e).run Broker.answer b).1 = .ok () := rfl
  have hmessage : received.2 =
      some ⟨some e.id.text, some e.eventType, e.eventType, 1, e.payload⟩ := by
    injection hreceived with hcall
    injection hcall with _ hcall
    rw [← hcall]
    rfl
  obtain ⟨d, hd, hcarries, -⟩ := hnext _ hmessage
  exact ⟨hshort, htaken, d, hd, hcarries ⟨rfl, fun _ => rfl, fun _ => rfl, fun _ => rfl⟩⟩

end Amqp

end Courier
