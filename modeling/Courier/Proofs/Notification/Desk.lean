import Courier.Proofs.Bus.Registry
import Courier.Proofs.Notification.Occurrence
import Courier.Proofs.Protocol
import Mathlib.Data.List.Induction

/-!
# What handling a delivery does

Handling a delivery, the consumer asks many questions, but all that remains is who has been
notified, which e-mails have been sent and how many deliveries have been confirmed. That is a
`Desk`, together with the last identifier given out and how many more may be asked for. Everything
is answered as it should be, and nobody has turned the channels off.

* `Tidings.ofEvents_eq`: what has been done when deliveries of a list of events have been handled.
* `Desk.protocol`: what may be asked, and what the answers do.
* `process_follows`: handling a delivery brings what has happened to its user, and confirms it.
-/

namespace Courier.Notification

open Program

/-- What has been done for users. -/
structure Tidings where
  /-- The users for whom a notification has been stored, once for each. -/
  notified : List Uuid
  mailed : List EmailMessage
  confirmed : Nat

/-- The e-mails that are sent because of what has happened. -/
def Occurrence.mails (s : Service) (o : Occurrence) : List EmailMessage :=
  if s.email.isSome then o.user?.toList.map Notifier.emailWelcome else []

namespace Tidings

/-- Nothing has been done. -/
def empty : Tidings := ⟨[], [], 0⟩

/-- A user has been notified of what has happened. -/
def bring (s : Service) (t : Tidings) (o : Occurrence) : Tidings :=
  { t with notified := t.notified ++ [o.userId], mailed := t.mailed ++ o.mails s }

/-- A delivery has been handled: what has happened according to its event has been brought to the
    user, and the delivery is confirmed. -/
def after (s : Service) (t : Tidings) (e : BusEvent) : Tidings :=
  let t := ((Occurrence.ofBusEvent? e).map (t.bring s)).getD t
  { t with confirmed := t.confirmed + 1 }

/-- Deliveries of these events have been handled, one after the other. -/
def ofEvents (s : Service) (es : List BusEvent) : Tidings := es.foldl (after s) empty

theorem ofEvents_append (s : Service) (es : List BusEvent) (e : BusEvent) :
    ofEvents s (es ++ [e]) = (ofEvents s es).after s e := by
  rw [ofEvents, List.foldl_append]
  rfl

/-- What has been done is what all events together ask for. -/
theorem ofEvents_eq (s : Service) (es : List BusEvent) :
    ofEvents s es =
      ⟨(es.filterMap Occurrence.ofBusEvent?).map (·.userId),
        (es.filterMap Occurrence.ofBusEvent?).flatMap (·.mails s), es.length⟩ := by
  induction es using List.reverseRecOn with
  | nil => rfl
  | append_singleton es e ih =>
    rw [ofEvents_append, ih, after, List.filterMap_append]
    cases he : Occurrence.ofBusEvent? e with
    | none => simp [he]
    | some o => simp [he, bring]

end Tidings

/-- Where the handling of deliveries stands. -/
structure Desk where
  tidings : Tidings
  /-- The last identifier that has been given out, unless it has been used. -/
  fresh : Option Uuid
  /-- How many identifiers may still be asked for. -/
  budget : Nat

namespace Desk

/-- What may be asked. -/
def Allows : Desk → Request → Prop
  | _, .note _ | _, .clock => True
  | _, .preferences (.get _) | _, .logs (.store _) | _, .sendEmail _ => True
  | _, .confirm receipt _ => receipt = .counted
  | d, .freshId => 0 < d.budget
  | d, .inbox (.store n) => d.fresh = some n.id ∧ n.read = false
  | _, _ => False

/-- What comes of a question that is answered as it should be. -/
inductive Leads : Desk → (q : Request) → q.Answer → Desk → Prop
  | note (d : Desk) (notice : Notice) : Leads d (.note notice) () d
  | clock (d : Desk) (now : Instant) : Leads d .clock now d
  | freshId (d : Desk) (id : Uuid) :
      Leads d .freshId id { d with fresh := some id, budget := d.budget - 1 }
  | preferences (d : Desk) (userId : Uuid) (p : Option UserPreferences)
      (hp : ∀ x ∈ p, x.inAppEnabled = true) : Leads d (.preferences (.get userId)) (.ok p) d
  | logged (d : Desk) (l : DeliveryLog) : Leads d (.logs (.store l)) (.ok ()) d
  | stored (d : Desk) (n : InAppNotification) :
      Leads d (.inbox (.store n)) (.ok ())
        { d with
          tidings := { d.tidings with notified := d.tidings.notified ++ [n.userId] }
          fresh := none }
  | mailed (d : Desk) (m : EmailMessage) (answer : Option String) :
      Leads d (.sendEmail m) (.ok answer)
        { d with tidings := { d.tidings with mailed := d.tidings.mailed ++ [m] } }
  | confirmed (d : Desk) (eventId : String) :
      Leads d (.confirm .counted eventId) (.ok ())
        { d with tidings := { d.tidings with confirmed := d.tidings.confirmed + 1 } }

/-- The protocol of handling deliveries. -/
def protocol : Protocol Request Request.Answer Desk where
  Allows := Allows
  Leads := Leads

/-- A desk where these things have been done, and at most so many identifiers more have been asked
    for. -/
structure Stands (d : Desk) (t : Tidings) (ids : Nat) (d' : Desk) : Prop where
  tidings : d'.tidings = t
  budget : d.budget ≤ d'.budget + ids

end Desk

variable {d : Desk} {α : Type}

theorem note_follows {wanted : Desk → Unit → Prop} {notice : Notice} (h : wanted d ()) :
    Follows Desk.protocol wanted d (note notice) := by
  refine ⟨trivial, ?_⟩
  intro r d' hlead
  cases hlead
  exact h

/-- Nobody has turned the channel of the inbox off. -/
theorem isDisabled_follows (userId : Uuid) :
    Follows Desk.protocol (fun d' r => d' = d ∧ r = false) d
      (Service.isDisabled userId .inApp) := by
  refine ⟨trivial, ?_⟩
  intro r d' hlead
  cases hlead with
  | preferences userId p hp =>
    refine ⟨rfl, ?_⟩
    cases p with
    | none => rfl
    | some x => simp [UserPreferences.allows, hp x rfl]

theorem sendInApp_follows (m : InAppMessage) (hb : 0 < d.budget) :
    Follows Desk.protocol
      (fun d' r => (∃ n, r = .ok n) ∧
        d.Stands { d.tidings with notified := d.tidings.notified ++ [m.userId] } 1 d')
      d (Service.sendInApp m) := by
  refine .bind ((isDisabled_follows m.userId).mono ?_)
  rintro _ _ ⟨rfl, rfl⟩
  refine ⟨hb, ?_⟩
  rintro id _ hlead
  cases hlead
  refine ⟨trivial, ?_⟩
  rintro now _ hlead
  cases hlead
  refine ⟨⟨rfl, rfl⟩, ?_⟩
  rintro r _ hlead
  cases hlead
  exact ⟨⟨_, rfl⟩, rfl, by simp; omega⟩

theorem logSending_follows (userId : Uuid) (channel : Channel) (provider : String)
    (outcome : Except ServiceError (Option String)) (hb : 0 < d.budget) :
    Follows Desk.protocol (fun d' _ => d.Stands d.tidings 1 d') d
      (Service.logSending userId channel provider outcome) := by
  have hattempt (status : DeliveryStatus) (messageId error : Option String) :
      Follows Desk.protocol (fun d' _ => d.Stands d.tidings 1 d') d
        (logAttempt userId channel status provider messageId error) := by
    refine ⟨hb, ?_⟩
    rintro id _ hlead
    cases hlead
    refine ⟨trivial, ?_⟩
    rintro now _ hlead
    cases hlead
    refine ⟨trivial, ?_⟩
    rintro r _ hlead
    cases hlead
    exact ⟨rfl, by simp; omega⟩
  cases outcome with
  | ok messageId => exact hattempt ..
  | error error => exact hattempt ..

/-- An e-mail is sent if there is a provider. -/
theorem sendEmail_follows (s : Service) (m : EmailMessage) (hb : 0 < d.budget) :
    Follows Desk.protocol
      (fun d' r => r = .ok () ∧ d.Stands
        { d.tidings with mailed := d.tidings.mailed ++ if s.email.isSome then [m] else [] } 1 d')
      d (s.sendEmail m) := by
  rw [Service.sendEmail]
  cases hs : s.email with
  | none => exact ⟨rfl, by simp, Nat.le_succ _⟩
  | some provider =>
    refine ⟨trivial, ?_⟩
    intro r d' hlead
    cases hlead with
    | mailed _ answer =>
      change Follows _ _ _ (Service.logSending m.userId .email provider (.ok answer) >>= _)
      refine .bind ((logSending_follows _ _ _ _ (by exact hb)).mono ?_)
      rintro d' _ hstands
      exact ⟨rfl, hstands.tidings, hstands.budget⟩

/-! ### Handlers -/

/-- A payload that can be read is acted on, and that another one cannot be is only reported. -/
theorem onPayload_follows [Json.Model α] {handler : String}
    {act : α → Action (Except DeliveryError Unit)} {e : BusEvent}
    {wanted : Desk → Except DeliveryError Unit → Prop}
    (hread : ∀ a, Json.Model.parse e.payload = .ok a → Follows Desk.protocol wanted d (act a))
    (hdropped : ∀ fault, (Json.Model.parse e.payload : Except Json.Fault α) = .error fault →
      wanted d (.ok ())) :
    Follows Desk.protocol wanted d (Notifier.onPayload handler act e) := by
  cases hparse : (Json.Model.parse e.payload : Except Json.Fault α) with
  | error fault =>
    rw [Notifier.onPayload, Notifier.payload?, hparse]
    exact .bind (.bind (note_follows (hdropped fault hparse)))
  | ok a =>
    rw [Notifier.onPayload_eq hparse]
    exact hread a hparse

/-- A completed translation is announced. -/
theorem announce_follows (e : BusEvent) (ht : e.eventType = translationCreated) (s : Service)
    (hb : 0 < d.budget) :
    Follows Desk.protocol
      (fun d' r => r = .ok () ∧
        d.Stands (((Occurrence.ofBusEvent? e).map (d.tidings.bring s)).getD d.tidings) 1 d')
      d (Notifier.announce e) := by
  rw [Occurrence.ofBusEvent?, if_pos ht]
  refine onPayload_follows (fun t hparse => ?read) fun fault hparse => ?dropped
  case dropped =>
    rw [hparse]
    exact ⟨rfl, rfl, Nat.le_succ _⟩
  case read =>
    rw [hparse]
    refine .bind ((sendInApp_follows (Notifier.announcement t) hb).mono ?_)
    rintro d' r ⟨⟨n, rfl⟩, hstands⟩
    refine ⟨rfl, ?_⟩
    have hmails : (Occurrence.translation t).mails s = [] := by
      simp [Occurrence.mails, Occurrence.user?]
    simp only [Except.toOption, Option.map_some, Option.getD_some, Tidings.bring, hmails,
      List.append_nil]
    exact hstands

/-- A new user is welcomed. -/
theorem greet_follows (e : BusEvent) (ht : e.eventType = userCreated) (s : Service)
    (hb : 2 ≤ d.budget) :
    Follows Desk.protocol
      (fun d' r => r = .ok () ∧
        d.Stands (((Occurrence.ofBusEvent? e).map (d.tidings.bring s)).getD d.tidings) 2 d')
      d (Notifier.greet s e) := by
  rw [Occurrence.ofBusEvent?, if_neg (ht ▸ Occurrence.userCreated_ne), if_pos ht]
  refine onPayload_follows (fun u hparse => ?read) fun fault hparse => ?dropped
  case dropped =>
    rw [hparse]
    exact ⟨rfl, rfl, Nat.le_add_right _ _⟩
  case read =>
    have hb₀ : 0 < d.budget := by omega
    rw [hparse]
    -- The welcome in the inbox takes one identifier, the log of the e-mail another one.
    refine .bind ((sendInApp_follows (Notifier.inAppWelcome u) hb₀).mono ?_)
    rintro d₁ _ ⟨⟨n, rfl⟩, h₁⟩
    have hb₁ : 0 < d₁.budget := by have := h₁.budget; omega
    refine .bind ((sendEmail_follows s (Notifier.emailWelcome u) hb₁).mono ?_)
    rintro d₂ _ ⟨rfl, h₂⟩
    refine ⟨rfl, ?_, by have := h₁.budget; have := h₂.budget; omega⟩
    rw [h₂.tidings, h₁.tidings]
    rfl

/-! ### Deliveries -/

/-- Each of the two types of events has its handler. -/
theorem matching_all (s : Service) (eventType : String) :
    (Registry.ofList Handler.handled (Notifier.all s)).matching eventType =
      if eventType = translationCreated then [Notifier.translation]
      else if eventType = userCreated then [Notifier.welcome s] else [] := by
  have hne : userCreated ≠ translationCreated := Occurrence.userCreated_ne
  rw [Registry.matching_ofList]
  by_cases ht : eventType = translationCreated
  · simp [Notifier.all, Notifier.translation, Notifier.welcome, Handled.types, ht, hne]
  · by_cases hu : eventType = userCreated
    · simp [Notifier.all, Notifier.translation, Notifier.welcome, Handled.types, hu, hne, hne.symm]
    · simp [Notifier.all, Notifier.translation, Notifier.welcome, Handled.types, ht, hu, Ne.symm ht,
        Ne.symm hu]

theorem confirm_follows (e : BusEvent) :
    Follows Desk.protocol
      (fun d' _ => d.Stands { d.tidings with confirmed := d.tidings.confirmed + 1 } 0 d') d
      (Delivery.confirm ⟨e, some .counted⟩) := by
  refine ⟨rfl, ?_⟩
  intro r d' hlead
  cases hlead
  exact ⟨rfl, Nat.le_refl _⟩

/-- Whatever handlers there are for an event, what has happened is brought to its user. -/
theorem handleAll_follows (s : Service) (e : BusEvent) (hb : 2 ≤ d.budget) :
    Follows Desk.protocol
      (fun d' _ =>
        d.Stands (((Occurrence.ofBusEvent? e).map (d.tidings.bring s)).getD d.tidings) 2 d')
      d (Consumer.handleAll e
        ((Registry.ofList Handler.handled (Notifier.all s)).matching e.eventType)) := by
  rw [matching_all]
  split
  next ht =>
    refine .bind ((announce_follows e ht s (by omega)).mono ?_)
    rintro d' _ ⟨rfl, hstands⟩
    exact ⟨hstands.tidings, Nat.le_succ_of_le hstands.budget⟩
  next hne =>
    split
    next ht =>
      refine .bind ((greet_follows e ht s hb).mono ?_)
      rintro d' _ ⟨rfl, hstands⟩
      exact hstands
    next hne' =>
      rw [Occurrence.ofBusEvent?, if_neg hne, if_neg hne']
      exact ⟨rfl, Nat.le_add_right _ _⟩

/-- Handling a delivery brings what has happened to its user, and confirms it. -/
theorem process_follows (s : Service) (topics : List String) (e : BusEvent) (hb : 2 ≤ d.budget) :
    Follows Desk.protocol (fun d' _ => d.Stands (d.tidings.after s e) 2 d') d
      ((Notifier.dispatcher s topics).process ⟨e, some .counted⟩) := by
  have hrest : Follows Desk.protocol (fun d' _ => d.Stands (d.tidings.after s e) 2 d') d (do
      Consumer.handleAll e
        ((Registry.ofList Handler.handled (Notifier.all s)).matching e.eventType)
      Delivery.confirm ⟨e, some .counted⟩) := by
    refine .bind ((handleAll_follows s e hb).mono ?_)
    rintro d₁ _ h₁
    refine (confirm_follows e).mono ?_
    rintro d₂ _ h₂
    refine ⟨?_, Nat.le_trans h₁.budget (Nat.add_le_add_right h₂.budget 2)⟩
    rw [h₂.tidings, h₁.tidings]
    rfl
  rw [Consumer.process]
  dsimp only
  split
  · exact .bind (note_follows hrest)
  · exact hrest

end Courier.Notification
