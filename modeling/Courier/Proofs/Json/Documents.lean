import Courier.Notification.Model
import Courier.Outbox.Raised
import Courier.Proofs.Json.Codec
import Courier.Proofs.Notification.Occurrence

/-!
# Stored values come back

What the outbox and the notifications keep is written as JSON and read again: events and what is
known of them, notifications in an inbox, preferences, push tokens, the log of deliveries, and the
payloads of events. Of each of them the same value is read that has been written, whatever its
texts, bytes and counts are, as long as its instants lie in years that can be read.

* `instants`: the instants that are part of a value.
* `documents_roundtrip`: reading what has been written of any of these values.
-/

namespace Courier

open Json

namespace Json.Field

variable {name : String} {type : Type} [Codec type]

/-- A field of lawful codec keeps every value. -/
theorem keeps_lawful [LawfulCodec type] (a : type) : (plain name type).Keeps a :=
  (lawful_plain name type).keeps a

/-- A field of instants keeps an instant that can be read. -/
theorem keeps_instant {t : Instant} (h : t.IsReadable) : (plain name Instant).Keeps t :=
  keeps_plain (readsBack_instant h)

theorem keeps_instant? {t : Option Instant} (h : ∀ x ∈ t.toList, x.IsReadable) :
    (plain name (Option Instant)).Keeps t :=
  keeps_plain (readsBack_instant? h)

end Json.Field

open Json.Field

/-! ### Events -/

namespace Outbox.Event

/-- The instants of an event in the outbox. -/
def instants (e : Event) : List Instant := e.createdAt :: e.publishedAt.toList

theorem parse_print {e : Event} (h : ∀ t ∈ e.instants, t.IsReadable) :
    Model.parse (Model.print e) = .ok e := by
  obtain ⟨hcreated, hpublished⟩ := List.forall_mem_cons.1 h
  refine Model.parse_print_of_kept (by decide) ?_
  exact ⟨keeps_lawful _, keeps_lawful _, keeps_lawful _, keeps_lawful _, keeps_lawful _,
    keeps_instant hcreated, keeps_instant? hpublished, keeps_lawful _, keeps_lawful _,
    keeps_lawful _, trivial⟩

end Outbox.Event

namespace EventMetadata

theorem parse_print {m : EventMetadata} (h : m.occurredAt.IsReadable) :
    Model.parse (Model.print m) = .ok m := by
  refine Model.parse_print_of_kept (by decide) ?_
  exact ⟨keeps_lawful _, keeps_lawful _, keeps_lawful _, keeps_lawful _, keeps_instant h, trivial⟩

end EventMetadata

/-! ### Notifications -/

namespace Notification

namespace InAppNotification

/-- The instants of a notification. -/
def instants (n : InAppNotification) : List Instant := n.createdAt :: n.readAt.toList

theorem parse_print {n : InAppNotification} (h : ∀ t ∈ n.instants, t.IsReadable) :
    Model.parse (Model.print n) = .ok n := by
  obtain ⟨hcreated, hread⟩ := List.forall_mem_cons.1 h
  have hdata : (Field.sparse "data" TextMap.empty).Keeps n.data := (lawful_sparse _ _).keeps _
  refine Model.parse_print_of_kept (by decide) ?_
  exact ⟨keeps_lawful _, keeps_lawful _, keeps_lawful _, keeps_lawful _, keeps_lawful _, hdata,
    keeps_lawful _, keeps_lawful _, keeps_lawful _, keeps_instant? hread, keeps_instant hcreated,
    trivial⟩

end InAppNotification

namespace UserPreferences

theorem parse_print {p : UserPreferences} (h : p.updatedAt.IsReadable) :
    Model.parse (Model.print p) = .ok p := by
  refine Model.parse_print_of_kept (by decide) ?_
  exact ⟨keeps_lawful _, keeps_lawful _, keeps_lawful _, keeps_lawful _, keeps_lawful _,
    keeps_lawful _, keeps_lawful _, keeps_instant h, trivial⟩

end UserPreferences

namespace PushToken

/-- The instants of a push token. -/
def instants (t : PushToken) : List Instant := [t.createdAt, t.updatedAt]

theorem parse_print {t : PushToken} (h : ∀ x ∈ t.instants, x.IsReadable) :
    Model.parse (Model.print t) = .ok t := by
  obtain ⟨hcreated, hupdated⟩ := List.forall_mem_cons.1 h
  have hupdated : t.updatedAt.IsReadable := hupdated _ List.mem_cons_self
  refine Model.parse_print_of_kept (by decide) ?_
  exact ⟨keeps_lawful _, keeps_lawful _, keeps_lawful _, keeps_lawful _, keeps_lawful _,
    keeps_lawful _, keeps_instant hcreated, keeps_instant hupdated, trivial⟩

end PushToken

namespace DeliveryLog

/-- The instants of the record of an attempt. -/
def instants (l : DeliveryLog) : List Instant := l.createdAt :: l.deliveredAt.toList

theorem parse_print {l : DeliveryLog} (h : ∀ t ∈ l.instants, t.IsReadable) :
    Model.parse (Model.print l) = .ok l := by
  obtain ⟨hcreated, hdelivered⟩ := List.forall_mem_cons.1 h
  refine Model.parse_print_of_kept (by decide) ?_
  exact ⟨keeps_lawful _, keeps_lawful _, keeps_lawful _, keeps_lawful _, keeps_lawful _,
    keeps_lawful _, keeps_lawful _, keeps_lawful _, keeps_lawful _, keeps_instant hcreated,
    keeps_instant? hdelivered, trivial⟩

end DeliveryLog

end Notification

/-! ### All of them -/

open Notification in
/-- Whatever is stored or sent as JSON is read again as it was, if its instants can be read: an
    event of the outbox, what is known of an event, a notification, preferences, a push token, the
    record of an attempt to deliver, and the payload of an event. -/
theorem documents_roundtrip :
    (∀ e : Outbox.Event, (∀ t ∈ e.instants, t.IsReadable) → Model.parse (Model.print e) = .ok e) ∧
    (∀ m : EventMetadata, m.occurredAt.IsReadable → Model.parse (Model.print m) = .ok m) ∧
    (∀ n : InAppNotification, (∀ t ∈ n.instants, t.IsReadable) →
      Model.parse (Model.print n) = .ok n) ∧
    (∀ p : UserPreferences, p.updatedAt.IsReadable → Model.parse (Model.print p) = .ok p) ∧
    (∀ t : PushToken, (∀ x ∈ t.instants, x.IsReadable) → Model.parse (Model.print t) = .ok t) ∧
    (∀ l : DeliveryLog, (∀ t ∈ l.instants, t.IsReadable) → Model.parse (Model.print l) = .ok l) ∧
    (∀ t : TranslationCreated, Model.parse (Model.print t) = .ok t) ∧
    (∀ u : UserCreated, Model.parse (Model.print u) = .ok u) :=
  ⟨fun _ => Outbox.Event.parse_print, fun _ => EventMetadata.parse_print,
    fun _ => InAppNotification.parse_print, fun _ => UserPreferences.parse_print,
    fun _ => PushToken.parse_print, fun _ => DeliveryLog.parse_print,
    TranslationCreated.parse_print, UserCreated.parse_print⟩

section Eve

open Notification

/-- A nanosecond before the year 10000. -/
def eve : Instant := .ofDay 2932896 ⟨87_838_999_999_999, by decide⟩

theorem isReadable_eve : eve.IsReadable :=
  Instant.isReadable_of_year (by decide +kernel) (by decide +kernel)

/-- Characters that are escaped, and one that is not. -/
def escaped : String := "\x00\n\"\\\x7f"

/-- An event that has failed as often as can be counted. -/
def Outbox.Event.onEve : Outbox.Event :=
  ⟨Uuid.nil, escaped, "", "user.created", [0, 255], eve, some eve, 0xFFFFFFFF, some escaped,
    .abandoned⟩

def EventMetadata.onEve : EventMetadata := ⟨Uuid.nil, "user.created", "user", escaped, eve⟩

/-- A notification without data. -/
def Notification.InAppNotification.onEve : InAppNotification :=
  ⟨Uuid.nil, Uuid.nth 0, "system", escaped, "", .empty, some escaped, none, true, some eve, eve⟩

/-- Preferences with quiet hours that begin a nanosecond before midnight, and do not end. -/
def Notification.UserPreferences.onEve : UserPreferences :=
  ⟨Uuid.nil, true, false, true, false, some eve.timeOfDay, none, eve⟩

def Notification.PushToken.onEve : PushToken :=
  ⟨Uuid.nil, Uuid.nth 0, escaped, .web, "", true, eve, eve⟩

def Notification.DeliveryLog.onEve : DeliveryLog :=
  ⟨Uuid.nil, none, Uuid.nth 0, .inApp, .failed, escaped, none, some escaped, 0xFFFFFFFF, eve, none⟩

/-- Values of that instant are read again. -/
theorem documents_roundtrip_eve :
    ((∀ t ∈ Outbox.Event.onEve.instants, t.IsReadable) ∧
      Model.parse (Model.print Outbox.Event.onEve) = .ok Outbox.Event.onEve) ∧
    (EventMetadata.onEve.occurredAt.IsReadable ∧
      Model.parse (Model.print EventMetadata.onEve) = .ok EventMetadata.onEve) ∧
    ((∀ t ∈ InAppNotification.onEve.instants, t.IsReadable) ∧
      Model.parse (Model.print InAppNotification.onEve) = .ok InAppNotification.onEve) ∧
    (UserPreferences.onEve.updatedAt.IsReadable ∧
      Model.parse (Model.print UserPreferences.onEve) = .ok UserPreferences.onEve) ∧
    ((∀ t ∈ PushToken.onEve.instants, t.IsReadable) ∧
      Model.parse (Model.print PushToken.onEve) = .ok PushToken.onEve) ∧
    ((∀ t ∈ DeliveryLog.onEve.instants, t.IsReadable) ∧
      Model.parse (Model.print DeliveryLog.onEve) = .ok DeliveryLog.onEve) := by
  have hone : ∀ t ∈ [eve], t.IsReadable := List.forall_mem_singleton.2 isReadable_eve
  have htwo : ∀ t ∈ [eve, eve], t.IsReadable := List.forall_mem_cons.2 ⟨isReadable_eve, hone⟩
  obtain ⟨hevent, hmetadata, hnotification, hpreferences, htoken, hlog, -, -⟩ := documents_roundtrip
  exact ⟨⟨htwo, hevent _ htwo⟩, ⟨isReadable_eve, hmetadata _ isReadable_eve⟩,
    ⟨htwo, hnotification _ htwo⟩, ⟨isReadable_eve, hpreferences _ isReadable_eve⟩,
    ⟨htwo, htoken _ htwo⟩, ⟨hone, hlog _ hone⟩⟩

end Eve

end Courier
