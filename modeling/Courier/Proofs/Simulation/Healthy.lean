import Courier.Proofs.Notification.Desk
import Courier.Proofs.Outbox.Stride
import Courier.Simulation.Surroundings

/-!
# Surroundings in which nothing fails

When no endpoint fails or takes its time, every question is answered at once, and what the worker
asks and what the consumer asks do not get in each other's way.

* `Surroundings.answer?`: the answer to a question and the surroundings after it.
* `Surroundings.Healthy`: nothing fails.
* `Healthy.answer_worker`, `Healthy.answer_consumer`: what an answer to each of them does.
-/

namespace Courier.Simulation

open Notification Outbox

/-- The e-mail that goes out, if one does. -/
def Effect.email? : Effect → Option EmailMessage
  | email message => some message
  | _ => none

/-- What has been done for users, as far as the surroundings keep it. -/
structure Office where
  inbox : Inbox.Store
  preferences : Preferences.Store
  /-- How many identifiers have been given out. -/
  ids : Nat
  mailed : List EmailMessage
  confirmed : Nat

namespace Surroundings

variable {s : Surroundings}

/-- The answer to a question and the surroundings after it, unless whoever asks is torn down. -/
def answer? (s : Surroundings) (q : Request) : Option (q.Answer × Surroundings) :=
  let (pending, s) := s.begin q
  match pending.finish s with
  | (some a, s) => some (a, s)
  | (none, _) => none

/-- The e-mails that have been sent. -/
def mailed (s : Surroundings) : List EmailMessage := s.effects.filterMap (·.2.email?)

/-- What has been done for users. -/
def office (s : Surroundings) : Office :=
  ⟨s.stores.inbox, s.stores.preferences, s.ids, s.mailed, s.bus.confirmed⟩

/-- The stores are in memory, what is published goes to an open bus with subscribers, and no script
    says otherwise. -/
structure Healthy (s : Surroundings) : Prop where
  database : s.database = none
  publishesToBus : s.publishesToBus = true
  deliveryScripts : s.deliveryScripts = .empty
  serviceScripts : s.serviceScripts = .empty
  emailScript : s.emailScript = .plain
  isOpen : s.bus.isClosed = false
  subscribers : 0 < s.bus.subscribers

namespace Healthy

variable (h : s.Healthy)

include h

/-- No script says anything to an endpoint of the delivery. -/
theorem callDelivery_eq {α : Type} (endpoint : String)
    (perform : Surroundings → Except DeliveryError α × Surroundings) :
    s.callDelivery endpoint perform = (⟨0, fun s => (some (perform s).1, (perform s).2)⟩, s) := by
  have hself : { s with deliveryScripts := .empty } = s := by rw [← h.deliveryScripts]
  rw [callDelivery, Scripts.next, h.deliveryScripts, Table.get?_empty]
  simp only [hself]
  rfl

/-- No script says anything to an endpoint of the service. -/
theorem callService_eq {α : Type} (endpoint : String)
    (perform : Surroundings → Except ServiceError α × Surroundings) :
    s.callService endpoint perform = (⟨0, fun s => (some (perform s).1, (perform s).2)⟩, s) := by
  have hself : { s with serviceScripts := .empty } = s := by rw [← h.serviceScripts]
  rw [callService, Scripts.next, h.serviceScripts, Table.get?_empty]
  simp only [hself]
  rfl

theorem answer?_outbox (op : Op) :
    s.answer? (.outbox op) = some ((s.stores.outbox.perform (reading s.readings) op).1,
      { s with
        readings := s.readings + 1
        stores.outbox := (s.stores.outbox.perform (reading s.readings) op).2 }) := by
  simp [answer?, begin, h.callDelivery_eq, performOutbox, h.database,
    readClock]

/-- A batch is stored if the outbox takes it, and nothing else happens. -/
theorem answer?_store {batch : List Event} {outbox : Store}
    (hstore : s.stores.outbox.store batch = .ok outbox) :
    ∃ s', s.answer? (.outbox (.store batch)) = some (.ok (), s') ∧ s'.Healthy ∧
      s'.office = s.office ∧ s'.bus = s.bus ∧ s'.stores.outbox = outbox := by
  have hanswer := h.answer?_outbox (.store batch)
  rw [Store.perform_store, hstore] at hanswer
  exact ⟨_, hanswer, { h with }, rfl, rfl, rfl⟩

theorem answer?_publish (e : Event) :
    s.answer? (.publish e) =
      some (.ok (), { s with bus.log := s.bus.log ++ [.ofOutbox e] }) := by
  have hpublish : s.bus.publish (.ofOutbox e) =
      .ok (.sent, { s.bus with log := s.bus.log ++ [.ofOutbox e] }) := by
    simp [MemoryBus.publish, MemoryBus.hasReaders, h.isOpen, h.subscribers]
  simp [answer?, begin, h.publishesToBus, publishToBus, hpublish, atOnce]

theorem answer?_storeNotification (n : InAppNotification) :
    s.answer? (.inbox (.store n)) = some (.ok (),
      { s with
        readings := s.readings + 1
        stores.inbox := s.stores.inbox.insert n.id n }) := by
  simp [answer?, begin, h.callService_eq, performInbox, h.database,
    readClock, Inbox.Store.perform]

theorem answer?_unreadCount (userId : Uuid) :
    ∃ s', s.answer? (.inbox (.unreadCount userId)) =
      some (.ok (s.stores.inbox.unread userId).length, s') := by
  simp [answer?, begin, h.callService_eq, performInbox, h.database, readClock,
    Inbox.Store.perform]

theorem answer?_getPreferences (userId : Uuid) :
    s.answer? (.preferences (.get userId)) =
      some (.ok (s.stores.preferences.get? userId), s) := by
  simp [answer?, begin, h.callService_eq, performPreferences,
    h.database, Preferences.Store.perform]
  rw [← h.database]

theorem answer?_storeLog (l : DeliveryLog) :
    s.answer? (.logs (.store l)) =
      some (.ok (), { s with stores.logs := s.stores.logs.insert l.id l }) := by
  simp [answer?, begin, h.callService_eq, performLogs, h.database,
    Logs.Store.perform]

theorem answer?_sendEmail (m : EmailMessage) :
    s.answer? (.sendEmail m) = some (.ok none, s.emit (.email m)) := by
  have hscript : { s.emit (.email m) with emailScript := .plain } = s.emit (.email m) := by
    rw [← h.emailScript]
    rfl
  rw [answer?, begin, h.emailScript]
  exact congrArg (fun s => some ((.ok none : Except ServiceError (Option String)), s)) hscript

end Healthy

end Surroundings

end Courier.Simulation

/-! ### The worker -/

namespace Courier.Simulation.Surroundings.Healthy

open Notification Outbox

variable {s : Surroundings} {m : UInt32}

/-- An answer to the worker takes it a stride further, and does nothing for users. -/
theorem answer_worker (h : s.Healthy) {k : Stage} {q : Request} (hm : 0 < m)
    (hk : k.Current m s.stores.outbox) (hcalm : k.Calm) (hq : k.Allows m q) :
    ∃ a s' es, s.answer? q = some (a, s') ∧ s'.Healthy ∧ s'.office = s.office ∧
      s'.bus = { s.bus with log := s.bus.log ++ es.map .ofOutbox } ∧
      Stride s.stores.outbox k (k.after m q a) s'.stores.outbox es := by
  unfold Stage.Allows at hq
  split at hq
  next notice =>
    refine ⟨(), s.report notice, [], rfl, { h with }, rfl, by simp [report], ?_⟩
    rw [Stage.after_note]
    exact .stayed k
  next limit limit' =>
    cases hq
    refine ⟨_, _, [], h.answer?_outbox _, { h with }, rfl, by simp, ?_⟩
    exact .fetched limit
  next e batch e' =>
    obtain ⟨rfl, -⟩ := hq
    refine ⟨_, _, [e'], h.answer?_publish e', { h with }, rfl, rfl, ?_⟩
    exact .accepted e' batch
  next e batch id =>
    -- Only events that have failed are abandoned.
    obtain ⟨rfl, hle⟩ := hq
    rw [hcalm e List.mem_cons_self] at hle
    exact absurd hm (UInt32.not_lt.2 hle)
  next e batch id =>
    cases hq
    have hrow := hk.1.head.1
    have ha := h.answer?_outbox (.markPublished e.id)
    rw [Store.perform_markPublished, hrow] at ha
    refine ⟨_, _, [], ha, { h with }, rfl, by simp, ?_⟩
    exact .published e batch (reading s.readings) hrow
  next => exact hcalm.elim
  next => exact hcalm.elim
  next => exact hq.elim

end Courier.Simulation.Surroundings.Healthy

/-! ### The consumer -/

namespace Courier.Simulation

open Notification Outbox

/-- What the surroundings keep of what has been done for users is what the consumer has done. -/
structure Office.Agrees (o : Office) (d : Desk) : Prop where
  notified : o.inbox.values.map (·.userId) = d.tidings.notified
  unread : ∀ n ∈ o.inbox.values, n.read = false
  mailed : o.mailed = d.tidings.mailed
  confirmed : o.confirmed = d.tidings.confirmed
  /-- Notifications have identifiers that have been given out. -/
  ids : ∀ id, o.inbox.get? id ≠ none → ∃ i < o.ids, id = .nth i
  fresh : ∀ id ∈ d.fresh, o.inbox.get? id = none ∧ ∃ i < o.ids, id = .nth i
  preferences : ∀ userId p, o.preferences.get? userId = some p → p.inAppEnabled = true

namespace Office.Agrees

variable {o : Office} {d : Desk}

theorem mail (h : o.Agrees d) (m : EmailMessage) :
    Agrees { o with mailed := o.mailed ++ [m] }
      { d with tidings.mailed := d.tidings.mailed ++ [m] } :=
  { h with mailed := congrArg (· ++ [m]) h.mailed }

theorem confirm (h : o.Agrees d) :
    Agrees { o with confirmed := o.confirmed + 1 }
      { d with tidings.confirmed := d.tidings.confirmed + 1 } :=
  { h with confirmed := congrArg (· + 1) h.confirmed }

/-- As many notifications of a user are unread as there have been for the user. -/
theorem length_unread (h : o.Agrees d) (userId : Uuid) :
    (o.inbox.unread userId).length = d.tidings.notified.countP (· = userId) := by
  rw [← h.notified, List.countP_map, Inbox.Store.unread, ← List.countP_eq_length_filter]
  refine List.countP_congr ?_
  intro n hn
  rw [h.unread n hn]
  simp

/-- The next identifier is one that no notification has. -/
theorem giveId (h : o.Agrees d) (hroom : o.ids < Uuid.size) :
    Agrees { o with ids := o.ids + 1 }
      { d with fresh := some (.nth o.ids), budget := d.budget - 1 } where
  notified := h.notified
  unread := h.unread
  mailed := h.mailed
  confirmed := h.confirmed
  ids id hid := by
    obtain ⟨i, hi, rfl⟩ := h.ids id hid
    exact ⟨i, Nat.lt_succ_of_lt hi, rfl⟩
  fresh id hid := by
    cases hid
    refine ⟨?_, o.ids, Nat.lt_succ_self _, rfl⟩
    -- A notification that had it would have one that was given out before.
    by_contra hne
    obtain ⟨i, hi, heq⟩ := h.ids _ hne
    rw [Uuid.nth_injective hroom (Nat.lt_trans hi hroom) heq] at hi
    exact Nat.lt_irrefl _ hi
  preferences := h.preferences

/-- A notification under a fresh identifier comes to the others. -/
theorem store (h : o.Agrees d) {n : InAppNotification} (hfresh : d.fresh = some n.id)
    (hread : n.read = false) :
    Agrees { o with inbox := o.inbox.insert n.id n }
      { d with tidings.notified := d.tidings.notified ++ [n.userId], fresh := none } where
  notified := by
    rw [Table.values_insert (h.fresh n.id hfresh).1, List.map_append, h.notified]
    rfl
  unread n' hn' := by
    rw [Table.values_insert (h.fresh n.id hfresh).1] at hn'
    rcases List.mem_append.1 hn' with hn' | hn'
    · exact h.unread n' hn'
    · rw [List.mem_singleton.1 hn']
      exact hread
  mailed := h.mailed
  confirmed := h.confirmed
  ids id hid := by
    rw [Table.get?_insert] at hid
    split at hid
    next heq =>
      rw [← heq]
      exact (h.fresh n.id hfresh).2
    next => exact h.ids id hid
  fresh id hid := by cases hid
  preferences := h.preferences

end Office.Agrees

namespace Surroundings

variable {s : Surroundings} {d : Desk}

theorem office_emit_email (s : Surroundings) (m : EmailMessage) :
    (s.emit (.email m)).office = { s.office with mailed := s.office.mailed ++ [m] } := by
  simp [office, mailed, emit, List.filterMap_append, Effect.email?]

/-- Surroundings after an answer to the consumer, as the worker sees them. -/
structure Spares (s s' : Surroundings) : Prop where
  outbox : s'.stores.outbox = s.stores.outbox
  log : s'.bus.log = s.bus.log
  capacity : s'.bus.capacity = s.bus.capacity

theorem Spares.refl (s : Surroundings) : s.Spares s := ⟨rfl, rfl, rfl⟩

/-- An answer to the consumer is one that its protocol expects, and does nothing to the outbox and
    the log of the bus. -/
theorem Healthy.answer_consumer (h : s.Healthy) (ha : s.office.Agrees d) {q : Request}
    (hq : d.Allows q) (hroom : s.ids + d.budget < Uuid.size) :
    ∃ a s' d', s.answer? q = some (a, s') ∧ s'.Healthy ∧ Desk.Leads d q a d' ∧
      s'.office.Agrees d' ∧ s'.ids + d'.budget ≤ s.ids + d.budget ∧ s.Spares s' := by
  unfold Desk.Allows at hq
  split at hq
  next notice =>
    exact ⟨(), s.report notice, d, rfl, { h with }, .note d notice, ha, Nat.le_refl _, rfl, rfl,
      rfl⟩
  next =>
    exact ⟨_, _, d, rfl, { h with }, .clock d _, ha, Nat.le_refl _, rfl, rfl, rfl⟩
  next userId =>
    refine ⟨_, s, d, h.answer?_getPreferences userId, h, .preferences d userId _ ?_, ha,
      Nat.le_refl _, rfl, rfl, rfl⟩
    exact fun p hp => ha.preferences userId p hp
  next l =>
    exact ⟨_, _, d, h.answer?_storeLog l, { h with }, .logged d l, ha, Nat.le_refl _, rfl, rfl, rfl⟩
  next m =>
    refine ⟨_, _, _, h.answer?_sendEmail m, { h with }, .mailed d m none, ?_, Nat.le_refl _, rfl,
      rfl, rfl⟩
    rw [office_emit_email]
    exact ha.mail m
  next receipt eventId =>
    subst hq
    exact ⟨_, _, _, rfl, { h with }, .confirmed d eventId, ha.confirm, Nat.le_refl _, rfl, rfl, rfl⟩
  next =>
    have hids : s.office.ids < Uuid.size := Nat.lt_of_le_of_lt (Nat.le_add_right _ _) hroom
    refine ⟨_, _, _, rfl, { h with }, .freshId d (.nth s.ids), ha.giveId hids, ?_, rfl, rfl, rfl⟩
    change s.ids + 1 + (d.budget - 1) ≤ s.ids + d.budget
    omega
  next n =>
    obtain ⟨hfresh, hread⟩ := hq
    exact ⟨_, _, _, h.answer?_storeNotification n, { h with }, .stored d n,
      ha.store hfresh hread, Nat.le_refl _, rfl, rfl, rfl⟩
  next => exact hq.elim

end Surroundings

end Courier.Simulation
