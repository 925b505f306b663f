import Courier.Notification.Model
import Courier.Table

/-!
# Repositories

What is asked of the stores of notifications, preferences, push tokens and delivery logs, and the
stores in memory that answer it.

* `Inbox.Op`, `Preferences.Op`, `Tokens.Op`, `Logs.Op`: what is asked, each with its `Answer`.
* `Inbox.Store.perform` and its companions: the answer, and the store after it.
* `olderOrEqual`: the order in which records are listed.

A notification and a log are kept under their identifier, preferences under their user, and a push
token under its text, so that no token belongs to two users.
-/

namespace Courier.Notification

/-- The order of records by time and then by identifier. -/
def olderOrEqual (a b : Instant × Uuid) : Bool :=
  a.1 < b.1 || (a.1 = b.1 && a.2.le b.2)

theorem olderOrEqual_iff (x y : Instant × Uuid) :
    olderOrEqual x y = true ↔
      x.1.ticks < y.1.ticks ∨ x.1.ticks = y.1.ticks ∧ x.2.value ≤ y.2.value := by
  rw [olderOrEqual, Bool.or_eq_true, Bool.and_eq_true, decide_eq_true_iff, decide_eq_true_iff,
    Uuid.le, decide_eq_true_iff, ← Instant.mk.injEq]
  exact Iff.rfl

theorem olderOrEqual_trans (x y z : Instant × Uuid) (hxy : olderOrEqual x y = true)
    (hyz : olderOrEqual y z = true) : olderOrEqual x z = true := by
  rw [olderOrEqual_iff] at *
  omega

theorem olderOrEqual_total (x y : Instant × Uuid) :
    (olderOrEqual x y || olderOrEqual y x) = true := by
  rw [Bool.or_eq_true, olderOrEqual_iff, olderOrEqual_iff]
  omega

/-- What is sorted by time and identifier is in that order. -/
theorem pairwise_mergeSort_olderOrEqual {α : Type} (stamp : α → Instant × Uuid) (as : List α) :
    (as.mergeSort fun a b => olderOrEqual (stamp a) (stamp b)).Pairwise
      fun a b => olderOrEqual (stamp a) (stamp b) = true :=
  List.pairwise_mergeSort
    (fun a b c => olderOrEqual_trans (stamp a) (stamp b) (stamp c))
    (fun a b => olderOrEqual_total (stamp a) (stamp b)) as

/-! ### Notifications -/

namespace Inbox

/-- What is asked of a store of notifications. -/
inductive Op
  | store (notification : InAppNotification)
  | findById (id : Uuid)
  /-- A page of a user's notifications, the newest first. -/
  | findByUser (userId : Uuid) (limit offset : Nat)
  | markRead (id : Uuid)
  | markAllRead (userId : Uuid)
  | unreadCount (userId : Uuid)

/-- What an operation answers. -/
abbrev Op.Answer : Op → Type
  | store _ | markRead _ => Unit
  | findById _ => Option InAppNotification
  | findByUser _ _ _ => List InAppNotification
  | markAllRead _ | unreadCount _ => Nat

/-- The error for a notification that is not there. -/
def missing (id : Uuid) : ServiceError := .notFound ("notification " ++ id.text)

/-- Notifications by their identifiers. -/
abbrev Store := Table Uuid InAppNotification

namespace Store

/-- A page of a user's notifications, the newest first. -/
def page (s : Store) (userId : Uuid) (limit offset : Nat) : List InAppNotification :=
  (((s.values.filter fun n => n.userId = userId).mergeSort
    fun a b => olderOrEqual (b.createdAt, b.id) (a.createdAt, a.id)).drop offset).take limit

/-- The notifications that a user has not read. -/
def unread (s : Store) (userId : Uuid) : List InAppNotification :=
  s.values.filter fun n => n.userId = userId && !n.read

/-- The answer to an operation at the given time, and the store after it. -/
def perform (now : Instant) : (op : Op) → Store → Except ServiceError op.Answer × Store
  | .store n, s => (.ok (), s.insert n.id n)
  | .findById id, s => (.ok (s.get? id), s)
  | .findByUser userId limit offset, s => (.ok (s.page userId limit offset), s)
  | .markRead id, s =>
    match s.get? id with
    | none => (.error (missing id), s)
    | some n => (.ok (), s.insert id (n.markRead now))
  | .markAllRead userId, s =>
    (.ok (s.unread userId).length, s.map fun n => if n.userId = userId then n.markRead now else n)
  | .unreadCount userId, s => (.ok (s.unread userId).length, s)

end Store

end Inbox

/-! ### Preferences -/

namespace Preferences

/-- What is asked of a store of preferences. -/
inductive Op
  | get (userId : Uuid)
  | upsert (preferences : UserPreferences)

/-- What an operation answers. -/
abbrev Op.Answer : Op → Type
  | get _ => Option UserPreferences
  | upsert _ => Unit

/-- Preferences by their users. -/
abbrev Store := Table Uuid UserPreferences

/-- The answer to an operation, and the store after it. -/
def Store.perform : (op : Op) → Store → Except ServiceError op.Answer × Store
  | .get userId, s => (.ok (s.get? userId), s)
  | .upsert p, s => (.ok (), s.insert p.userId p)

end Preferences

/-! ### Push tokens -/

namespace Tokens

/-- What is asked of a store of push tokens. -/
inductive Op
  | store (token : PushToken)
  /-- All tokens of a user, the oldest first. -/
  | findByUser (userId : Uuid)
  | deactivate (token : String)
  | delete (token : String)
  | deleteByUser (userId : Uuid)

/-- What an operation answers. -/
abbrev Op.Answer : Op → Type
  | findByUser _ => List PushToken
  | store _ | deactivate _ | delete _ | deleteByUser _ => Unit

/-- The error for a token that is not there. -/
def missing (token : String) : ServiceError := .notFound ("push token " ++ token)

/-- Push tokens by their texts. -/
abbrev Store := Table String PushToken

namespace Store

/-- A known token as it is when it is stored once more: it keeps its identifier and its age. -/
def renew (old new : PushToken) (now : Instant) : PushToken :=
  { old with
    userId := new.userId
    platform := new.platform
    deviceId := new.deviceId
    active := new.active
    updatedAt := now }

/-- All tokens of a user, the oldest first. -/
def ofUser (s : Store) (userId : Uuid) : List PushToken :=
  (s.values.filter fun t => t.userId = userId).mergeSort
    fun a b => olderOrEqual (a.createdAt, a.id) (b.createdAt, b.id)

/-- The answer to an operation at the given time, and the store after it. -/
def perform (now : Instant) : (op : Op) → Store → Except ServiceError op.Answer × Store
  | .store t, s =>
    match s.get? t.token with
    | none => (.ok (), s.insert t.token t)
    | some old => (.ok (), s.insert t.token (renew old t now))
  | .findByUser userId, s => (.ok (s.ofUser userId), s)
  | .deactivate token, s =>
    match s.get? token with
    | none => (.error (missing token), s)
    | some t => (.ok (), s.insert token { t with active := false, updatedAt := now })
  | .delete token, s => (.ok (), s.erase token)
  | .deleteByUser userId, s => (.ok (), s.filter fun t => t.userId ≠ userId)

end Store

end Tokens

/-! ### Delivery logs -/

namespace Logs

/-- What is asked of a store of delivery logs. -/
inductive Op
  | store (log : DeliveryLog)
  | findByNotification (id : Uuid)

/-- What an operation answers. -/
abbrev Op.Answer : Op → Type
  | store _ => Unit
  | findByNotification _ => List DeliveryLog

/-- Delivery logs by their identifiers. -/
abbrev Store := Table Uuid DeliveryLog

namespace Store

/-- All logs, the oldest first. -/
def all (s : Store) : List DeliveryLog :=
  s.values.mergeSort fun a b => olderOrEqual (a.createdAt, a.id) (b.createdAt, b.id)

/-- The answer to an operation, and the store after it. -/
def perform : (op : Op) → Store → Except ServiceError op.Answer × Store
  | .store l, s => (.ok (), s.insert l.id l)
  | .findByNotification id, s => (.ok (s.all.filter fun l => l.notificationId = some id), s)

end Store

end Logs

end Courier.Notification
