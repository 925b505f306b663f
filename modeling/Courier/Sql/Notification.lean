import Courier.Notification.Repository
import Courier.Sql.Session

/-!
# The stores of the notification service in a database

The operations on notifications, preferences, push tokens and delivery logs as statements, with the
records as parameters and from rows.

* `Inbox.perform`, `Preferences.perform`, `Tokens.perform`, `Logs.perform`: the session of an
  operation.
-/

namespace Courier.Sql

open Courier.Notification

/-- A failure as an error of the service. -/
def Failure.toServiceError (failure : Failure) : ServiceError := .delivery failure.toError

/-- The outcome of a session, with its failure as an error of the service. -/
def served {α β : Type} (f : α → Except ServiceError β) : Except Failure α → Except ServiceError β
  | .error failure => .error failure.toServiceError
  | .ok a => f a

/-! ### Notifications -/

namespace Inbox

/-- The table of notifications. -/
def relation : Relation where
  name := "in_app_notifications"
  columns := ["id", "user_id", "type", "title", "body", "data", "action_url", "image_url", "read",
    "read_at", "created_at"]

/-- A notification as the parameters of its insertion. -/
def params (n : InAppNotification) : List Value :=
  [Stored.toValue n.id, Stored.toValue n.userId, Stored.toValue n.kind, Stored.toValue n.title,
    Stored.toValue n.body, Stored.toValue n.data, Stored.toValue n.actionUrl,
    Stored.toValue n.imageUrl, Stored.toValue n.read, Stored.toValue n.readAt,
    Stored.toValue n.createdAt]

/-- Reads a row as a notification. -/
def decode (r : Row) : Except Failure InAppNotification := do
  let id ← r.get "id"
  let userId ← r.get "user_id"
  let kind ← r.get "type"
  let title ← r.get "title"
  let body ← r.get "body"
  let data : Option TextMap ← r.get "data"
  let actionUrl ← r.get "action_url"
  let imageUrl ← r.get "image_url"
  let read ← r.get "read"
  let readAt ← r.get "read_at"
  let createdAt ← r.get "created_at"
  return ⟨id, userId, kind, title, body, data.getD .empty, actionUrl, imageUrl, read, readAt,
    createdAt⟩

/-- The session of an operation. -/
def perform : (op : Inbox.Op) → Session (Except ServiceError op.Answer)
  | .store n => do
    let affected ← execute relation.insertion (params n)
    return served (fun _ => .ok ()) affected
  | .findById id => do
    let found ← fetchFirst decode (relation.selection "id = $1") [Stored.toValue id]
    return served .ok found
  | .findByUser userId limit offset => do
    let found ← fetchAll decode
      (relation.selection "user_id = $1 ORDER BY created_at DESC, id DESC LIMIT $2 OFFSET $3")
      [Stored.toValue userId, .integer limit, .integer offset]
    return served .ok found
  | .markRead id => do
    let affected ← execute ("UPDATE in_app_notifications SET read = TRUE, " ++
      "read_at = COALESCE(read_at, NOW()) WHERE id = $1") [Stored.toValue id]
    return served (fun n => if n = 0 then .error (Inbox.missing id) else .ok ()) affected
  | .markAllRead userId => do
    let affected ← execute ("UPDATE in_app_notifications SET read = TRUE, read_at = NOW() " ++
      "WHERE user_id = $1 AND read = FALSE") [Stored.toValue userId]
    return served .ok affected
  | .unreadCount userId => do
    let count : Except Failure (Option Int) ← fetchFirst (fun r => r.only "count")
      "SELECT COUNT(*) FROM in_app_notifications WHERE user_id = $1 AND read = FALSE"
      [Stored.toValue userId]
    return served
      (fun
        | none => .error (Failure.toServiceError .rowMissing)
        | some n => .ok n.toNat) count

end Inbox

/-! ### Preferences -/

namespace Preferences

/-- The table of preferences. -/
def relation : Relation where
  name := "notification_preferences"
  columns := ["user_id", "email_enabled", "sms_enabled", "push_enabled", "in_app_enabled",
    "quiet_start", "quiet_end", "updated_at"]

/-- Preferences as the parameters of their insertion. -/
def params (p : UserPreferences) : List Value :=
  [Stored.toValue p.userId, Stored.toValue p.emailEnabled, Stored.toValue p.smsEnabled,
    Stored.toValue p.pushEnabled, Stored.toValue p.inAppEnabled, Stored.toValue p.quietStart,
    Stored.toValue p.quietEnd, Stored.toValue p.updatedAt]

/-- Reads a row as preferences. -/
def decode (r : Row) : Except Failure UserPreferences := do
  let userId ← r.get "user_id"
  let email ← r.get "email_enabled"
  let sms ← r.get "sms_enabled"
  let push ← r.get "push_enabled"
  let inApp ← r.get "in_app_enabled"
  let quietStart ← r.get "quiet_start"
  let quietEnd ← r.get "quiet_end"
  let updatedAt ← r.get "updated_at"
  return ⟨userId, email, sms, push, inApp, quietStart, quietEnd, updatedAt⟩

/-- The assignments that make the given columns what was to be inserted. -/
def excluded (columns : List String) : String :=
  ", ".intercalate (columns.map fun c => c ++ " = EXCLUDED." ++ c)

/-- The session of an operation. -/
def perform : (op : Preferences.Op) → Session (Except ServiceError op.Answer)
  | .get userId => do
    let found ← fetchFirst decode (relation.selection "user_id = $1") [Stored.toValue userId]
    return served .ok found
  | .upsert p => do
    let affected ← execute (relation.insertion ++ " ON CONFLICT (user_id) DO UPDATE SET " ++
      excluded (relation.columns.drop 1)) (params p)
    return served (fun _ => .ok ()) affected

end Preferences

/-! ### Push tokens -/

namespace Tokens

/-- The table of push tokens. -/
def relation : Relation where
  name := "push_tokens"
  columns := ["id", "user_id", "token", "platform", "device_id", "active", "created_at",
    "updated_at"]

/-- A push token as the parameters of its insertion. -/
def params (t : PushToken) : List Value :=
  [Stored.toValue t.id, Stored.toValue t.userId, Stored.toValue t.token,
    Stored.toValue t.platform.name, Stored.toValue t.deviceId, Stored.toValue t.active,
    Stored.toValue t.createdAt, Stored.toValue t.updatedAt]

/-- Reads a row as a push token, unless its platform is none. -/
def decode (r : Row) : Except Failure (Except ServiceError PushToken) := do
  let id ← r.get "id"
  let userId ← r.get "user_id"
  let token ← r.get "token"
  let platform ← r.get "platform"
  let deviceId ← r.get "device_id"
  let active ← r.get "active"
  let createdAt ← r.get "created_at"
  let updatedAt ← r.get "updated_at"
  return (Platform.ofText? platform).map fun platform =>
    ⟨id, userId, token, platform, deviceId, active, createdAt, updatedAt⟩

/-- The session of an operation. -/
def perform : (op : Tokens.Op) → Session (Except ServiceError op.Answer)
  | .store t => do
    let affected ← execute (relation.insertion ++ " ON CONFLICT (token) DO UPDATE SET " ++
      Preferences.excluded ["user_id", "platform", "device_id", "active"] ++
      ", updated_at = NOW()") (params t)
    return served (fun _ => .ok ()) affected
  | .findByUser userId => do
    let found ← fetchAll decode (relation.selection "user_id = $1 ORDER BY created_at ASC")
      [Stored.toValue userId]
    return served (fun tokens => tokens.mapM id) found
  | .deactivate token => do
    let affected ← execute
      "UPDATE push_tokens SET active = FALSE, updated_at = NOW() WHERE token = $1"
      [Stored.toValue token]
    return served (fun n => if n = 0 then .error (Tokens.missing token) else .ok ()) affected
  | .delete token => do
    let affected ← execute "DELETE FROM push_tokens WHERE token = $1" [Stored.toValue token]
    return served (fun _ => .ok ()) affected
  | .deleteByUser userId => do
    let affected ← execute "DELETE FROM push_tokens WHERE user_id = $1" [Stored.toValue userId]
    return served (fun _ => .ok ()) affected

end Tokens

/-! ### Delivery logs -/

namespace Logs

/-- The table of delivery logs. -/
def relation : Relation where
  name := "notification_delivery_logs"
  columns := ["id", "notification_id", "user_id", "channel", "status", "provider",
    "provider_message_id", "error_message", "attempts", "created_at", "delivered_at"]

/-- A delivery log as the parameters of its insertion. -/
def params (l : DeliveryLog) : List Value :=
  [Stored.toValue l.id, Stored.toValue l.notificationId, Stored.toValue l.userId,
    Stored.toValue l.channel.name, Stored.toValue l.status.name, Stored.toValue l.provider,
    Stored.toValue l.providerMessageId, Stored.toValue l.errorMessage,
    Stored.toValue (countToInteger l.attempts), Stored.toValue l.createdAt,
    Stored.toValue l.deliveredAt]

/-- Reads a row as a delivery log, unless its channel or its status is none. -/
def decode (r : Row) : Except Failure (Except ServiceError DeliveryLog) := do
  let id ← r.get "id"
  let notificationId ← r.get "notification_id"
  let userId ← r.get "user_id"
  let channel ← r.get "channel"
  let status ← r.get "status"
  let provider ← r.get "provider"
  let providerMessageId ← r.get "provider_message_id"
  let errorMessage ← r.get "error_message"
  let attempts ← r.get "attempts"
  let createdAt ← r.get "created_at"
  let deliveredAt ← r.get "delivered_at"
  return do
    let channel ← Channel.ofText? channel
    let status ← DeliveryStatus.ofText? status
    return ⟨id, notificationId, userId, channel, status, provider, providerMessageId, errorMessage,
      integerToCount attempts, createdAt, deliveredAt⟩

/-- The session of an operation. -/
def perform : (op : Logs.Op) → Session (Except ServiceError op.Answer)
  | .store l => do
    let affected ← execute relation.insertion (params l)
    return served (fun _ => .ok ()) affected
  | .findByNotification id => do
    let found ← fetchAll decode
      (relation.selection "notification_id = $1 ORDER BY created_at ASC") [Stored.toValue id]
    return served (fun logs => logs.mapM fun l => l) found

end Logs

end Courier.Sql
