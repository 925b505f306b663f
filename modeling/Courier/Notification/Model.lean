import Courier.Json.Record
import Courier.Notification.Channel

/-!
# What is stored about notifications

The notifications in a user's inbox, the preferences of users, the push tokens of their devices and
the log of attempts to deliver.

* `InAppNotification.markRead`: the first time of reading counts.
* `UserPreferences.allows`, `UserPreferences.inQuietHours`: what a user wants.
* `DeliveryLog.attempt`: the record of one attempt.
-/

namespace Courier.Notification

/-- A notification in a user's inbox. -/
structure InAppNotification where
  id : Uuid
  userId : Uuid
  /-- What the notification is about. -/
  kind : String
  title : String
  body : String
  data : TextMap
  actionUrl : Option String
  imageUrl : Option String
  read : Bool
  readAt : Option Instant
  createdAt : Instant
  deriving DecidableEq

instance : Json.Model InAppNotification where
  fields := [.plain "id" Uuid, .plain "user_id" Uuid, .plain "type" String, .plain "title" String,
    .plain "body" String, .sparse "data" TextMap.empty, .plain "action_url" (Option String),
    .plain "image_url" (Option String), .plain "read" Bool, .plain "read_at" (Option Instant),
    .plain "created_at" Instant]
  toRecord n := (n.id, n.userId, n.kind, n.title, n.body, n.data, n.actionUrl, n.imageUrl, n.read,
    n.readAt, n.createdAt, ())
  ofRecord := fun (id, userId, kind, title, body, data, actionUrl, imageUrl, read, readAt,
      createdAt, _) =>
    ⟨id, userId, kind, title, body, data, actionUrl, imageUrl, read, readAt, createdAt⟩
  ofRecord_toRecord _ := rfl

/-- The notification as read at the given time, unless it has been read before. -/
def InAppNotification.markRead (n : InAppNotification) (now : Instant) : InAppNotification :=
  if n.read then n else { n with read := true, readAt := some now }

/-- What a user wants to get, and when. -/
structure UserPreferences where
  userId : Uuid
  emailEnabled : Bool
  smsEnabled : Bool
  pushEnabled : Bool
  inAppEnabled : Bool
  /-- When the hours begin in which the user wants quiet. -/
  quietStart : Option TimeOfDay
  /-- When they end. -/
  quietEnd : Option TimeOfDay
  updatedAt : Instant
  deriving DecidableEq

instance : Json.Model UserPreferences where
  fields := [.plain "user_id" Uuid, .plain "email_enabled" Bool, .plain "sms_enabled" Bool,
    .plain "push_enabled" Bool, .plain "in_app_enabled" Bool,
    .plain "quiet_start" (Option TimeOfDay), .plain "quiet_end" (Option TimeOfDay),
    .plain "updated_at" Instant]
  toRecord p := (p.userId, p.emailEnabled, p.smsEnabled, p.pushEnabled, p.inAppEnabled,
    p.quietStart, p.quietEnd, p.updatedAt, ())
  ofRecord := fun (userId, email, sms, push, inApp, quietStart, quietEnd, updatedAt, _) =>
    ⟨userId, email, sms, push, inApp, quietStart, quietEnd, updatedAt⟩
  ofRecord_toRecord _ := rfl

namespace UserPreferences

/-- The preferences of a user who has stated none: every channel, at every hour. -/
def default (userId : Uuid) (now : Instant) : UserPreferences :=
  ⟨userId, true, true, true, true, none, none, now⟩

/-- Whether the user takes notifications over a channel. -/
def allows (p : UserPreferences) : Channel → Bool
  | .email => p.emailEnabled
  | .sms => p.smsEnabled
  | .push => p.pushEnabled
  | .inApp => p.inAppEnabled

/-- Whether a time lies in the quiet hours, which may go past midnight. Their end is outside. -/
def inQuietHours (p : UserPreferences) (time : TimeOfDay) : Bool :=
  match p.quietStart, p.quietEnd with
  | some start, some stop =>
    if start ≤ stop then start ≤ time ∧ time < stop else start ≤ time ∨ time < stop
  | _, _ => false

end UserPreferences

/-- The token under which a device takes push messages. -/
structure PushToken where
  id : Uuid
  userId : Uuid
  token : String
  platform : Platform
  deviceId : String
  active : Bool
  createdAt : Instant
  updatedAt : Instant
  deriving DecidableEq

instance : Json.Model PushToken where
  fields := [.plain "id" Uuid, .plain "user_id" Uuid, .plain "token" String,
    .plain "platform" Platform, .plain "device_id" String, .plain "active" Bool,
    .plain "created_at" Instant, .plain "updated_at" Instant]
  toRecord t := (t.id, t.userId, t.token, t.platform, t.deviceId, t.active, t.createdAt,
    t.updatedAt, ())
  ofRecord := fun (id, userId, token, platform, deviceId, active, createdAt, updatedAt, _) =>
    ⟨id, userId, token, platform, deviceId, active, createdAt, updatedAt⟩
  ofRecord_toRecord _ := rfl

/-- The record of an attempt to deliver. -/
structure DeliveryLog where
  id : Uuid
  /-- The notification that was to be delivered, if there is one. -/
  notificationId : Option Uuid
  userId : Uuid
  channel : Channel
  status : DeliveryStatus
  provider : String
  providerMessageId : Option String
  errorMessage : Option String
  attempts : UInt32
  createdAt : Instant
  deliveredAt : Option Instant
  deriving DecidableEq

instance : Json.Model DeliveryLog where
  fields := [.plain "id" Uuid, .plain "notification_id" (Option Uuid), .plain "user_id" Uuid,
    .plain "channel" Channel, .plain "status" DeliveryStatus, .plain "provider" String,
    .plain "provider_message_id" (Option String), .plain "error_message" (Option String),
    .plain "attempts" UInt32, .plain "created_at" Instant,
    .plain "delivered_at" (Option Instant)]
  toRecord l := (l.id, l.notificationId, l.userId, l.channel, l.status, l.provider,
    l.providerMessageId, l.errorMessage, l.attempts, l.createdAt, l.deliveredAt, ())
  ofRecord := fun (id, notificationId, userId, channel, status, provider, providerMessageId,
      errorMessage, attempts, createdAt, deliveredAt, _) =>
    ⟨id, notificationId, userId, channel, status, provider, providerMessageId, errorMessage,
      attempts, createdAt, deliveredAt⟩
  ofRecord_toRecord _ := rfl

/-- The record of a first attempt, made at the given time. -/
def DeliveryLog.attempt (id : Uuid) (now : Instant) (userId : Uuid) (channel : Channel)
    (status : DeliveryStatus) (provider : String) (messageId error : Option String) :
    DeliveryLog :=
  ⟨id, none, userId, channel, status, provider, messageId, error, 1, now, none⟩

end Courier.Notification
