import Courier.Request
import Courier.Text.Blank

/-!
# Inbox, preferences and push tokens

What a user does with notifications, preferences and the tokens of devices. What makes no sense is
refused here, before the stores are asked.

* `Inbox.create`, `Inbox.list`: a notification needs a title, and a page is bounded.
* `Preferences.update`: quiet hours have both a start and an end.
* `Tokens.register`: a token is kept without the blanks around it, and must not be empty.
-/

namespace Courier.Notification

namespace Inbox

/-- The greatest number of notifications on a page. -/
def maxPageSize : Nat := 100

/-- Stores a notification, which must have a title. -/
def create (n : InAppNotification) : Action (Except ServiceError Unit) :=
  if (Text.trim n.title).isEmpty then
    return .error (.validation "title must not be empty")
  else ask (.inbox (.store n))

/-- The notification with an identifier. -/
def get (id : Uuid) : Action (Except ServiceError InAppNotification) := do
  match ← ask (.inbox (.findById id)) with
  | .error error => return .error error
  | .ok none => return .error (missing id)
  | .ok (some n) => return .ok n

/-- A page of a user's notifications, the newest first. -/
def list (userId : Uuid) (limit offset : Nat) :
    Action (Except ServiceError (List InAppNotification)) :=
  if limit = 0 then return .ok []
  else ask (.inbox (.findByUser userId (min limit maxPageSize) offset))

/-- Marks a notification as read. -/
def markRead (id : Uuid) : Action (Except ServiceError Unit) := ask (.inbox (.markRead id))

/-- Marks all notifications of a user as read, and says how many were not. -/
def markAllRead (userId : Uuid) : Action (Except ServiceError Nat) :=
  ask (.inbox (.markAllRead userId))

/-- How many notifications a user has not read. -/
def unreadCount (userId : Uuid) : Action (Except ServiceError Nat) :=
  ask (.inbox (.unreadCount userId))

end Inbox

namespace Preferences

/-- The preferences of a user, who takes everything unless the store says otherwise. -/
def get (userId : Uuid) : Action (Except ServiceError UserPreferences) := do
  match ← ask (.preferences (.get userId)) with
  | .error error => return .error error
  | .ok (some p) => return .ok p
  | .ok none =>
    let now ← ask .clock
    return .ok (.default userId now)

/-- Replaces the preferences of a user. -/
def update (p : UserPreferences) : Action (Except ServiceError UserPreferences) := do
  if p.quietStart.isSome ≠ p.quietEnd.isSome then
    return .error (.validation "quiet_start and quiet_end must be set together")
  let now ← ask .clock
  let p := { p with updatedAt := now }
  match ← ask (.preferences (.upsert p)) with
  | .error error => return .error error
  | .ok _ => return .ok p

end Preferences

namespace Tokens

/-- Registers the token of a device for a user. -/
def register (userId : Uuid) (token : String) (platform : Platform) (deviceId : String) :
    Action (Except ServiceError PushToken) := do
  let token := Text.trim token
  if token.isEmpty then return .error (.validation "push token must not be empty")
  let now ← ask .clock
  let id ← ask .freshId
  let t : PushToken := ⟨id, userId, token, platform, deviceId, true, now, now⟩
  match ← ask (.tokens (.store t)) with
  | .error error => return .error error
  | .ok _ => return .ok t

/-- All tokens of a user, the oldest first. -/
def list (userId : Uuid) : Action (Except ServiceError (List PushToken)) :=
  ask (.tokens (.findByUser userId))

/-- Forgets a token. -/
def unregister (token : String) : Action (Except ServiceError Unit) :=
  ask (.tokens (.delete token))

/-- Forgets all tokens of a user. -/
def unregisterAll (userId : Uuid) : Action (Except ServiceError Unit) :=
  ask (.tokens (.deleteByUser userId))

/-- Keeps a token from being used, until it is registered again. -/
def deactivate (token : String) : Action (Except ServiceError Unit) :=
  ask (.tokens (.deactivate token))

end Tokens

end Courier.Notification
