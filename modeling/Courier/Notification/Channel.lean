import Courier.Error
import Courier.Json.Codec

/-!
# Channels, states and platforms

The names of the channels over which a notification goes out, of the states of a delivery, and of
the platforms of devices. Each name is written and read in one spelling.
-/

namespace Courier.Notification

/-- A way to reach a user. -/
inductive Channel
  | email
  | sms
  | push
  | inApp
  deriving DecidableEq

/-- How far a delivery has come. -/
inductive DeliveryStatus
  | pending
  | sent
  | failed
  | delivered
  | read
  deriving DecidableEq

/-- What kind of device takes push messages. -/
inductive Platform
  | ios
  | android
  | web
  deriving DecidableEq

/-- The named value of a text, or an error that says what was looked for. -/
def named? {α : Type} [Named α] (what text : String) : Except ServiceError α :=
  match Named.ofName? text with
  | some a => .ok a
  | none => .error (.validation ("unknown " ++ what ++ ": " ++ text))

namespace Channel

def name : Channel → String
  | email => "email"
  | sms => "sms"
  | push => "push"
  | inApp => "in_app"

instance : Named Channel where
  all := [email, sms, push, inApp]
  name := name
  mem_all a := by cases a <;> decide
  name_injective a b := by cases a <;> cases b <;> decide

instance : Json.Codec Channel := Json.namedCodec Channel

/-- The channel with the given name. -/
def ofText? (text : String) : Except ServiceError Channel := named? "channel" text

end Channel

namespace DeliveryStatus

def name : DeliveryStatus → String
  | pending => "pending"
  | sent => "sent"
  | failed => "failed"
  | delivered => "delivered"
  | read => "read"

instance : Named DeliveryStatus where
  all := [pending, sent, failed, delivered, read]
  name := name
  mem_all a := by cases a <;> decide
  name_injective a b := by cases a <;> cases b <;> decide

instance : Json.Codec DeliveryStatus := Json.namedCodec DeliveryStatus

/-- The state with the given name. -/
def ofText? (text : String) : Except ServiceError DeliveryStatus := named? "delivery status" text

end DeliveryStatus

namespace Platform

def name : Platform → String
  | ios => "ios"
  | android => "android"
  | web => "web"

instance : Named Platform where
  all := [ios, android, web]
  name := name
  mem_all a := by cases a <;> decide
  name_injective a b := by cases a <;> cases b <;> decide

instance : Json.Codec Platform := Json.namedCodec Platform

/-- The platform with the given name. -/
def ofText? (text : String) : Except ServiceError Platform := named? "platform" text

end Platform

end Courier.Notification
