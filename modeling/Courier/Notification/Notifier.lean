import Courier.Bus.Consumer
import Courier.Notification.Event
import Courier.Notification.Service

/-!
# The notifiers

The handlers that turn events into notifications. A completed translation is announced in the inbox,
and a new user is welcomed there and by e-mail, each whatever came of the other. An event whose
payload cannot be read is reported and dropped.

* `Notifier.onPayload`: what is done about the payload of an event, if it can be read.
* `Notifier.translation`, `Notifier.welcome`: the handlers.
* `Notifier.all`, `Notifier.dispatcher`: the handlers of the service, and their consumer.
-/

namespace Courier.Notification.Notifier

/-- The payload of an event, if it can be read. -/
def payload? {α : Type} [Json.Model α] (handler : String) (e : BusEvent) : Action (Option α) := do
  match Json.Model.parse e.payload with
  | .ok a => return some a
  | .error _ =>
    note (.malformedPayload handler e)
    return none

/-- Reads the payload of an event and acts on it. If it cannot be read, there is nothing to do. -/
def onPayload {α : Type} [Json.Model α] (handler : String)
    (act : α → Action (Except DeliveryError Unit)) (e : BusEvent) :
    Action (Except DeliveryError Unit) := do
  match ← payload? handler e with
  | none => return .ok ()
  | some a => act a

/-- A payload that can be read is acted on, and nothing else is done. -/
theorem onPayload_eq {α : Type} [Json.Model α] {a : α} {e : BusEvent}
    (h : Json.Model.parse e.payload = .ok a) (handler : String)
    (act : α → Action (Except DeliveryError Unit)) : onPayload handler act e = act a := by
  rw [onPayload, payload?, h]
  rfl

/-- The failure of a handler, for one reason or several. -/
def failure (handler : String) (reasons : List String) : DeliveryError :=
  .handler handler ("; ".intercalate reasons)

/-! ### Translations -/

def translationName : String := "translation_created_notifier"

/-- The announcement of a completed translation. -/
def announcement (t : TranslationCreated) : InAppMessage where
  userId := t.userId
  kind := "translation_completed"
  title := "Translation Complete"
  body := "Your translation from " ++ t.source ++ " to " ++ t.destination ++ " is ready"
  data := .ofList [("translation_id", t.translationId.text)]
  actionUrl := none
  imageUrl := none

/-- Announces a completed translation. -/
def announceCompleted (t : TranslationCreated) : Action (Except DeliveryError Unit) := do
  match ← Service.sendInApp (announcement t) with
  | .ok _ => return .ok ()
  | .error error => return .error (failure translationName [error.text])

/-- Announces the completed translation of an event. -/
def announce (e : BusEvent) : Action (Except DeliveryError Unit) :=
  onPayload translationName announceCompleted e

/-- The handler that announces completed translations. -/
def translation : Handler := ⟨translationName, .one translationCreated, announce⟩

/-! ### New users -/

def welcomeName : String := "user_created_notifier"

/-- How a new user is greeted, by name if there is one. -/
def greeting (u : UserCreated) : String :=
  match nonempty u.name with
  | some name => "Hi " ++ name ++ ", welcome aboard!"
  | none => "Welcome aboard!"

/-- The greeting in the inbox. -/
def inAppWelcome (u : UserCreated) : InAppMessage where
  userId := u.userId
  kind := "welcome"
  title := "Welcome"
  body := greeting u
  data := .empty
  actionUrl := none
  imageUrl := none

/-- The greeting by e-mail. -/
def emailWelcome (u : UserCreated) : EmailMessage where
  userId := u.userId
  recipients := [u.email]
  cc := []
  bcc := []
  subject := "Welcome"
  body := greeting u ++ "\n\nYour account is ready. You will receive notifications here."
  htmlBody := none
  attachments := []

/-- The reason that a step gives for a failure, if it has failed. -/
def reasons {α : Type} (step : String) : Except ServiceError α → List String
  | .ok _ => []
  | .error error => [step ++ ": " ++ error.text]

/-- Welcomes a new user. -/
def greetUser (s : Service) (u : UserCreated) : Action (Except DeliveryError Unit) := do
  let inApp ← Service.sendInApp (inAppWelcome u)
  let email ← s.sendEmail (emailWelcome u)
  let found := reasons "in_app" inApp ++ reasons "email" email
  if found.isEmpty then return .ok () else return .error (failure welcomeName found)

/-- Welcomes the new user of an event. -/
def greet (s : Service) (e : BusEvent) : Action (Except DeliveryError Unit) :=
  onPayload welcomeName (greetUser s) e

/-- The handler that welcomes new users. -/
def welcome (s : Service) : Handler := ⟨welcomeName, .one userCreated, greet s⟩

/-- The handlers of the service. -/
def all (s : Service) : List Handler := [translation, welcome s]

/-- The consumer that takes deliveries of some topics to the handlers of the service. -/
def dispatcher (s : Service) (topics : List String) : Consumer := .new topics (all s)

end Courier.Notification.Notifier
