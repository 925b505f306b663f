import Courier.Request

/-!
# The notification service

The service takes a message to a user over one channel. A user who has turned the in-app or the push
channel off gets nothing over it; when the preferences cannot be had, the user is taken to want
everything. Each attempt to send an e-mail, a text message or a push is logged, and a failure to log
it changes nothing.

* `Service.sendInApp`, `Service.sendPush`, `Service.sendEmail`, `Service.sendSms`: the channels.
-/

namespace Courier.Notification

/-- The names of the providers of the channels. A channel without a provider sends nothing. -/
structure Service where
  email : Option String
  sms : Option String
  push : Option String
  deriving DecidableEq

/-- Writes a delivery log, if that can be done. -/
def writeLog (l : DeliveryLog) : Action Unit :=
  bestEffort ServiceError.text "store delivery log" (ask (.logs (.store l)))

/-- Logs an attempt to deliver. -/
def logAttempt (userId : Uuid) (channel : Channel) (status : DeliveryStatus) (provider : String)
    (messageId error : Option String) : Action Unit := do
  let id ← ask .freshId
  let now ← ask .clock
  writeLog (.attempt id now userId channel status provider messageId error)

/-- The text of an optional address, unless it is empty. -/
def nonempty (text : Option String) : Option String := text.filter fun s => !s.isEmpty

namespace Service

/-- The preferences of a user, if there are any to be had. -/
def preferencesOf (userId : Uuid) : Action (Option UserPreferences) := do
  match ← ask (.preferences (.get userId)) with
  | .ok p => return p
  | .error error =>
    note (.preferencesUnknown userId error)
    return none

/-- Whether a user has turned a channel off. -/
def isDisabled (userId : Uuid) (channel : Channel) : Action Bool := do
  let p ← preferencesOf userId
  return p.any fun p => !p.allows channel

/-- Puts a notification into the inbox of a user who takes it. -/
def sendInApp (m : InAppMessage) : Action (Except ServiceError (Option InAppNotification)) := do
  if ← isDisabled m.userId .inApp then
    note (.inAppDisabled m.userId)
    return .ok none
  let id ← ask .freshId
  let now ← ask .clock
  let n : InAppNotification := {
    id := id
    userId := m.userId
    kind := m.kind
    title := m.title
    body := m.body
    data := m.data
    actionUrl := nonempty m.actionUrl
    imageUrl := nonempty m.imageUrl
    read := false
    readAt := none
    createdAt := now }
  match ← ask (.inbox (.store n)) with
  | .error error => return .error error
  | .ok _ => return .ok (some n)

/-- Logs what came of a push. -/
def logPush (m : PushMessage) (provider : String) :
    Except ServiceError PushReport → Action Unit
  | .error error => logAttempt m.userId .push .failed provider none (some error.text)
  | .ok report => do
    logAttempt m.userId .push (if report.anySucceeded then .sent else .failed) provider
      report.providerMessageId report.failureSummary
    if 0 < report.failureCount then
      note (.pushPartlyFailed m.userId report.successCount report.failureCount)

/-- Sends a push to all active devices of a user who takes it. -/
def sendPush (s : Service) (m : PushMessage) : Action (Except ServiceError PushReport) := do
  if ← isDisabled m.userId .push then
    note (.pushDisabled m.userId)
    return .ok .empty
  match ← ask (.tokens (.findByUser m.userId)) with
  | .error error => return .error error
  | .ok tokens =>
    let active := (tokens.filter fun t => t.active).map (·.token)
    if active.isEmpty then return .ok .empty
    match s.push with
    | none => return .ok .empty
    | some provider =>
      let outcome ← ask (.sendPush m active)
      logPush m provider outcome
      return outcome

/-- Logs what came of an e-mail or a text message. -/
def logSending (userId : Uuid) (channel : Channel) (provider : String) :
    Except ServiceError (Option String) → Action Unit
  | .ok messageId => logAttempt userId channel .sent provider messageId none
  | .error error => logAttempt userId channel .failed provider none (some error.text)

/-- Sends an e-mail. -/
def sendEmail (s : Service) (m : EmailMessage) : Action (Except ServiceError Unit) := do
  match s.email with
  | none => return .ok ()
  | some provider =>
    let outcome ← ask (.sendEmail m)
    logSending m.userId .email provider outcome
    return outcome.map fun _ => ()

/-- Sends a text message. -/
def sendSms (s : Service) (m : SmsMessage) : Action (Except ServiceError Unit) := do
  match s.sms with
  | none => return .ok ()
  | some provider =>
    let outcome ← ask (.sendSms m)
    logSending m.userId .sms provider outcome
    return outcome.map fun _ => ()

end Service

end Courier.Notification
