import Courier.Text.Map
import Courier.Text.Bytes
import Courier.Uuid

/-!
# Messages

What is handed to the sender of a channel, and the report that comes back from a push.

* `PushReport.failureSummary`: the failures of a report in one text.
-/

namespace Courier.Notification

/-- A file that goes with an e-mail. -/
structure Attachment where
  filename : String
  contentType : String
  data : Bytes
  deriving DecidableEq

/-- An e-mail to a user, with the addresses that get it and its copies. -/
structure EmailMessage where
  userId : Uuid
  recipients : List String
  cc : List String
  bcc : List String
  subject : String
  body : String
  htmlBody : Option String
  attachments : List Attachment
  deriving DecidableEq

/-- A text message to the telephone of a user. -/
structure SmsMessage where
  userId : Uuid
  recipient : String
  body : String
  deriving DecidableEq

/-- A message to all devices of a user. -/
structure PushMessage where
  userId : Uuid
  title : String
  body : String
  data : TextMap
  imageUrl : Option String
  badge : Option UInt32
  sound : Option String
  deriving DecidableEq

/-- A message to the inbox of a user. -/
structure InAppMessage where
  userId : Uuid
  /-- What the notification is about. -/
  kind : String
  title : String
  body : String
  data : TextMap
  actionUrl : Option String
  imageUrl : Option String
  deriving DecidableEq

/-- A token to which a push did not get through. -/
structure PushFailure where
  token : String
  error : String
  deriving DecidableEq

/-- What came of a push to several tokens. -/
structure PushReport where
  successCount : Nat
  failureCount : Nat
  failures : List PushFailure
  providerMessageId : Option String
  deriving DecidableEq

namespace PushReport

/-- The report of a push that was not made. -/
def empty : PushReport := ⟨0, 0, [], none⟩

instance : Inhabited PushReport := ⟨empty⟩

/-- Whether no token is counted. -/
def isEmpty (r : PushReport) : Bool := r.successCount = 0 && r.failureCount = 0

/-- Whether the push got through to some token. -/
def anySucceeded (r : PushReport) : Bool := 0 < r.successCount

/-- The failures in one text, if there are any. -/
def failureSummary (r : PushReport) : Option String :=
  if r.failures.isEmpty then none
  else some ("; ".intercalate (r.failures.map fun f => f.token ++ ": " ++ f.error))

end PushReport

end Courier.Notification
