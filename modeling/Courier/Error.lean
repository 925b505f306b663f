/-!
# Errors

What can go wrong on the way of an event (`DeliveryError`) and in the notification service
(`ServiceError`), which passes the former on. Each is a cause with its reason, and has a text for
the log.

* `DeliveryError.reason`: the reason alone, as it is kept with an event that failed.
* `DeliveryError.text`, `ServiceError.text`: the reason after the name of the cause.
-/

namespace Courier

/-- What can go wrong on the way of an event. -/
inductive DeliveryError
  /-- A value cannot be written or read as JSON. -/
  | serialization (reason : String)
  | parse (reason : String)
  | bus (reason : String)
  | handler (name reason : String)
  | outbox (reason : String)
  | repository (reason : String)
  | database (reason : String)
  | notFound (reason : String)
  | invalidValue (reason : String)
  | invalidState (reason : String)
  deriving DecidableEq

/-- The reason of an error, without the name of its cause. -/
def DeliveryError.reason : DeliveryError → String
  | .serialization reason | .parse reason | .bus reason | .handler _ reason | .outbox reason
  | .repository reason | .database reason | .notFound reason | .invalidValue reason
  | .invalidState reason => reason

/-- The text of an error. -/
def DeliveryError.text : DeliveryError → String
  | .serialization reason => "serialization error: " ++ reason
  | .parse reason => "parse error: " ++ reason
  | .bus reason => "event bus error: " ++ reason
  | .handler name reason => "event handler error: handler=" ++ name ++ ", reason=" ++ reason
  | .outbox reason => "outbox error: " ++ reason
  | .repository reason => "repository error: " ++ reason
  | .database reason => "database error: " ++ reason
  | .notFound reason => "not found: " ++ reason
  | .invalidValue reason => "invalid value: " ++ reason
  | .invalidState reason => "invalid state: " ++ reason

/-- What can go wrong in the notification service. -/
inductive ServiceError
  | delivery (error : DeliveryError)
  | validation (reason : String)
  | provider (name reason : String)
  | infrastructure (reason : String)
  | notFound (reason : String)
  deriving DecidableEq

/-- The text of an error. -/
def ServiceError.text : ServiceError → String
  | .delivery error => "domain: " ++ error.text
  | .validation reason => "validation: " ++ reason
  | .provider name reason => "provider " ++ name ++ ": " ++ reason
  | .infrastructure reason => "infra: " ++ reason
  | .notFound reason => "not found: " ++ reason

end Courier
