import Courier.Bus.Registry
import Courier.Routine

/-!
# The consumer

The consumer takes deliveries from the subscriptions of its topics. Each delivery goes to all
handlers of its type of event, one after the other, and is then confirmed, whatever came of it.

* `Handler`: a handler with its name and what it handles.
* `Consumer.process`: what is done with one delivery.
* `Consumer.routine`: the consumer in the background.
-/

namespace Courier

/-- Something that handles events. -/
structure Handler where
  name : String
  handled : Handled
  handle : BusEvent → Action (Except DeliveryError Unit)

/-- A handler from outside with the given name. -/
def Handler.external (name : String) (handled : Handled) : Handler :=
  ⟨name, handled, fun e => ask (.handle name e)⟩

/-- Confirms a delivery, if it is to be confirmed and if that can be done. -/
def Delivery.confirm (d : Delivery) : Action Unit :=
  match d.receipt with
  | none => pure ()
  | some receipt =>
    bestEffort DeliveryError.text "ack delivery" (ask (.confirm receipt d.event.id))

/-- What takes deliveries of some topics to handlers. -/
structure Consumer where
  topics : List String
  registry : Registry Handler

namespace Consumer

/-- The consumer of some topics for a list of handlers. -/
def new (topics : List String) (handlers : List Handler) : Consumer :=
  ⟨topics, .ofList Handler.handled handlers⟩

/-- Has an event handled by one handler after the other, and reports each failure. -/
def handleAll (e : BusEvent) : List Handler → Action Unit
  | [] => pure ()
  | h :: hs => do
    match ← h.handle e with
    | .ok _ => pure ()
    | .error error => note (.handlerFailed h.name e error)
    handleAll e hs

/-- Has a delivery handled, and confirms it. -/
def process (c : Consumer) (d : Delivery) : Action Unit := do
  let handlers := c.registry.matching d.event.eventType
  if handlers.isEmpty then note (.unhandled d.event)
  handleAll d.event handlers
  d.confirm

/-- The consumer in the background: processes one delivery after the other, until it is cancelled or
    all its subscriptions have ended. -/
def routine (c : Consumer) : Routine where
  wait := .delivery
  opening := note (.consumerStarted c.topics)
  round
    | some d => do
      c.process d
      return true
    | none => do
      note .subscriptionsEnded
      return false
  closing := note .consumerStopped

end Consumer

end Courier
