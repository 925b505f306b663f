import Courier.Outbox.Event
import Courier.Text.Quoted

/-!
# Deliveries

What travels over a bus is an event with its identifier as text, its type and its payload. A
subscriber gets it as a delivery, together with the receipt by which it is confirmed, if it is to be
confirmed at all.

* `BusEvent.ofOutbox`: an outbox event as it travels.
* `Delivery.description`: a delivery as it is shown to a reader of the log.
-/

namespace Courier

/-- An event on a bus. -/
structure BusEvent where
  id : String
  eventType : String
  payload : Bytes
  deriving DecidableEq

/-- An outbox event as it travels over a bus. -/
def BusEvent.ofOutbox (e : Outbox.Event) : BusEvent := ⟨e.id.text, e.eventType, e.payload⟩

/-- How a delivery is confirmed. -/
inductive Receipt
  /-- The bus in memory counts it. -/
  | counted
  /-- Whoever handed the delivery over is told. -/
  | returned
  /-- The broker is told the number that it gave to the delivery. -/
  | tagged (tag : Nat)
  deriving DecidableEq

/-- An event together with how it is confirmed. -/
structure Delivery where
  event : BusEvent
  receipt : Option Receipt
  deriving DecidableEq

/-- An event as it is shown. -/
def BusEvent.description (e : BusEvent) : String :=
  "BusEvent \x7b id: " ++ Text.quoted e.id ++ ", event_type: " ++ Text.quoted e.eventType ++
    ", payload: " ++ Text.bracketed (e.payload.map fun b => Text.number b.toNat) ++ " \x7d"

/-- A delivery as it is shown. -/
def Delivery.description (d : Delivery) : String :=
  "Delivery \x7b event: " ++ d.event.description ++ ", ackable: " ++
    (if d.receipt.isSome then "true" else "false") ++ " \x7d"

end Courier
