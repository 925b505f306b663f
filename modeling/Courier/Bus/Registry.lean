/-!
# The registry of handlers

A handler declares the types of the events that it handles: one type, several, or all. The registry
is an index of the handlers by type, in which the handlers of one event are found in the order in
which they were registered, those of all types last.

* `Registry.ofList`: the registry of a list of handlers.
* `Registry.matching`: the handlers for a type of event.
-/

namespace Courier

/-- The types of events that a handler handles. -/
inductive Handled
  | one (eventType : String)
  | many (eventTypes : List String)
  | all
  deriving DecidableEq

/-- An index of handlers by the types that they handle. -/
structure Registry (α : Type) where
  /-- The handlers of each type that some handler declares. -/
  byType : List (String × List α)
  /-- The handlers of all types. -/
  forAll : List α

namespace Registry

variable {α : Type}

/-- The registry without handlers. -/
def empty : Registry α := ⟨[], []⟩

instance : Inhabited (Registry α) := ⟨empty⟩

/-- Adds a handler at the end of those of a type. -/
def addTo (eventType : String) (handler : α) :
    List (String × List α) → List (String × List α)
  | [] => [(eventType, [handler])]
  | e :: es =>
    if e.1 = eventType then (e.1, e.2 ++ [handler]) :: es else e :: addTo eventType handler es

/-- Registers a handler for what it declares. A type that it declares twice counts twice. -/
def register (r : Registry α) (handled : Handled) (handler : α) : Registry α :=
  match handled with
  | .all => { r with forAll := r.forAll ++ [handler] }
  | .one eventType => { r with byType := addTo eventType handler r.byType }
  | .many eventTypes =>
    { r with byType := eventTypes.foldl (fun index t => addTo t handler index) r.byType }

/-- The registry of a list of handlers. -/
def ofList (handled : α → Handled) (handlers : List α) : Registry α :=
  handlers.foldl (fun r h => r.register (handled h) h) empty

/-- The handlers for a type of event: those that declare it, and then those of all types. -/
def matching (r : Registry α) (eventType : String) : List α :=
  (r.byType.lookup eventType).getD [] ++ r.forAll

/-- Whether nothing is handled. -/
def isEmpty (r : Registry α) : Bool := r.byType.isEmpty && r.forAll.isEmpty

end Registry

end Courier
