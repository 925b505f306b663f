import Courier.Outbox.Worker
import Courier.Proofs.Simulation.Healthy
import Courier.Simulation.Run

/-!
# From what has happened to the user

What has happened is raised as events, which are stored in an outbox as one batch. A worker takes
them out of the outbox and publishes them to a bus, and a consumer takes them off the bus and
notifies the users. Worker and consumer ask one question at a time, and so does the consumer read
one of its subscriptions at a time. Which of them goes on, and which subscription is read, is not
known: a sequence of turns says what happens in one run.

* `Pipeline.start`: what has happened is raised, and the consumer has subscribed to its topics.
* `Pipeline.play`: the pipeline after a sequence of turns.
* `Pipeline.IsQuiet`: everything waits.
* `runToDelay_raiseAll`: the events that are raised.
-/

namespace Courier

open Notification Outbox Simulation

/-- An outbox, a bus and all that surrounds them, with a worker and a consumer at work. -/
structure Pipeline where
  surroundings : Surroundings
  worker : Worker
  /-- What is left to do of the tick of the worker. -/
  work : Action Report
  consumer : Consumer
  /-- What is left to do of the delivery that the consumer handles. -/
  handling : Action Unit
  subscriptions : List Subscription
  /-- The batch, until it is stored. -/
  unstored : Option (List Event)
  /-- How many ticks have begun since the batch was stored. -/
  ticks : Nat

namespace Pipeline

/-- What can happen next. -/
inductive Turn
  /-- The batch is stored. -/
  | store
  /-- The worker begins a tick. -/
  | tick
  /-- The question of the worker is answered. -/
  | work
  /-- The consumer reads one of its subscriptions. -/
  | receive (i : Nat)
  /-- The question of the consumer is answered. -/
  | handle

/-- The pipeline after a turn. A turn for which it is not the time changes nothing. -/
def step (p : Pipeline) : Turn → Pipeline
  | .store =>
    match p.unstored with
    | none => p
    | some batch =>
      match p.surroundings.answer? (.outbox (.store batch)) with
      | some (.ok _, s) => { p with surroundings := s, unstored := none }
      | _ => p
  | .tick =>
    match p.work with
    | .done _ =>
      { p with
        work := p.worker.runOnce
        ticks := if p.unstored.isNone then p.ticks + 1 else p.ticks }
    | .ask _ _ => p
  | .work =>
    match p.work with
    | .done _ => p
    | .ask q next =>
      match p.surroundings.answer? q with
      | some (a, s) => { p with surroundings := s, work := next a }
      | none => p
  | .receive i =>
    match p.handling, p.subscriptions[i]? with
    | .done _, some subscription =>
      let (lost, yield, subscription) := p.surroundings.bus.next subscription
      { p with
        surroundings := lost.foldl (fun s skipped => s.report (.lagged skipped)) p.surroundings
        subscriptions := p.subscriptions.set i subscription
        handling := match yield with
          | .delivery d => p.consumer.process d
          | _ => p.handling }
    | _, _ => p
  | .handle =>
    match p.handling with
    | .done _ => p
    | .ask q next =>
      match p.surroundings.answer? q with
      | some (a, s) => { p with surroundings := s, handling := next a }
      | none => p

/-- The pipeline after a sequence of turns. -/
def play (p : Pipeline) (turns : List Turn) : Pipeline := turns.foldl step p

theorem play_append (p : Pipeline) (turns turns' : List Turn) :
    p.play (turns ++ turns') = (p.play turns).play turns' := List.foldl_append

/-- The batch is stored, the worker is between two ticks, the consumer handles nothing, and there is
    nothing to read on any of its subscriptions. -/
structure IsQuiet (p : Pipeline) : Prop where
  stored : p.unstored = none
  resting : p.work.question? = none
  idle : p.handling.question? = none
  waiting : ∀ s ∈ p.subscriptions, (p.surroundings.bus.next s).2.1 = .waiting

/-- Nothing has happened yet but that a batch has been raised. -/
def ready (service : Service) (worker : Worker) (surroundings : Surroundings)
    (subscriptions : List Subscription) (batch : List Event) : Pipeline where
  surroundings := surroundings
  worker := worker
  work := return .start 0
  consumer := Notifier.dispatcher service [translationTopic, userTopic]
  handling := return ()
  subscriptions := subscriptions
  unstored := some batch
  ticks := 0

/-- A consumer of the topics of the service has subscribed to a new bus, and what has happened has
    been raised. There is no such pipeline if one of that fails. -/
def start (service : Service) (worker : Worker) (capacity : Nat) (preferences : Preferences.Store)
    (occurrences : List Occurrence) : Option Pipeline :=
  match subscribeAll (.new capacity) [translationTopic, userTopic] with
  | .error _ => none
  | .ok (subscriptions, bus) =>
    match runToDelay (raiseAll occurrences .empty)
      { Surroundings.new bus true none with stores.preferences := preferences } with
    | (.done raised, s) => some (ready service worker s subscriptions raised.take.1)
    | _ => none

end Pipeline

/-! ### Raising -/

namespace Notification

/-- An event of the outbox says what has happened, and has just been raised. -/
structure Occurrence.RaisedAs (o : Occurrence) (e : Event) : Prop where
  eventType : e.eventType = o.eventType
  payload : e.payload = o.payload
  pending : e.status = .pending
  retryCount : e.retryCount = 0

/-- Raising an event takes one identifier and one reading of the clock. -/
theorem runToDelay_event_bind {α : Type} (o : Occurrence) (next : DomainEvent → Action α)
    (s : Surroundings) : ∃ e row, e.toOutbox = .ok row ∧ o.RaisedAs row ∧ row.id = .nth s.ids ∧
      runToDelay (o.event >>= next) s =
        runToDelay (next e) { s with ids := s.ids + 1, readings := s.readings + 1 } := by
  cases o with
  | translation t => exact ⟨_, _, rfl, ⟨rfl, rfl, rfl, rfl⟩, rfl, rfl⟩
  | user u => exact ⟨_, _, rfl, ⟨rfl, rfl, rfl, rfl⟩, rfl, rfl⟩

/-- What has happened is raised as a batch of events, in order and under different identifiers. -/
theorem runToDelay_raiseAll (occurrences : List Occurrence) (raised : RaisedEvents)
    (s : Surroundings) :
    ∃ batch, runToDelay (raiseAll occurrences raised) s =
        (.done ⟨raised.events ++ batch⟩,
          { s with
            ids := s.ids + occurrences.length
            readings := s.readings + occurrences.length }) ∧
      List.Forall₂ Occurrence.RaisedAs occurrences batch ∧
      batch.map (·.id) = (List.range' s.ids occurrences.length).map .nth := by
  -- Identifiers are given out in order, from the first one that has not been given out yet.
  induction occurrences generalizing raised s with
  | nil => exact ⟨[], by rw [List.append_nil]; rfl, .nil, rfl⟩
  | cons o occurrences ih =>
    obtain ⟨e, row, hrow, hraised, hid, hrun⟩ :=
      runToDelay_event_bind o (fun e => raiseAll occurrences (raised.raise e).2) s
    obtain ⟨batch, hbatch, hforall, hids⟩ := ih (raised.raise e).2
      { s with ids := s.ids + 1, readings := s.readings + 1 }
    refine ⟨row :: batch, ?_, .cons hraised hforall, ?_⟩
    · rw [raiseAll, hrun, hbatch, RaisedEvents.raise, hrow]
      simp [Nat.add_assoc, Nat.add_comm 1]
    · rw [List.map_cons, hid, hids]
      rfl

variable {occurrences : List Occurrence} {batch : List Event}

theorem Occurrence.isRaised (h : List.Forall₂ RaisedAs occurrences batch)
    (hids : batch.map (·.id) = (List.range batch.length).map .nth)
    (hroom : batch.length ≤ Uuid.size) : IsRaised batch := by
  have hmem : ∀ e ∈ batch, ∃ o, RaisedAs o e := by
    clear hids hroom
    induction h with
    | nil => simp
    | cons hraised _ ih => exact List.forall_mem_cons.2 ⟨⟨_, hraised⟩, ih⟩
  refine ⟨?_, ?_, ?_⟩
  · rw [hids]
    refine List.nodup_range.map_on ?_
    intro i hi j hj hij
    have hi := Nat.lt_of_lt_of_le (List.mem_range.1 hi) hroom
    have hj := Nat.lt_of_lt_of_le (List.mem_range.1 hj) hroom
    exact Uuid.nth_injective hi hj hij
  · intro e he
    obtain ⟨o, hraised⟩ := hmem e he
    exact hraised.pending
  · intro e he
    obtain ⟨o, hraised⟩ := hmem e he
    exact hraised.retryCount

theorem Occurrence.map_eq (h : List.Forall₂ RaisedAs occurrences batch) :
    batch.map (fun e => (e.eventType, e.payload)) =
      occurrences.map fun o => (o.eventType, o.payload) := by
  induction h with
  | nil => rfl
  | cons hraised _ ih =>
    rw [List.map_cons, List.map_cons, ih, hraised.eventType, hraised.payload]

/-- What has happened can be told from the events on the bus. -/
theorem Occurrence.filterMap_ofBusEvent? (h : List.Forall₂ RaisedAs occurrences batch) :
    (batch.map .ofOutbox).filterMap ofBusEvent? = occurrences := by
  induction h with
  | nil => rfl
  | cons hraised _ ih =>
    rw [List.map_cons, List.filterMap_cons_some, ih]
    exact ofBusEvent?_eq hraised.eventType hraised.payload

/-- Each event is selected by one of the two topics, and not by the other. -/
theorem Occurrence.selects_topics (h : List.Forall₂ RaisedAs occurrences batch) :
    ∀ e ∈ batch.map BusEvent.ofOutbox, Topic.isMatch (Topic.subtree userTopic) e.eventType =
      !Topic.isMatch (Topic.subtree translationTopic) e.eventType := by
  induction h with
  | nil => simp
  | cons hraised _ ih =>
    refine List.forall_mem_cons.2 ⟨?_, ih⟩
    change Topic.isMatch _ (Event.eventType _) = !Topic.isMatch _ (Event.eventType _)
    rw [hraised.eventType]
    exact isMatch_topics _

end Notification

end Courier
