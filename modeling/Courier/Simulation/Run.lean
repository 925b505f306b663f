import Courier.Notification.Notifier
import Courier.Simulation.Task
import Courier.Supervision

/-!
# Simulations

A simulation is a system in simulated surroundings: one action after the other is performed in the
foreground, and tasks run in the background. One thing happens at a time. Time passes only while the
foreground waits, and then from one alarm to the next. The foreground goes first when its alarm goes
off, and tasks follow in the order in which they were woken.

* `Simulation.perform`: performs an action, while time passes for its delays.
* `Simulation.settle`: gives the tasks their turns until each of them waits.
* `Simulation.spawn`, `cancel`, `shutDown`, `drop`, `join`: what is done with tasks.
-/

namespace Courier

open Simulation in
/-- A system in simulated surroundings. -/
structure Simulation where
  surroundings : Surroundings
  /-- The tasks, in the order in which they were started. -/
  tasks : List Task
  supervisor : Supervisor
  /-- The tasks that are held, by the names of their handles. -/
  handles : Table String Nat
  /-- The tasks whose turn is to come. -/
  queue : List Nat
  /-- The alarms of tasks, each with its time and the number of the task, in the order of
      setting. -/
  alarms : List (Nat × Nat)
  /-- The next free rank in the queue of the bus. -/
  rank : Nat
  /-- The subscriptions of the foreground. -/
  subscriptions : List Subscription
  /-- The events raised in the foreground. -/
  raised : RaisedEvents

namespace Simulation

/-- A simulation in which nothing has happened. -/
def new (surroundings : Surroundings) : Simulation :=
  ⟨surroundings, [], .empty, .empty, [], [], 0, [], .empty⟩

/-! ### Turns -/

/-- Puts a task at the end of those whose turn is to come, unless it stands there already. -/
def enqueue (sim : Simulation) (task : Nat) : Simulation :=
  if task ∈ sim.queue then sim else { sim with queue := sim.queue ++ [task] }

/-- Changes the task with the given number. -/
def change (sim : Simulation) (task : Nat) (f : Task → Task) : Simulation :=
  { sim with tasks := sim.tasks.modify task f }

/-- Wakes a task that waits at a place in the queue of the bus. -/
def wakeAt (sim : Simulation) (task place : Nat) : Simulation :=
  (sim.change task fun t => { t with source := Source.wake place t.routine.wait t.source }).enqueue
    task

/-- The places in the queue of the bus: each with its rank, its task and its number there. -/
def places (sim : Simulation) : List (Nat × Nat × Nat) :=
  (sim.tasks.mapIdx fun i t =>
    if t.isOver then []
    else (Source.parked t.routine.wait t.source).map fun p => (p.2, i, p.1)).flatten

/-- Wakes the tasks that wait for the bus, if something has been published: those first that have
    waited longest. When the bus has been closed, those first that were started first. -/
def wakeReaders (before : MemoryBus) (sim : Simulation) : Simulation :=
  let bus := sim.surroundings.bus
  if before.isClosed != bus.isClosed then
    sim.places.foldl (fun sim p => sim.wakeAt p.2.1 p.2.2) sim
  else if before.log.length < bus.log.length then
    (sim.places.mergeSort fun a b => a.1 ≤ b.1).foldl (fun sim p => sim.wakeAt p.2.1 p.2.2) sim
  else sim

/-- Gives a task its turn. -/
def giveTurn (sim : Simulation) (task : Nat) : Simulation :=
  match sim.tasks[task]? with
  | none => sim
  | some t =>
    let before := sim.surroundings.bus
    let (t, rank, surroundings) :=
      t.turn (sim.supervisor.isCancelled task) sim.rank sim.surroundings
    let alarms := sim.alarms.filter fun a => a.2 ≠ task
    let sim := { sim with
      surroundings := surroundings
      tasks := sim.tasks.set task t
      rank := rank
      alarms := match t.alarm with
        | none => alarms
        | some time => alarms ++ [(time, task)] }
    let sim := sim.wakeReaders before
    if t.yields then sim.enqueue task else sim

/-- Gives turns until no task's turn is to come, but at most so many. -/
def giveTurns : Nat → Simulation → Simulation
  | 0, sim => sim
  | turns + 1, sim =>
    match sim.queue with
    | [] => sim
    | task :: rest => giveTurns turns ({ sim with queue := rest }.giveTurn task)

/-- How many turns there can be before each task waits. A worker has at most two, one when it is
    woken and one when it is cancelled. A consumer has two for each turn in which something can be
    published, and two more. -/
def turnsAhead (sim : Simulation) : Nat := 4 * (sim.tasks.length + 2) * (sim.tasks.length + 2)

/-- Gives the tasks their turns until each of them waits. -/
def settle (sim : Simulation) : Simulation := sim.giveTurns sim.turnsAhead

/-! ### Time -/

/-- The earliest alarm at or before a time. -/
def nextAlarm (sim : Simulation) (limit : Nat) : Option Nat :=
  ((sim.alarms.map (·.1)).filter (· ≤ limit)).min?

/-- Moves time on to a point, and wakes the tasks whose alarms go off then. -/
def moveTo (sim : Simulation) (time : Nat) : Simulation :=
  let due := (sim.alarms.filter fun a => a.1 ≤ time).mergeSort fun a b => a.1 ≤ b.1
  due.foldl (fun sim a => sim.enqueue a.2) { sim with
    surroundings := { sim.surroundings with now := time }
    alarms := sim.alarms.filter fun a => time < a.1 }

/-- Lets time pass up to a point, from one alarm to the next, of which there are at most so many.
    The foreground may stop it when tasks have had their turns. -/
def passTo (isDone : Simulation → Bool) (time : Nat) : Nat → Simulation → Simulation
  | 0, sim => sim
  | alarms + 1, sim =>
    let sim := sim.settle
    if isDone sim then sim
    else
      match sim.nextAlarm time with
      | none => sim.moveTo time
      | some alarm =>
        if alarm < time then passTo isDone time alarms (sim.moveTo alarm) else sim.moveTo time

/-- Lets so many milliseconds pass, unless the foreground stops it before. -/
def pass (sim : Simulation) (delay : Nat) (isDone : Simulation → Bool) : Simulation :=
  passTo isDone (sim.surroundings.now + delay) (delay + 1) sim

/-- Lets so many milliseconds pass. -/
def advance (sim : Simulation) (delay : Nat) : Simulation := sim.pass delay fun _ => false

/-! ### The foreground -/

/-- Performs an action in the foreground, while time passes for its delays. There is no result if
    the action is torn down. -/
def perform {α : Type} : Action α → Simulation → Option α × Simulation
  | .done a, sim => (some a, sim)
  | .ask q next, sim =>
    let before := sim.surroundings.bus
    let (pending, surroundings) := sim.surroundings.begin q
    let sim := { sim with surroundings := surroundings }.wakeReaders before
    let sim := if pending.delay = 0 then sim else sim.advance pending.delay
    match pending.finish sim.surroundings with
    | (none, surroundings) => (none, { sim with surroundings := surroundings })
    | (some a, surroundings) => perform (next a) { sim with surroundings := surroundings }

/-- Changes the bus. -/
def changeBus (sim : Simulation) (f : MemoryBus → MemoryBus) : Simulation :=
  let before := sim.surroundings.bus
  { sim with surroundings := { sim.surroundings with bus := f before } }.wakeReaders before

/-! ### Tasks -/

/-- Whether a task has ended. -/
def isOver (sim : Simulation) (task : Nat) : Bool := (sim.tasks[task]?.map Task.isOver).getD true

/-- Wakes a task that waits for its source. -/
def wake (sim : Simulation) (task : Nat) : Simulation :=
  if (sim.tasks[task]?.map Task.isWaiting).getD false then sim.enqueue task else sim

/-- Wakes a task that has just been cancelled. -/
def wakeCancelled (before : Supervisor) (sim : Simulation) (task : Nat) : Simulation :=
  if before.isCancelled task then sim
  else if sim.supervisor.isCancelled task then sim.wake task
  else sim

/-- Cancels all tasks. Those started last are woken first. -/
def cancel (sim : Simulation) : Simulation :=
  (List.range sim.tasks.length).reverse.foldl (wakeCancelled sim.supervisor)
    { sim with supervisor := sim.supervisor.cancel }

/-- Cancels a task through its handle. -/
def shutDown (sim : Simulation) (task : Nat) : Simulation :=
  wakeCancelled sim.supervisor { sim with supervisor := sim.supervisor.shutDown task } task

/-- Drops the handle of a task. -/
def drop (sim : Simulation) (task : Nat) : Simulation :=
  wakeCancelled sim.supervisor { sim with supervisor := sim.supervisor.drop task } task

/-- The task that is held under a name. -/
def held? (sim : Simulation) (name : String) : Option Nat := sim.handles.get? name

/-- Gives up the name of a task. -/
def release (sim : Simulation) (name : String) : Simulation :=
  { sim with handles := sim.handles.erase name }

/-- Starts a task and holds it under a name. A task that was held under the name is dropped. -/
def spawn (sim : Simulation) (name : String) (task : Task) : Simulation :=
  let number := sim.tasks.length
  let old := sim.held? name
  let sim := { sim with
    tasks := sim.tasks ++ [task]
    supervisor := sim.supervisor.start
    handles := sim.handles.insert name number
    queue := sim.queue ++ [number] }
  match old with
  | none => sim
  | some old => sim.drop old

/-- How long it is waited for the end of a task. -/
def joinLimit : Nat := 10000

/-- Waits for the end of a task, and says whether it has come. -/
def join (sim : Simulation) (task : Nat) : Bool × Simulation :=
  let sim := { sim with supervisor := sim.supervisor.beginJoin task }
  let sim := if sim.isOver task then sim else sim.pass joinLimit fun sim => sim.isOver task
  let isOver := sim.isOver task
  let isTornDown := (sim.tasks[task]?.map Task.isTornDown).getD false
  (isOver, if isOver && isTornDown then
      { sim with surroundings := sim.surroundings.report .taskFailed }
    else sim)

/-! ### The bus -/

/-- Subscribes to a list of topics. If one is refused, the others are given up. -/
def subscribeAll (bus : MemoryBus) : List String →
    Except DeliveryError (List Subscription × MemoryBus)
  | [] => .ok ([], bus)
  | topic :: topics => do
    let (subscription, bus) ← bus.subscribe topic
    let (subscriptions, bus) ← subscribeAll bus topics
    return (subscription :: subscriptions, bus)

/-- Starts a consumer, which is held under a name. -/
def spawnConsumer (sim : Simulation) (name : String) (c : Consumer) :
    Except DeliveryError Simulation := do
  let (subscriptions, bus) ← subscribeAll sim.surroundings.bus c.topics
  return { sim with surroundings := { sim.surroundings with bus := bus } }.spawn name
    (.ofConsumer c subscriptions)

/-- Starts the consumer of the notification service, which is held under a name. -/
def spawnDispatcher (sim : Simulation) (name : String) (service : Notification.Service)
    (topics : List String) : Except ServiceError Simulation :=
  (sim.spawnConsumer name (Notification.Notifier.dispatcher service topics)).mapError .delivery

/-- Subscribes to a topic in the foreground, and gives the number of the subscription. -/
def subscribe (sim : Simulation) (topic : String) : Except DeliveryError (Nat × Simulation) := do
  let (subscription, bus) ← sim.surroundings.bus.subscribe topic
  return (sim.subscriptions.length, { sim with
    surroundings := { sim.surroundings with bus := bus }
    subscriptions := sim.subscriptions ++ [subscription] })

/-- What a subscription of the foreground yields, without waiting for anything. -/
def receive (sim : Simulation) (number : Nat) : MemoryBus.Yield × Simulation :=
  match sim.subscriptions[number]? with
  | none => (.ended, sim)
  | some subscription =>
    let (lost, yield, subscription) := sim.surroundings.bus.next subscription
    (yield, { sim with
      surroundings := lost.foldl (fun s skipped => s.report (.lagged skipped)) sim.surroundings
      subscriptions := sim.subscriptions.set number subscription })

end Simulation

end Courier
