/-!
# Supervision

Background tasks are started under one supervisor, and each is held by a handle. A task is cancelled
with all others, by shutting it down through its handle, or by dropping the handle. Once somebody
has begun to wait for the end of a task, its handle is given up without the task's being cancelled.

* `Supervisor.isCancelled`: whether a task is cancelled.
* `Supervisor.start`, `cancel`, `shutDown`, `drop`, `beginJoin`: what is done with tasks.
-/

namespace Courier

/-- How a task stands with its supervisor. -/
structure Supervised where
  /-- Whether the task itself has been cancelled. -/
  cancelled : Bool
  /-- Whether somebody has begun to wait for its end. -/
  joined : Bool
  deriving DecidableEq

/-- Tasks in the order in which they were started. -/
structure Supervisor where
  /-- Whether all tasks are cancelled, those to come included. -/
  cancelled : Bool
  tasks : List Supervised
  deriving DecidableEq

namespace Supervisor

/-- A supervisor without tasks. -/
def empty : Supervisor := ⟨false, []⟩

instance : Inhabited Supervisor := ⟨empty⟩

/-- Changes how the task with the given number stands. -/
def change (s : Supervisor) (task : Nat) (f : Supervised → Supervised) : Supervisor :=
  { s with tasks := s.tasks.modify task f }

/-- Starts a task. -/
def start (s : Supervisor) : Supervisor := { s with tasks := s.tasks ++ [⟨false, false⟩] }

/-- Cancels all tasks. -/
def cancel (s : Supervisor) : Supervisor := { s with cancelled := true }

/-- Cancels a task through its handle. -/
def shutDown (s : Supervisor) (task : Nat) : Supervisor :=
  s.change task fun t => { t with cancelled := true }

/-- Drops the handle of a task, which cancels it unless somebody has begun to wait for its end. -/
def drop (s : Supervisor) (task : Nat) : Supervisor :=
  s.change task fun t => if t.joined then t else { t with cancelled := true }

/-- Begins to wait for the end of a task. -/
def beginJoin (s : Supervisor) (task : Nat) : Supervisor :=
  s.change task fun t => { t with joined := true }

/-- Whether a task is cancelled. -/
def isCancelled (s : Supervisor) (task : Nat) : Bool :=
  s.cancelled || (s.tasks[task]?.map (·.cancelled)).getD false

end Supervisor

end Courier
