import Courier.Routine

/-!
# The worker

The worker takes events out of the outbox and publishes them. At each tick it fetches a batch of
pending events and deals with one after the other. A failure of one event stays with that event, and
an event that has failed too often is abandoned.

* `Worker.dispatch`: what is done with one event, and `Outcome` what came of it.
* `Worker.runOnce`: one tick, and `Report` the counts of its outcomes.
* `Worker.routine`: the worker in the background.

A failure to mark an event is reported only. The event is then published again, so that every event
is published at least once.
-/

namespace Courier.Outbox

/-- How often a worker looks for events, how many it takes and how often it tries. -/
structure Worker where
  /-- The milliseconds between two ticks. -/
  pollInterval : Nat
  batchSize : Nat
  maxRetries : UInt32
  deriving DecidableEq

/-- What came of dealing with an event. -/
inductive Outcome
  | published
  /-- Publishing failed, and will be tried again. -/
  | failedRetryable
  /-- Publishing failed once too often. -/
  | failedExhausted
  /-- The event had failed too often before. -/
  | skipped
  deriving DecidableEq

/-- The name of an outcome. -/
def Outcome.name : Outcome → String
  | published => "Published"
  | failedRetryable => "FailedRetryable"
  | failedExhausted => "FailedExhausted"
  | skipped => "Skipped"

/-- The counts of a tick. -/
structure Report where
  fetched : Nat
  published : Nat
  failed : Nat
  /-- How many of the failed events were abandoned. -/
  abandoned : Nat
  skipped : Nat
  deriving DecidableEq

namespace Report

/-- The report of a tick that has fetched so many events. -/
def start (fetched : Nat) : Report := ⟨fetched, 0, 0, 0, 0⟩

/-- Counts an outcome. -/
def record (r : Report) : Outcome → Report
  | .published => { r with published := r.published + 1 }
  | .failedRetryable => { r with failed := r.failed + 1 }
  | .failedExhausted => { r with failed := r.failed + 1, abandoned := r.abandoned + 1 }
  | .skipped => { r with skipped := r.skipped + 1 }

end Report

namespace Worker

instance : Inhabited Worker := ⟨⟨1000, 100, 5⟩⟩

/-- The greatest number of events that can be asked for. -/
def greatestLimit : Nat := 0x7FFF_FFFF_FFFF_FFFF

/-- How many events are asked for. -/
def limit (w : Worker) : Int := min w.batchSize greatestLimit

/-- Marks an event as abandoned, if that can be done. -/
def abandon (e : Event) : Action Unit :=
  bestEffort DeliveryError.text "mark outbox event abandoned" (ask (.outbox (.markAbandoned e.id)))

/-- Records that publishing an event has failed. -/
def recordFailure (w : Worker) (e : Event) (error : DeliveryError) : Action Outcome := do
  note (.publishFailed e error)
  match ← ask (.outbox (.markFailed e.id error.reason)) with
  | .error error =>
    note (.failureNotRecorded e error)
    return .failedRetryable
  | .ok retryCount =>
    if w.maxRetries ≤ retryCount then
      note (.retriesReached e retryCount)
      abandon e
      return .failedExhausted
    else return .failedRetryable

/-- Deals with one event. -/
def dispatch (w : Worker) (e : Event) : Action Outcome := do
  if e.isExhausted w.maxRetries then
    note (.retriesExceeded e w.maxRetries)
    abandon e
    return .skipped
  match ← ask (.publish e) with
  | .error error => w.recordFailure e error
  | .ok _ =>
    match ← ask (.outbox (.markPublished e.id)) with
    | .error error => note (.publicationNotRecorded e error)
    | .ok _ => pure ()
    return .published

/-- Deals with the events of a batch in order, and counts the outcomes. -/
def dispatchAll (w : Worker) : Report → List Event → Action Report
  | report, [] => return report
  | report, e :: es => do
    let outcome ← w.dispatch e
    w.dispatchAll (report.record outcome) es

/-- One tick: fetches a batch and deals with it. -/
def runOnce (w : Worker) : Action Report := do
  match ← ask (.outbox (.fetchUnpublished w.limit)) with
  | .error error =>
    note (.fetchFailed error)
    return .start 0
  | .ok events =>
    let report ← w.dispatchAll (.start events.length) events
    if 0 < report.fetched then
      note (.tickFinished report.fetched report.published report.failed report.abandoned
        report.skipped)
    return report

/-- The milliseconds between two ticks in the background, at least one. -/
def period (w : Worker) : Nat := max w.pollInterval 1

/-- The worker in the background: a tick whenever it is due, until it is cancelled. -/
def routine (w : Worker) : Routine where
  wait := .tick
  opening := note (.workerStarted w.period w.batchSize w.maxRetries)
  round _ := do
    let _ ← w.runOnce
    return true
  closing := note .workerStopped

end Worker

end Courier.Outbox
