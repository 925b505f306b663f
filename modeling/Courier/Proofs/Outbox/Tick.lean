import Courier.Outbox.Worker
import Courier.Proofs.Consumer.Block
import Courier.Proofs.Protocol

/-!
# What a worker does in a tick

A tick is a fetch, and then, for each event of the batch that has been fetched, one after the other,
an attempt to publish it and the record of what has come of that, or else the record that the event
is abandoned.

* `Worker.Deals`: all that a worker asks when it deals with an event.
* `Worker.IsTick`: all that it asks in a tick.
* `Worker.outcome`: what has come of an event, told from what the worker has asked about it.
* `Worker.runOnce_runs`: what a worker asks until it is done, and its report.
* `Worker.isTick_of_runs`, `Worker.exists_isTick`: what a worker asks is a tick when it is done, and
  the beginning of one before.
* `Worker.fetchesOf_of_runs`: in a tick there is one fetch, and it comes first.
-/

namespace Courier.Outbox

/-- All that a worker asks when it deals with an event, apart from reports to the log. -/
inductive Worker.Deals (w : Worker) (e : Event) : Calls → Prop
  /-- The event has failed too often before. -/
  | skipped {a : Except DeliveryError Unit} (h : w.maxRetries ≤ e.retryCount) :
      Deals w e [⟨.outbox (.markAbandoned e.id), a⟩]
  | published {a : Except DeliveryError Unit} (h : e.retryCount < w.maxRetries) :
      Deals w e [⟨.publish e, .ok ()⟩, ⟨.outbox (.markPublished e.id), a⟩]
  /-- The failure could not be recorded. -/
  | unrecorded {error error' : DeliveryError} (h : e.retryCount < w.maxRetries) :
      Deals w e
        [⟨.publish e, .error error⟩, ⟨.outbox (.markFailed e.id error.reason), .error error'⟩]
  | failed {error : DeliveryError} {count : UInt32} (h : e.retryCount < w.maxRetries)
      (hcount : count < w.maxRetries) :
      Deals w e [⟨.publish e, .error error⟩, ⟨.outbox (.markFailed e.id error.reason), .ok count⟩]
  /-- This was once too often. -/
  | exhausted {error : DeliveryError} {count : UInt32} {a : Except DeliveryError Unit}
      (h : e.retryCount < w.maxRetries) (hcount : w.maxRetries ≤ count) :
      Deals w e
        [⟨.publish e, .error error⟩, ⟨.outbox (.markFailed e.id error.reason), .ok count⟩,
          ⟨.outbox (.markAbandoned e.id), a⟩]

/-- All that a worker asks in a tick, apart from reports to the log: for a batch, and then whatever
    it takes to deal with each event of the batch, in their order. -/
inductive Worker.IsTick (w : Worker) : Calls → Prop
  | failed (error : DeliveryError) :
      IsTick w [⟨.outbox (.fetchUnpublished w.limit), .error error⟩]
  | fetched {batch : List Event} {runs : List Calls} (h : List.Forall₂ w.Deals batch runs) :
      IsTick w (⟨.outbox (.fetchUnpublished w.limit), .ok batch⟩ :: runs.flatten)

/-! ### Outcomes -/

/-- Whether the publisher accepts an event in a call. -/
def isAccepted : (Σ q : Request, q.Answer) → Bool
  | ⟨.publish _, .ok _⟩ => true
  | _ => false

/-- Whether the publisher rejects an event in a call. -/
def isRejected : (Σ q : Request, q.Answer) → Bool
  | ⟨.publish _, .error _⟩ => true
  | _ => false

namespace Worker

/-- Whether a failure is counted in a call that was once too often. -/
def isLast (w : Worker) : (Σ q : Request, q.Answer) → Bool
  | ⟨.outbox (.markFailed _ _), .ok count⟩ => w.maxRetries ≤ count
  | _ => false

/-- Whether an event has been rejected and its failure was once too often, told from all that the
    worker has asked to deal with it. -/
def isDefeat (w : Worker) (calls : Calls) : Bool := calls.any isRejected && calls.any w.isLast

/-- What has come of an event, told from all that the worker has asked to deal with it. -/
def outcome (w : Worker) (calls : Calls) : Outcome :=
  if calls.any isAccepted then .published
  else if w.isDefeat calls then .failedExhausted
  else if calls.any isRejected then .failedRetryable
  else .skipped

variable {w : Worker} {e : Event} {calls : Calls}

theorem abandon_runs (h : (abandon e).Runs calls (.done ())) :
    ∃ a, work calls = [⟨.outbox (.markAbandoned e.id), a⟩] := by
  obtain ⟨a, asked, hask, hwork⟩ := Program.Runs.of_bestEffort work_of_note_runs h
  rw [hask.of_request] at hwork
  exact ⟨a, hwork⟩

/-- A report to the log comes first. -/
theorem work_of_note_bind {α : Type} {notice : Notice} {next : Action α} {a : α}
    (h : (note notice >>= fun _ => next : Action α).Runs calls (.done a)) :
    ∃ rest, next.Runs rest (.done a) ∧ work calls = work rest := by
  obtain ⟨_, reports, rest, rfl, hreports, hrest⟩ := h.of_bind
  exact ⟨rest, hrest, by rw [work_append, work_of_note_runs hreports, List.nil_append]⟩

/-- What is asked after an event could not be published, and the outcome of that. -/
theorem recordFailure_runs {error : DeliveryError} {outcome : Outcome}
    (h : (w.recordFailure e error).Runs calls (.done outcome))
    (hcount : e.retryCount < w.maxRetries) :
    w.Deals e (⟨.publish e, .error error⟩ :: work calls) ∧
      outcome = w.outcome (⟨.publish e, .error error⟩ :: work calls) := by
  obtain ⟨calls, hrecord, hwork⟩ := work_of_note_bind h
  rw [hwork]
  obtain ⟨answer, calls, rfl, hrest⟩ := hrecord.of_request_bind
  change w.Deals e (_ :: ⟨.outbox (.markFailed e.id error.reason), answer⟩ :: work calls) ∧
    _ = w.outcome (_ :: ⟨.outbox (.markFailed e.id error.reason), answer⟩ :: work calls)
  cases answer with
  | error error' =>
    obtain ⟨calls, hdone, hwork⟩ := work_of_note_bind hrest
    obtain ⟨rfl, rfl⟩ := hdone.of_done
    rw [hwork]
    exact ⟨.unrecorded hcount, rfl⟩
  | ok count =>
    dsimp only at hrest
    split at hrest
    next hexhausted =>
      obtain ⟨calls, hrest, hwork⟩ := work_of_note_bind hrest
      obtain ⟨_, calls, rest, rfl, habandon, hdone⟩ := hrest.of_bind
      obtain ⟨rfl, rfl⟩ := hdone.of_done
      obtain ⟨a, ha⟩ := abandon_runs habandon
      rw [hwork, List.append_nil, ha]
      exact ⟨.exhausted hcount hexhausted, by
        simp [Worker.outcome, isDefeat, isAccepted, isRejected, isLast, hexhausted]⟩
    next hretryable =>
      obtain ⟨rfl, rfl⟩ := hrest.of_done
      exact ⟨.failed hcount (UInt32.not_le.1 hretryable), by
        simp [Worker.outcome, isDefeat, isAccepted, isRejected, isLast, work, hretryable]⟩

/-- What is asked after an event has been published, and the outcome of that. -/
theorem markPublished_runs {outcome : Outcome}
    (h : (do
      match ← ask (.outbox (.markPublished e.id)) with
      | .error error => note (.publicationNotRecorded e error)
      | .ok _ => pure ()
      return .published : Action Outcome).Runs calls (.done outcome)) :
    ∃ a, work calls = [⟨.outbox (.markPublished e.id), a⟩] ∧ outcome = .published := by
  obtain ⟨answer, calls, rfl, hrest⟩ := h.of_request_bind
  refine ⟨answer, ?_⟩
  change ⟨.outbox (.markPublished e.id), answer⟩ :: work calls = _ ∧ _
  cases answer with
  | error error =>
    obtain ⟨calls, hdone, hwork⟩ := work_of_note_bind hrest
    obtain ⟨rfl, rfl⟩ := hdone.of_done
    rw [hwork]
    exact ⟨rfl, rfl⟩
  | ok _ =>
    obtain ⟨rfl, rfl⟩ := hrest.of_done
    exact ⟨rfl, rfl⟩

/-- Whatever is answered, a worker deals with an event in one of these ways, which tells the
    outcome. -/
theorem dispatch_runs {outcome : Outcome} (h : (w.dispatch e).Runs calls (.done outcome)) :
    w.Deals e (work calls) ∧ outcome = w.outcome (work calls) := by
  rw [dispatch] at h
  split at h
  next hexhausted =>
    obtain ⟨calls, hrest, hwork⟩ := work_of_note_bind h
    obtain ⟨_, calls, rest, rfl, habandon, hdone⟩ := hrest.of_bind
    obtain ⟨rfl, rfl⟩ := hdone.of_done
    obtain ⟨a, ha⟩ := abandon_runs habandon
    rw [hwork, List.append_nil, ha]
    exact ⟨.skipped (by simpa [Event.isExhausted] using hexhausted), rfl⟩
  next hpending =>
    have hcount : e.retryCount < w.maxRetries := by simpa [Event.isExhausted] using hpending
    obtain ⟨answer, calls, rfl, hrest⟩ := h.of_request_bind
    cases answer with
    | error error => exact recordFailure_runs hrest hcount
    | ok _ =>
      obtain ⟨a, ha, rfl⟩ := markPublished_runs hrest
      change w.Deals e (_ :: work calls) ∧ _ = w.outcome (_ :: work calls)
      rw [ha]
      exact ⟨.published hcount, rfl⟩

/-- The events of a batch are dealt with one after the other, whatever comes of it, and every
    outcome is counted. -/
theorem dispatchAll_runs {report report' : Report} {batch : List Event}
    (h : (w.dispatchAll report batch).Runs calls (.done report')) :
    ∃ runs, List.Forall₂ w.Deals batch runs ∧ work calls = runs.flatten ∧
      report' = (runs.map w.outcome).foldl Report.record report := by
  induction batch generalizing report calls with
  | nil =>
    obtain ⟨rfl, rfl⟩ := h.of_done
    exact ⟨[], .nil, rfl, rfl⟩
  | cons e batch ih =>
    obtain ⟨outcome, calls, rest, rfl, hdispatch, hrest⟩ := h.of_bind
    obtain ⟨hdeals, rfl⟩ := dispatch_runs hdispatch
    obtain ⟨runs, hruns, hwork, hreport⟩ := ih hrest
    refine ⟨work calls :: runs, .cons hdeals hruns, ?_, hreport⟩
    rw [work_append, hwork, List.flatten_cons]

/-- Whatever is answered, this is what a worker asks until it is done, and what it reports. -/
theorem runOnce_runs {report : Report} (h : w.runOnce.Runs calls (.done report)) :
    (∃ error, work calls = [⟨.outbox (.fetchUnpublished w.limit), .error error⟩] ∧
      report = .start 0) ∨
    ∃ batch runs, work calls = ⟨.outbox (.fetchUnpublished w.limit), .ok batch⟩ :: runs.flatten ∧
      List.Forall₂ w.Deals batch runs ∧
      report = (runs.map w.outcome).foldl Report.record (.start batch.length) := by
  obtain ⟨answer, calls, rfl, hrest⟩ := h.of_request_bind
  change (∃ error, ⟨.outbox (.fetchUnpublished w.limit), answer⟩ :: work calls = _ ∧ _) ∨
    ∃ batch runs, ⟨.outbox (.fetchUnpublished w.limit), answer⟩ :: work calls = _ ∧ _
  cases answer with
  | error error =>
    obtain ⟨calls, hdone, hwork⟩ := work_of_note_bind hrest
    obtain ⟨rfl, rfl⟩ := hdone.of_done
    rw [hwork]
    exact .inl ⟨error, rfl, rfl⟩
  | ok batch =>
    obtain ⟨report', calls, rest, rfl, hdispatch, hreport⟩ := hrest.of_bind
    obtain ⟨runs, hruns, hwork, hrecorded⟩ := dispatchAll_runs hdispatch
    have hsilent : work rest = [] ∧ report' = report := by
      dsimp only at hreport
      split at hreport
      next =>
        obtain ⟨rest, hdone, hwork⟩ := work_of_note_bind hreport
        obtain ⟨rfl, rfl⟩ := hdone.of_done
        exact ⟨hwork, rfl⟩
      next =>
        obtain ⟨rfl, rfl⟩ := hreport.of_done
        exact ⟨rfl, rfl⟩
    rw [work_append, hsilent.1, List.append_nil, hwork]
    exact .inr ⟨batch, runs, rfl, hruns, hsilent.2 ▸ hrecorded⟩

/-- What a worker asks until it is done is a tick. -/
theorem isTick_of_runs {report : Report} (h : w.runOnce.Runs calls (.done report)) :
    w.IsTick (work calls) := by
  obtain ⟨error, hwork, -⟩ | ⟨batch, runs, hwork, hruns, -⟩ := runOnce_runs h
  · rw [hwork]
    exact .failed error
  · rw [hwork]
    exact .fetched hruns

/-- What a worker has asked so far in a tick is the beginning of one. -/
theorem exists_isTick {p : Action Report} (h : w.runOnce.Runs calls p) :
    ∃ more, w.IsTick (work calls ++ more) := by
  obtain ⟨more, _, hmore⟩ := p.exists_runs_done
  refine ⟨work more, ?_⟩
  rw [← work_append]
  exact isTick_of_runs (h.trans hmore)

end Worker

/-! ### Fetches -/

/-- Whether a request is for a batch. -/
def isFetch : Request → Bool
  | .outbox (.fetchUnpublished _) => true
  | _ => false

/-- How many fetches there are among calls. -/
def fetchesOf (calls : Calls) : Nat := calls.countP fun call => isFetch call.1

/-- How many fetches are pending when a program waits for an answer. -/
def pendingFetches {α : Type} (p : Action α) : Nat := if p.question?.any isFetch then 1 else 0

theorem fetchesOf_append (calls calls' : Calls) :
    fetchesOf (calls ++ calls') = fetchesOf calls + fetchesOf calls' := List.countP_append

namespace Worker

variable {w : Worker} {e : Event} {calls : Calls}

theorem Deals.fetchesOf_eq (h : w.Deals e calls) : fetchesOf calls = 0 := by
  cases h <;> rfl

/-- In a tick there is one fetch. -/
theorem IsTick.fetchesOf_eq (h : w.IsTick calls) : fetchesOf calls = 1 := by
  cases h with
  | failed error => rfl
  | fetched h =>
    suffices hruns : ∀ {batch runs}, List.Forall₂ w.Deals batch runs → fetchesOf runs.flatten = 0 by
      rw [fetchesOf, List.countP_cons_of_pos rfl]
      exact congrArg (· + 1) (hruns h)
    intro batch runs h
    induction h with
    | nil => rfl
    | cons hdeals _ ih => rw [List.flatten_cons, fetchesOf_append, hdeals.fetchesOf_eq, ih]

theorem fetchesOf_work (calls : Calls) : fetchesOf (work calls) = fetchesOf calls := by
  rw [fetchesOf, fetchesOf, work, List.countP_filter]
  refine List.countP_congr fun call _ => ?_
  obtain ⟨q, a⟩ := call
  cases q <;> simp [isFetch, Request.isNote]

/-- The fetch of a tick is pending, or it has been answered. -/
theorem fetchesOf_of_runs {p : Action Report} (h : w.runOnce.Runs calls p) :
    fetchesOf calls + pendingFetches p = 1 := by
  cases h with
  | refl => rfl
  | @ask _ _ calls p a h =>
    -- Whatever is asked after the fetch belongs to the same tick.
    obtain ⟨more, report, hmore⟩ := p.exists_runs_done
    have htick := (isTick_of_runs (.ask a (h.trans hmore))).fetchesOf_eq
    rw [fetchesOf_work, fetchesOf, List.countP_cons_of_pos rfl, ← fetchesOf, fetchesOf_append]
      at htick
    have hcalls : fetchesOf calls = 0 := by omega
    have hpending : pendingFetches p = 0 := by
      cases hmore with
      | refl => rfl
      | @ask q next more p' a hmore =>
        refine if_neg fun hfetch => ?_
        have hfirst : fetchesOf (⟨q, a⟩ :: more) = fetchesOf more + 1 :=
          List.countP_cons_of_pos hfetch
        omega
    rw [fetchesOf, List.countP_cons_of_pos rfl, ← fetchesOf, hcalls, hpending]

end Worker

end Courier.Outbox
