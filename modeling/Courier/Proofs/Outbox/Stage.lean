import Courier.Outbox.Worker
import Courier.Proofs.Protocol

/-!
# The stages of a tick

While a worker deals with its batch, all that matters of it is what it has in hand: the events that
it has fetched and not dealt with, as they were when it fetched them, and what came of the first one
so far. That is a `Stage`, and `Stage.protocol` says what a worker may ask in each.

* `runOnce_follows`: a tick follows the protocol, from fetching to an empty batch.
-/

namespace Courier.Outbox

/-- What a worker has in hand in a tick. -/
inductive Stage
  /-- It is to fetch a batch of at most so many events. -/
  | ready (limit : Int)
  /-- It is to deal with the events of a batch. -/
  | dealing (batch : List Event)
  /-- The first of its events has been accepted by the publisher. -/
  | accepted (e : Event) (batch : List Event)
  /-- The first of its events has been rejected by the publisher. -/
  | rejected (e : Event) (error : DeliveryError) (batch : List Event)
  /-- The first of its events has been found to have failed too often. -/
  | exhausted (e : Event) (batch : List Event)

namespace Stage

/-- The events that a worker has in hand. -/
def held : Stage → List Event
  | ready _ => []
  | dealing batch => batch
  | accepted e batch | rejected e _ batch | exhausted e batch => e :: batch

/-- What a worker that tries so often may ask. -/
def Allows (m : UInt32) : Stage → Request → Prop
  | _, .note _ => True
  | ready limit, .outbox (.fetchUnpublished limit') => limit' = limit
  | dealing (e :: _), .publish e' => e' = e ∧ e.retryCount < m
  | dealing (e :: _), .outbox (.markAbandoned id) => id = e.id ∧ m ≤ e.retryCount
  | accepted e _, .outbox (.markPublished id) => id = e.id
  | rejected e error _, .outbox (.markFailed id reason) => id = e.id ∧ reason = error.reason
  | exhausted e _, .outbox (.markAbandoned id) => id = e.id
  | _, _ => False

/-- What it has in hand after an answer. -/
def after (m : UInt32) : Stage → (q : Request) → q.Answer → Stage
  | ready _, .outbox (.fetchUnpublished _), .ok batch => dealing batch
  | ready _, .outbox (.fetchUnpublished _), .error _ => dealing []
  | dealing (e :: batch), .publish _, .ok _ => accepted e batch
  | dealing (e :: batch), .publish _, .error error => rejected e error batch
  | dealing (_ :: batch), .outbox (.markAbandoned _), _ => dealing batch
  | accepted _ batch, .outbox (.markPublished _), _ => dealing batch
  | rejected e _ batch, .outbox (.markFailed _ _), .ok count =>
    if m ≤ count then exhausted e batch else dealing batch
  | rejected _ _ batch, .outbox (.markFailed _ _), .error _ => dealing batch
  | exhausted _ batch, .outbox (.markAbandoned _), _ => dealing batch
  | k, _, _ => k

/-- A report to the log leaves everything in hand. -/
theorem after_note (m : UInt32) (k : Stage) (notice : Notice) (r : Unit) :
    k.after m (.note notice) r = k := by
  cases k with
  | dealing batch => cases batch <;> rfl
  | _ => rfl

theorem Allows.of_publish {m : UInt32} {k : Stage} {e : Event} (h : k.Allows m (.publish e)) :
    ∃ batch, k = dealing (e :: batch) ∧ e.retryCount < m := by
  unfold Allows at h
  split at h
  next hq => cases hq
  next hq => cases hq
  next e' batch e'' hq =>
    cases hq
    obtain ⟨rfl, h⟩ := h
    exact ⟨batch, rfl, h⟩
  next hq => cases hq
  next hq => cases hq
  next hq => cases hq
  next hq => cases hq
  next => exact h.elim

/-- The protocol of a worker that tries so often. -/
def protocol (m : UInt32) : Protocol Request Request.Answer Stage where
  Allows := Allows m
  Leads k q r k' := k' = k.after m q r

end Stage

open Program

variable {m : UInt32} {e : Event} {batch : List Event}

/-- A question that is allowed, and after every answer to it the rest follows the protocol. -/
theorem follows_ask {α : Type} {wanted : Stage → α → Prop} {k : Stage} {q : Request}
    {next : q.Answer → Action α} (hq : k.Allows m q)
    (hr : ∀ r, Follows (Stage.protocol m) wanted (k.after m q r) (next r)) :
    Follows (Stage.protocol m) wanted k (ask q >>= next) := by
  refine ⟨hq, ?_⟩
  rintro r _ rfl
  exact hr r

theorem follows_note {wanted : Stage → Unit → Prop} {k : Stage} {notice : Notice}
    (h : wanted k ()) : Follows (Stage.protocol m) wanted k (note notice) := by
  refine ⟨trivial, ?_⟩
  rintro r _ rfl
  rw [Stage.after_note]
  exact h

namespace Worker

variable {w : Worker}

theorem abandon_follows {k : Stage} (hq : k.Allows m (.outbox (.markAbandoned e.id)))
    (hk : ∀ r, k.after m (.outbox (.markAbandoned e.id)) r = .dealing batch) :
    Follows (Stage.protocol m) (fun k _ => k = .dealing batch) k (abandon e) := by
  refine follows_ask hq ?_
  intro r
  rw [hk]
  cases r with
  | ok _ => rfl
  | error error => exact follows_note rfl

theorem recordFailure_follows (w : Worker) (e : Event) (batch : List Event)
    (error : DeliveryError) :
    Follows (Stage.protocol w.maxRetries) (fun k _ => k = .dealing batch)
      (.rejected e error batch) (w.recordFailure e error) := by
  refine .bind (follows_note ?_)
  refine follows_ask ⟨rfl, rfl⟩ ?_
  intro r
  cases r with
  | error error => exact .bind (follows_note rfl)
  | ok count =>
    simp only [Stage.after]
    split
    · refine .bind (follows_note (.bind ?_))
      exact abandon_follows rfl fun _ => rfl
    · rfl

theorem dispatch_follows (w : Worker) (e : Event) (batch : List Event) :
    Follows (Stage.protocol w.maxRetries) (fun k _ => k = .dealing batch)
      (.dealing (e :: batch)) (w.dispatch e) := by
  rw [dispatch]
  split
  next h =>
    have h : w.maxRetries ≤ e.retryCount := by simpa [Event.isExhausted] using h
    refine .bind (follows_note (.bind ?_))
    exact abandon_follows ⟨rfl, h⟩ fun _ => rfl
  next h =>
    have h : e.retryCount < w.maxRetries := by simpa [Event.isExhausted] using h
    refine follows_ask ⟨rfl, h⟩ ?_
    intro r
    cases r with
    | error error => exact recordFailure_follows w e batch error
    | ok _ =>
      refine follows_ask rfl ?_
      intro r
      cases r with
      | error error => exact .bind (follows_note rfl)
      | ok _ => rfl

theorem dispatchAll_follows (w : Worker) (report : Report) (batch : List Event) :
    Follows (Stage.protocol w.maxRetries) (fun k _ => k = .dealing [])
      (.dealing batch) (w.dispatchAll report batch) := by
  induction batch generalizing report with
  | nil => rfl
  | cons e batch ih =>
    refine .bind ((dispatch_follows w e batch).mono ?_)
    rintro _ outcome rfl
    exact ih (report.record outcome)

/-- A tick follows the protocol: it fetches a batch, and then deals with all of it. -/
theorem runOnce_follows (w : Worker) :
    Follows (Stage.protocol w.maxRetries) (fun k _ => k = .dealing [])
      (.ready w.limit) w.runOnce := by
  refine follows_ask rfl ?_
  intro r
  cases r with
  | error error => exact .bind (follows_note rfl)
  | ok batch =>
    refine .bind ((dispatchAll_follows w _ batch).mono ?_)
    rintro _ report rfl
    dsimp only
    split
    · exact .bind (follows_note rfl)
    · rfl

end Worker

end Courier.Outbox
