import Courier.Proofs.Outbox.Bench
import Courier.Proofs.Outbox.Tick

/-!
# The report of a tick

A worker reports how many events it has fetched, and counts what has come of each. Nothing is known
of the outbox or of the publisher: a batch may hold anything, and every call may fail. Still the
report tells exactly which calls have been made and how they were answered.

* `Report.counted_foldl`, `Report.abandoned_le_foldl`: every outcome counts once, and what is
  abandoned has failed.
* `Worker.Deals.record_outcome`: what the outcome of one event adds to a report.
* `Worker.report_eq`, `Worker.offered_flatten`: the report of a batch, and what of it is published.
* `Worker.runOnce_reports`: what the report of a tick tells.
-/

namespace Courier.Outbox

/-! ### Reports -/

namespace Report

/-- How many outcomes have been counted. -/
def counted (r : Report) : Nat := r.published + r.failed + r.skipped

variable (r : Report) (outcomes : List Outcome)

theorem counted_foldl : (outcomes.foldl record r).counted = r.counted + outcomes.length := by
  induction outcomes generalizing r with
  | nil => rfl
  | cons outcome outcomes ih =>
    have hrecord : (r.record outcome).counted = r.counted + 1 := by
      cases outcome <;> simp only [record, counted] <;> omega
    rw [List.foldl_cons, ih, hrecord, List.length_cons]
    omega

theorem abandoned_le_foldl (h : r.abandoned ≤ r.failed) :
    (outcomes.foldl record r).abandoned ≤ (outcomes.foldl record r).failed := by
  induction outcomes generalizing r with
  | nil => exact h
  | cons outcome outcomes ih =>
    refine ih _ ?_
    cases outcome <;> simp only [record] <;> omega

end Report

/-! ### Outcomes -/

namespace Worker

variable {w : Worker} {e : Event} {calls : Calls} {batch : List Event} {runs : List Calls}

/-- What the outcome of one event adds to a report. -/
theorem Deals.record_outcome (h : w.Deals e calls) (r : Report) :
    r.record (w.outcome calls) =
      ⟨r.fetched, r.published + calls.countP isAccepted, r.failed + calls.countP isRejected,
        r.abandoned + [calls].countP w.isDefeat,
        r.skipped + [e].countP fun e => w.maxRetries ≤ e.retryCount⟩ := by
  cases h with
  | skipped h => simp [outcome, isDefeat, isAccepted, isRejected, Report.record, h]
  | _ =>
    simp [outcome, isDefeat, isLast, isAccepted, isRejected, Report.record, List.countP_cons,
      ← UInt32.not_lt, *]

/-- What the outcomes of a batch add to a report. -/
theorem foldl_record_outcome (h : List.Forall₂ w.Deals batch runs) (r : Report) :
    (runs.map w.outcome).foldl Report.record r =
      ⟨r.fetched, r.published + runs.flatten.countP isAccepted,
        r.failed + runs.flatten.countP isRejected, r.abandoned + runs.countP w.isDefeat,
        r.skipped + batch.countP fun e => w.maxRetries ≤ e.retryCount⟩ := by
  induction h generalizing r with
  | nil => rfl
  | @cons e calls batch runs hdeals _ ih =>
    have hcons {α : Type} (p : α → Bool) (a : α) (l : List α) :
        (a :: l).countP p = [a].countP p + l.countP p := by
      rw [← List.countP_append, List.singleton_append]
    rw [List.map_cons, List.foldl_cons, ih, hdeals.record_outcome, List.flatten_cons,
      List.countP_append, List.countP_append, hcons _ calls runs, hcons _ e batch]
    simp only [Nat.add_assoc]

theorem report_eq (h : List.Forall₂ w.Deals batch runs) :
    (runs.map w.outcome).foldl Report.record (.start batch.length) =
      ⟨batch.length, runs.flatten.countP isAccepted, runs.flatten.countP isRejected,
        runs.countP w.isDefeat, batch.countP fun e => w.maxRetries ≤ e.retryCount⟩ := by
  simp [foldl_record_outcome h, Report.start]

theorem report_balanced (h : List.Forall₂ w.Deals batch runs) :
    let report := (runs.map w.outcome).foldl Report.record (.start batch.length)
    report.fetched = report.counted ∧ report.abandoned ≤ report.failed := by
  refine ⟨?_, Report.abandoned_le_foldl _ _ (Nat.le_refl 0)⟩
  rw [Report.counted_foldl, report_eq h, List.length_map, h.length_eq]
  exact (Nat.zero_add _).symm

theorem Deals.offered_eq (h : w.Deals e calls) :
    calls.filterMap Call.offered? = [e].filter fun e => e.retryCount < w.maxRetries := by
  cases h with
  | skipped h => simp [Call.offered?, UInt32.not_lt.2 h]
  | _ => simp [Call.offered?, *]

/-- Of a batch those are handed to the publisher, in their order, that have not failed too often. -/
theorem offered_flatten (h : List.Forall₂ w.Deals batch runs) :
    runs.flatten.filterMap Call.offered? = batch.filter fun e => e.retryCount < w.maxRetries := by
  induction h with
  | nil => rfl
  | @cons e calls batch runs hdeals _ ih =>
    rw [List.flatten_cons, List.filterMap_append, ih, hdeals.offered_eq, ← List.filter_append,
      List.singleton_append]

/-- Whatever the outbox and the publisher answer, a tick comes to a report. If the batch could not
    be fetched, nothing is counted and nothing published. Otherwise the worker deals with the events
    of the batch one after the other, and those that have not failed too often are handed to the
    publisher, in their order. Each event counts as published, failed or skipped: published and
    failed are the events that the publisher has accepted and rejected, abandoned those of the
    rejected ones whose failure was counted as once too often, and skipped are the others. -/
theorem runOnce_reports {σ : Type} (answer : (q : Request) → σ → q.Answer × σ) (w : Worker) (s : σ) :
    let report := (w.runOnce.run answer s).1
    let calls := work (w.runOnce.transcript answer s)
    report.fetched = report.published + report.failed + report.skipped ∧
    report.abandoned ≤ report.failed ∧
    ((∃ error, calls = [⟨.outbox (.fetchUnpublished w.limit), .error error⟩] ∧
        report = ⟨0, 0, 0, 0, 0⟩) ∨
      ∃ batch runs, calls = ⟨.outbox (.fetchUnpublished w.limit), .ok batch⟩ :: runs.flatten ∧
        List.Forall₂ w.Deals batch runs ∧
        calls.filterMap Call.offered? = batch.filter (fun e => e.retryCount < w.maxRetries) ∧
        report.fetched = batch.length ∧
        report.published = calls.countP isAccepted ∧
        report.failed = calls.countP isRejected ∧
        report.abandoned = runs.countP w.isDefeat ∧
        report.skipped = batch.countP fun e => w.maxRetries ≤ e.retryCount) := by
  have hruns := Program.runs_transcript answer w.runOnce s
  generalize (w.runOnce.run answer s).1 = report at hruns ⊢
  generalize w.runOnce.transcript answer s = calls at hruns ⊢
  dsimp only
  obtain ⟨error, hcalls, rfl⟩ | ⟨batch, runs, hcalls, hdeals, rfl⟩ := runOnce_runs hruns
  · exact ⟨rfl, Nat.le_refl 0, .inl ⟨error, hcalls, rfl⟩⟩
  · obtain ⟨hcounted, habandoned⟩ := report_balanced hdeals
    refine ⟨hcounted, habandoned, .inr ⟨batch, runs, hcalls, hdeals, ?_⟩⟩
    -- The fetch itself is no publication.
    have hcount {p : (Σ q : Request, q.Answer) → Bool}
        (hp : p ⟨.outbox (.fetchUnpublished w.limit), .ok batch⟩ = false) :
        (work calls).countP p = runs.flatten.countP p := by
      rw [hcalls, List.countP_cons_of_neg (by simp [hp])]
    rw [report_eq hdeals, hcount rfl, hcount rfl, hcalls]
    exact ⟨offered_flatten hdeals, rfl, rfl, rfl, rfl, rfl⟩

end Worker

end Courier.Outbox
