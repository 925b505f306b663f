import Courier.Proofs.Outbox.Fresh
import Courier.Proofs.Outbox.History
import Courier.Proofs.Outbox.Order

/-!
# One tick

A worker that has the outbox to itself deals with the events of its batch one by one, and what it
does with one of them is no matter to the others: all rows of the outbox are changed at once.

* `Respondent`: who answers the worker apart from the outbox, whatever that may be.
* `Bench.tick`: an outbox, and the calls of its worker, after one tick.
* `Worker.settle`: what becomes of an event of the batch.
* `Respondent.Does`: what a part of a tick does, put together by `Does.bind`.
* `Bench.tick_spec`: what a tick does.
* `Bench.tick_settles`: the case of a publisher that always answers in the same way.
-/

namespace Courier.Outbox

/-- Whoever answers a worker that has the outbox to itself, apart from the outbox: a clock, and
    somebody for all other questions, the publisher among them. Their answers may depend on all
    calls that have been made before. -/
structure Respondent where
  clock : List Call → Instant
  reply : List Call → (q : Request) → q.Answer

/-- An outbox, and all calls that its worker has made. -/
structure Bench where
  store : Store
  calls : List Call

/-- The event that a call hands to the publisher. -/
def Call.offered? : Call → Option Event
  | ⟨.publish e, _⟩ => some e
  | _ => none

namespace Bench

/-- The events that have been handed to the publisher. -/
def offered (b : Bench) : List Event := b.calls.filterMap Call.offered?

/-- One more call has been made, which has left the outbox like this. -/
def after (b : Bench) (call : Call) (s : Store) : Bench := ⟨s, b.calls ++ [call]⟩

@[simp]
theorem store_after (b : Bench) (call : Call) (s : Store) : (b.after call s).store = s := rfl

@[simp]
theorem offered_after (b : Bench) (call : Call) (s : Store) :
    (b.after call s).offered = b.offered ++ call.offered?.toList := by
  rw [offered, after, List.filterMap_append]
  cases h : call.offered? <;> simp [h, offered]

end Bench

/-- The answer to a question. The outbox does what it is asked. -/
def Respondent.answer (r : Respondent) : (q : Request) → Bench → q.Answer × Bench
  | .outbox op, b =>
    let (a, store) := b.store.perform (r.clock b.calls) op
    (a, b.after ⟨.outbox op, a⟩ store)
  | q, b => (r.reply b.calls q, b.after ⟨q, r.reply b.calls q⟩ b.store)

/-- A tick of the worker. -/
def Bench.tick (r : Respondent) (w : Worker) (b : Bench) : Bench := (w.runOnce.run r.answer b).2

/-- What becomes of a pending event that the worker deals with, if the publisher answers like this
    when it is asked, and the clock then shows this time. -/
def Worker.settle (w : Worker) (answer : Except DeliveryError Unit) (now : Instant) (e : Event) :
    Event :=
  if w.maxRetries ≤ e.retryCount then { e with status := .abandoned }
  else
    match answer with
    | .ok _ => { e with status := .published, publishedAt := e.publishedAt.or (some now) }
    | .error error =>
      { e with
        retryCount := e.retryCount + 1
        lastError := some error.reason
        status := if w.maxRetries ≤ e.retryCount + 1 then .abandoned else .pending }

/-- Whether the worker hands an event to the publisher. -/
def Worker.tries (w : Worker) (e : Event) : Bool := e.retryCount < w.maxRetries

variable {r : Respondent} {w : Worker} {b : Bench} {e row : Event} {batch : List Event}

@[simp]
theorem Worker.id_settle (w : Worker) (answer : Except DeliveryError Unit) (now : Instant)
    (e : Event) : (w.settle answer now e).id = e.id := by
  unfold settle
  split
  · rfl
  · cases answer <;> rfl

theorem Worker.toNat_limit (w : Worker) : w.limit.toNat = min w.batchSize greatestLimit := by
  rw [limit]
  omega

/-- An event that is still pending when the worker has dealt with it has failed once more, and may
    be tried again. -/
theorem Worker.of_pending_settle {answer : Except DeliveryError Unit} {now : Instant}
    (h : (w.settle answer now e).status = .pending) :
    (∃ error, answer = .error error) ∧ e.retryCount.toNat + 1 < w.maxRetries.toNat ∧
      (w.settle answer now e).retryCount.toNat = e.retryCount.toNat + 1 := by
  by_cases hm : w.maxRetries ≤ e.retryCount
  · unfold settle at h
    rw [if_pos hm] at h
    cases h
  · unfold settle at h ⊢
    rw [if_neg hm] at h ⊢
    cases answer with
    | ok _ => cases h
    | error error =>
      dsimp only at h
      split at h
      · cases h
      next hm' =>
        rw [UInt32.not_le, UInt32.lt_iff_toNat_lt] at hm hm'
        have hcount : (e.retryCount + 1).toNat = e.retryCount.toNat + 1 := by
          have hmax := w.maxRetries.toNat_lt
          rw [UInt32.toNat_add, UInt32.toNat_one]
          omega
        exact ⟨⟨error, rfl⟩, hcount ▸ hm', hcount⟩

theorem Worker.settle_ne (w : Worker) (answer : Except DeliveryError Unit) (now : Instant)
    (hp : e.status = .pending) : w.settle answer now e ≠ e := by
  intro h
  have hcount := (of_pending_settle ((congrArg Event.status h).trans hp)).2.2
  rw [h] at hcount
  omega

theorem Store.edit_edit (s : Store) (id : Uuid) {f : Event → Event} (hf : ∀ e, (f e).id = e.id)
    (g : Event → Event) : (s.edit id f).edit id g = s.edit id (g ∘ f) := by
  obtain ⟨events⟩ := s
  refine congrArg Store.mk ?_
  induction events with
  | nil => rfl
  | cons e events ih => grind [updateFirst, edit]

theorem Store.edit_congr {s : Store} {id : Uuid} {f g : Event → Event} (h : s.get? id = some e)
    (hfg : f e = g e) : s.edit id f = s.edit id g := by
  obtain ⟨events⟩ := s
  refine congrArg Store.mk ?_
  simp only [get?] at h
  induction events with
  | nil => rfl
  | cons a events ih => grind [updateFirst]

theorem Event.nextCount_of_lt {n m : UInt32} (h : n < m) : Event.nextCount n = n + 1 := by
  refine if_neg ?_
  rintro rfl
  have hmax : m.toNat ≤ 0xFFFFFFFF := Nat.le_of_lt_succ m.toNat_lt
  exact absurd (UInt32.lt_iff_toNat_lt.1 h) (Nat.not_lt.2 hmax)

/-- What a part of a tick does: it has this result, leaves the outbox like this, and hands these
    events to the publisher. -/
structure Respondent.Does {α : Type} (r : Respondent) (p : Action α) (b : Bench) (a : α) (s : Store)
    (es : List Event) : Prop where
  result : (p.run r.answer b).1 = a
  store : (p.run r.answer b).2.store = s
  offered : (p.run r.answer b).2.offered = b.offered ++ es

section Does

variable {α β : Type} {p : Action α} {f : α → Action β} {a : α} {a' : β} {s s' : Store}
  {es es' : List Event}

theorem done_does (r : Respondent) (hs : b.store = s) (a : α) : r.Does (.done a) b a s [] :=
  ⟨rfl, hs, (List.append_nil _).symm⟩

theorem note_does (r : Respondent) (hs : b.store = s) (notice : Notice) :
    r.Does (note notice) b () s [] :=
  ⟨rfl, hs, Bench.offered_after b ⟨.note notice, ()⟩ b.store⟩

theorem publish_does (r : Respondent) (hs : b.store = s) (e : Event) :
    r.Does (ask (.publish e)) b (r.reply b.calls (.publish e)) s [e] :=
  ⟨rfl, hs, Bench.offered_after b ⟨.publish e, r.reply b.calls (.publish e)⟩ b.store⟩

theorem outbox_does (r : Respondent) (hs : b.store = s) {op : Op}
    {a : Except DeliveryError op.Answer} (h : s.perform (r.clock b.calls) op = (a, s')) :
    r.Does (ask (.outbox op)) b a s' [] := by
  have hrun : (ask (.outbox op)).run r.answer b = (a, b.after ⟨.outbox op, a⟩ s') := by
    simp only [ask, Program.request, Program.run, Respondent.answer, hs, h]
  exact ⟨by rw [hrun], by rw [hrun]; rfl, by rw [hrun]; exact Bench.offered_after b _ s'⟩

/-- One part of a tick goes on where another one has stopped. -/
theorem Respondent.Does.bind (h : r.Does p b a s es)
    (h' : r.Does (f a) (p.run r.answer b).2 a' s' es') : r.Does (p >>= f) b a' s' (es ++ es') := by
  have hrun := Program.run_bind r.answer p f b
  rw [h.result] at hrun
  exact ⟨by rw [hrun, h'.result], by rw [hrun, h'.store],
    by rw [hrun, h'.offered, h.offered, List.append_assoc]⟩

end Does

variable {s : Store}

/-- An event is abandoned. -/
theorem abandon_does (r : Respondent) (hs : b.store = s) (hrow : s.get? e.id = some row) :
    r.Does (Worker.abandon e) b () (s.edit e.id Event.recordAbandoned) [] := by
  have hperform (now : Instant) : s.perform now (.markAbandoned e.id) =
      (.ok (), s.edit e.id Event.recordAbandoned) := by
    rw [Store.perform_markAbandoned, hrow]
  have hmark := outbox_does r hs (hperform _)
  exact hmark.bind (done_does r hmark.store ())

/-- The failure of an event is recorded, which may have been one too many. -/
theorem recordFailure_does (r : Respondent) (hs : b.store = s) (hrow : s.get? e.id = some e)
    (hp : e.status = .pending) (h : e.retryCount < w.maxRetries) (error : DeliveryError)
    (now : Instant) :
    ∃ outcome, r.Does (w.recordFailure e error) b outcome
      (s.edit e.id (w.settle (.error error) now)) [] := by
  have hperform (now : Instant) : s.perform now (.markFailed e.id error.reason) =
      (.ok (e.retryCount + 1), s.edit e.id (Event.recordFailure · error.reason)) := by
    rw [Store.perform_markFailed, hrow, ← Event.nextCount_of_lt h]
  have hnote := note_does r hs (.publishFailed e error)
  have hmark := outbox_does r hnote.store (hperform _)
  by_cases hm : w.maxRetries ≤ e.retryCount + 1
  · -- The event is marked twice: its failure is counted first, and then it is abandoned.
    have hrow' : (s.edit e.id (Event.recordFailure · error.reason)).get? e.id =
        some (e.recordFailure error.reason) := by
      rw [Store.get?_edit_self (Event.id_recordFailure · error.reason), hrow]
      rfl
    have hsettle : s.edit e.id (w.settle (.error error) now) =
        (s.edit e.id (Event.recordFailure · error.reason)).edit e.id Event.recordAbandoned := by
      rw [Store.edit_edit _ _ (Event.id_recordFailure · error.reason)]
      refine Store.edit_congr hrow ?_
      simp [Worker.settle, UInt32.not_le.2 h, hm, Event.recordAbandoned, Event.recordFailure,
        Event.nextCount_of_lt h, hp]
    have hnote' := note_does r hmark.store (.retriesReached e (e.retryCount + 1))
    have habandon := abandon_does r hnote'.store hrow'
    refine ⟨.failedExhausted, hnote.bind (hmark.bind ?_)⟩
    dsimp only
    rw [if_pos hm, hsettle]
    exact hnote'.bind (habandon.bind (done_does r habandon.store _))
  · have hsettle : s.edit e.id (w.settle (.error error) now) =
        s.edit e.id (Event.recordFailure · error.reason) := by
      refine Store.edit_congr hrow ?_
      simp [Worker.settle, UInt32.not_le.2 h, hm, Event.recordFailure, Event.nextCount_of_lt h, hp]
    refine ⟨.failedRetryable, hnote.bind (hmark.bind ?_)⟩
    dsimp only
    rw [if_neg hm, hsettle]
    exact done_does r hmark.store _

/-- The worker deals with an event that stands in the outbox as it was fetched. -/
theorem dispatch_does (r : Respondent) (w : Worker) (hs : b.store = s) (hrow : s.get? e.id = some e)
    (hp : e.status = .pending) :
    ∃ calls calls' outcome, r.Does (w.dispatch e) b outcome
      (s.edit e.id (w.settle (r.reply calls (.publish e)) (r.clock calls')))
      ([e].filter w.tries) := by
  rw [Worker.dispatch]
  split
  next h =>
    have h : w.maxRetries ≤ e.retryCount := of_decide_eq_true h
    have htries : [e].filter w.tries = [] := by simp [Worker.tries, h]
    have hsettle (answer : Except DeliveryError Unit) (now : Instant) :
        s.edit e.id (w.settle answer now) = s.edit e.id Event.recordAbandoned := by
      refine Store.edit_congr hrow ?_
      simp [Worker.settle, h, Event.recordAbandoned, hp]
    refine ⟨[], [], .skipped, ?_⟩
    rw [htries, hsettle]
    have hnote := note_does r hs (.retriesExceeded e w.maxRetries)
    have habandon := abandon_does r hnote.store hrow
    exact hnote.bind (habandon.bind (done_does r habandon.store _))
  next h =>
    have h : e.retryCount < w.maxRetries := by simpa [Event.isExhausted] using h
    have htries : [e].filter w.tries = [e] := by simp [Worker.tries, h]
    rw [htries]
    have hpublish := publish_does r hs e
    generalize hanswer : r.reply b.calls (.publish e) = answer at hpublish
    cases answer with
    | error error =>
      obtain ⟨outcome, hrecord⟩ := recordFailure_does r hpublish.store hrow hp h error (r.clock [])
      refine ⟨b.calls, [], outcome, ?_⟩
      rw [hanswer]
      exact hpublish.bind hrecord
    | ok _ =>
      have hperform (now : Instant) : s.perform now (.markPublished e.id) =
          (.ok (), s.edit e.id (Event.recordPublished · now)) := by
        rw [Store.perform_markPublished, hrow]
      have hmark := outbox_does r hpublish.store (hperform _)
      have hsettle (now : Instant) :
          s.edit e.id (w.settle (.ok ()) now) = s.edit e.id (Event.recordPublished · now) := by
        refine Store.edit_congr hrow ?_
        simp [Worker.settle, UInt32.not_le.2 h, Event.recordPublished]
      -- The clock is read when the event is marked, which is after the publisher's answer.
      refine ⟨b.calls, ((ask (.publish e)).run r.answer b).2.calls, .published, ?_⟩
      rw [hanswer, hsettle]
      exact hpublish.bind (hmark.bind (done_does r hmark.store _))

/-- The answers make this of events. -/
def Respondent.Settles (r : Respondent) (w : Worker) (settled : Event → Event) : Prop :=
  ∀ e, ∃ calls calls', settled e = w.settle (r.reply calls (.publish e)) (r.clock calls') e

/-- The outbox after events of a batch have become others. -/
def Store.change (s : Store) (batch : List Event) (f : Event → Event) : Store :=
  ⟨s.events.map fun e => if e ∈ batch then f e else e⟩

@[simp]
theorem Store.change_nil (s : Store) (f : Event → Event) : s.change [] f = s := by simp [change]

/-- To change the first event of a batch and then the others is to change all of them. -/
theorem Store.Fresh.change_cons (hb : s.Fresh (e :: batch)) (hd : s.Distinct) {f : Event → Event}
    (hf : ∀ a, (f a).id = a.id) (g : Event → Event) :
    (s.edit e.id f).change batch g = s.change (e :: batch) (Function.update g e (f e)) := by
  have hnot : f e ∉ batch := fun he => hb.not_mem (hf e ▸ List.mem_map_of_mem he)
  refine congrArg Store.mk ?_
  rw [Store.edit, updateFirst_eq_map hd, List.map_map]
  refine List.map_congr_left fun a ha => ?_
  by_cases hid : a.id = e.id
  · have hrow := hd.get?_of_mem ha
    rw [hid, hb.head.1] at hrow
    obtain rfl := Option.some.inj hrow
    simp [hnot]
  · have hne : a ≠ e := fun h => hid (h ▸ rfl)
    simp [hid, hne]

/-- The worker deals with a batch, the events of which stand in the outbox as they were fetched. -/
theorem dispatchAll_does (r : Respondent) (w : Worker) (hd : s.Distinct) (hs : b.store = s)
    (hb : s.Fresh batch) (report : Report) :
    ∃ settled report', r.Settles w settled ∧
      r.Does (w.dispatchAll report batch) b report' (s.change batch settled)
        (batch.filter w.tries) := by
  induction batch generalizing b s report with
  | nil =>
    refine ⟨_, report, fun e => ⟨[], [], rfl⟩, ?_⟩
    rw [Store.change_nil]
    exact done_does r hs report
  | cons e batch ih =>
    obtain ⟨hrow, hp⟩ := hb.head
    obtain ⟨calls, calls', outcome, hdispatch⟩ := dispatch_does r w hs hrow hp
    generalize hf : w.settle (r.reply calls (.publish e)) (r.clock calls') = f at hdispatch
    have hid (a : Event) : (f a).id = a.id := by rw [← hf, Worker.id_settle]
    -- The others are still as they were fetched when the first event has been dealt with.
    obtain ⟨settled, report', hsettled, hrest⟩ := ih (hd.edit hid) hdispatch.store
      (hb.tail.edit hid hb.not_mem) (report.record outcome)
    refine ⟨Function.update settled e (f e), report', ?_, ?_⟩
    · intro a
      by_cases ha : a = e
      · subst ha
        exact ⟨calls, calls', by rw [Function.update_self, hf]⟩
      · rw [Function.update_of_ne ha]
        exact hsettled a
    · rw [← hb.change_cons hd hid, ← List.singleton_append, List.filter_append]
      exact hdispatch.bind hrest

/-- What a tick does: it deals with the batch that it has fetched. -/
theorem Bench.tick_spec (r : Respondent) (w : Worker) (hd : b.store.Distinct) :
    ∃ settled, r.Settles w settled ∧
      (b.tick r w).store = b.store.change (b.store.fetch .pending w.limit) settled ∧
      (b.tick r w).offered = b.offered ++ (b.store.fetch .pending w.limit).filter w.tries := by
  have hfetch := outbox_does (b := b) r rfl
    (show b.store.perform (r.clock b.calls) (.fetchUnpublished w.limit) =
      (.ok (b.store.fetch .pending w.limit), b.store) from rfl)
  generalize hbatch : b.store.fetch .pending w.limit = batch at hfetch
  have hb : b.store.Fresh batch := hbatch ▸ .fetch hd w.limit
  obtain ⟨settled, report, hsettled, hall⟩ :=
    dispatchAll_does r w hd hfetch.store hb (.start batch.length)
  have hrun : r.Does w.runOnce b report (b.store.change batch settled)
      ([] ++ (batch.filter w.tries ++ [])) := by
    refine hfetch.bind (hall.bind ?_)
    split
    · have hnote := note_does r hall.store (.tickFinished report.fetched report.published
        report.failed report.abandoned report.skipped)
      exact hnote.bind (done_does r hnote.store report)
    · exact done_does r hall.store report
  refine ⟨settled, hsettled, hrun.store, ?_⟩
  rw [tick, hrun.offered]
  simp

namespace Bench

/-- A publisher always gives the same answer to an event. Then a tick changes exactly the rows of
    its batch, which are the first pending events, and leaves all rows at their places. What becomes
    of a row depends on this row alone, but for the time at which it is marked. The events of the
    batch that have not failed too often are handed to the publisher. -/
theorem tick_settles {publish : Event → Except DeliveryError Unit}
    (hpublish : ∀ calls e, r.reply calls (.publish e) = publish e) (hd : b.store.Distinct) :
    let batch := b.store.fetch .pending w.limit
    (∀ e, e ∈ batch ↔ e ∈ b.store.events ∧ e.status = .pending ∧
      b.store.rank e < min w.batchSize Worker.greatestLimit) ∧
    (∃ now : Event → Instant, (∀ e, ∃ calls, now e = r.clock calls) ∧
      (b.tick r w).store.events =
        b.store.events.map fun e => if e ∈ batch then w.settle (publish e) (now e) e else e) ∧
    (∀ e ∈ batch, ∀ now, w.settle (publish e) now e ≠ e) ∧
    (b.tick r w).offered = b.offered ++ batch.filter fun e => e.retryCount < w.maxRetries := by
  intro batch
  obtain ⟨settled, hsettled, hstore, hoffered⟩ := tick_spec r w hd
  refine ⟨?_, ?_, ?_, hoffered⟩
  · intro e
    rw [← w.toNat_limit]
    exact hd.mem_fetch_iff
  · choose calls calls' hsettled using hsettled
    refine ⟨fun e => r.clock (calls' e), fun e => ⟨calls' e, rfl⟩, ?_⟩
    rw [hstore]
    refine List.map_congr_left fun e _ => ?_
    rw [hsettled, hpublish]
  · exact fun e he now => w.settle_ne (publish e) now (Store.mem_fetch he).2

end Bench

/-- Somebody to whom no question matters but those of the publisher. -/
def Respondent.ofPublish (publish : Event → Except DeliveryError Unit) : Respondent where
  clock calls := ⟨calls.length⟩
  reply _
    | .publish e => publish e
    | .clock => ⟨0⟩
    | .freshId => .nil
    | .note _ => ()
    | .outbox _ => .error (.outbox "closed")
    | .closePublisher | .handle _ _ | .confirm _ _ => .ok ()
    | .inbox _ | .preferences _ | .tokens _ | .logs _ => .error (.infrastructure "closed")
    | .sendEmail _ | .sendSms _ => .ok none
    | .sendPush _ _ => .error (.infrastructure "closed")

/-- A publisher that takes nothing about orders. -/
def noOrders (e : Event) : Except DeliveryError Unit :=
  if e.aggregateType = "order" then .error (.bus "no orders") else .ok ()

/-- An event that waits in the outbox: the kind of its aggregate, the time of its creation and how
    often it has failed. -/
def waiting (id : Fin 10) (kind : String) (createdAt : Int) (retryCount : UInt32) : Event :=
  ⟨⟨id, Nat.lt_trans id.isLt (by decide)⟩, kind, "1", kind ++ ".created", [], ⟨createdAt⟩, none,
    retryCount, none, .pending⟩

/-- An outbox in which one event has failed too often, and another one has been published. -/
def mixed : Store :=
  ⟨[waiting 0 "user" 2 3, waiting 1 "order" 1 2, waiting 2 "user" 9 0, waiting 3 "user" 1 0,
    waiting 4 "order" 1 0, { waiting 5 "user" 0 0 with status := .published }]⟩

theorem distinct_mixed : mixed.Distinct := by
  unfold Store.Distinct
  decide

theorem queue_mixed :
    mixed.queue .pending =
      [waiting 1 "order" 1 2, waiting 3 "user" 1 0, waiting 4 "order" 1 0, waiting 0 "user" 2 3,
        waiting 2 "user" 9 0] :=
  distinct_mixed.eq_of_perm (distinct_mixed.queue_pairwise _) (by decide)
    ((mixed.queue_perm _).trans (by decide))

/-- Of the four oldest pending events one is skipped, one is published, and two fail, one of them
    for the last time. -/
theorem Bench.tick_settles_noOrders :
    let b := Bench.tick (.ofPublish noOrders) ⟨1000, 4, 3⟩ ⟨mixed, []⟩
    (∃ now, b.store.events =
      [{ waiting 0 "user" 2 3 with status := .abandoned },
        { waiting 1 "order" 1 3 with lastError := some "no orders", status := .abandoned },
        waiting 2 "user" 9 0,
        { waiting 3 "user" 1 0 with publishedAt := some now, status := .published },
        { waiting 4 "order" 1 1 with lastError := some "no orders" },
        { waiting 5 "user" 0 0 with status := .published }]) ∧
      b.offered = [waiting 1 "order" 1 2, waiting 3 "user" 1 0, waiting 4 "order" 1 0] := by
  have hbatch : mixed.fetch .pending (Worker.limit ⟨1000, 4, 3⟩) =
      [waiting 1 "order" 1 2, waiting 3 "user" 1 0, waiting 4 "order" 1 0,
        waiting 0 "user" 2 3] := by
    rw [Store.fetch_eq_take, queue_mixed]
    rfl
  obtain ⟨-, ⟨now, -, hevents⟩, -, hoffered⟩ :=
    Bench.tick_settles (w := ⟨1000, 4, 3⟩) (r := .ofPublish noOrders) (b := ⟨mixed, []⟩)
      (fun _ _ => rfl) distinct_mixed
  dsimp only at hevents hoffered ⊢
  rw [hbatch] at hevents hoffered
  refine ⟨⟨now (waiting 3 "user" 1 0), ?_⟩, ?_⟩
  · rw [hevents]
    rfl
  · rw [hoffered]
    decide +kernel

end Courier.Outbox
