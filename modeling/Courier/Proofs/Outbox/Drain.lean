import Courier.Proofs.Outbox.Bench
import Courier.Proofs.Outbox.Stride
import Mathlib.Algebra.Order.BigOperators.Group.List
import Mathlib.Algebra.Order.Floor.Div
import Mathlib.Data.List.Perm.Lattice

/-!
# Tick after tick

Nothing new is stored, and the worker goes on until no event is pending. Old events may fail again
and again before younger ones are fetched. But each tick takes some of the patience that the worker
has with the events of its batch, so that no event waits for ever.

* `Worker.patience`: how often the worker deals with an event at most, and `Store.burden` the sum of
  that over an outbox.
* `Bench.burden_tick_le`: a tick takes some of it, as long as any event is pending.
* `Bench.ticks_drain`: so no event is pending in the end, however the publisher answers.
* `Bench.queue_tick`: when everything is accepted, a tick takes the beginning of the queue.
* `Bench.ticks_in_order`: so the whole queue is published in its order, whatever a batch is.
-/

namespace Courier.Outbox

variable {r : Respondent} {w : Worker} {b : Bench} {s : Store} {e : Event} {batch : List Event}
  {f : Event → Event}

theorem Respondent.Settles.id_eq (h : r.Settles w f) (e : Event) : (f e).id = e.id := by
  obtain ⟨calls, calls', he⟩ := h e
  rw [he, Worker.id_settle]

theorem Store.Distinct.change (hd : s.Distinct) (hf : ∀ e, (f e).id = e.id) :
    (s.change batch f).Distinct := by
  have hids : (s.change batch f).events.map (·.id) = s.events.map (·.id) := by
    rw [Store.change, List.map_map]
    refine List.map_congr_left fun e _ => ?_
    rw [Function.comp_apply]
    split
    · exact hf e
    · rfl
  rw [Distinct, hids]
  exact hd

theorem Bench.distinct_tick (r : Respondent) (w : Worker) (hd : b.store.Distinct) :
    (b.tick r w).store.Distinct := by
  obtain ⟨settled, hsettled, hstore, -⟩ := tick_spec r w hd
  rw [hstore]
  exact hd.change hsettled.id_eq

/-! ### How long it takes -/

/-- How often the worker deals with an event at most until the event is not pending any more. -/
def Worker.patience (w : Worker) (e : Event) : Nat :=
  if e.status = .pending then max 1 (w.maxRetries.toNat - e.retryCount.toNat) else 0

/-- The patience that a worker has with all events of an outbox. -/
def Store.burden (s : Store) (w : Worker) : Nat := (s.events.map w.patience).sum

theorem Worker.patience_settle_lt (w : Worker) (answer : Except DeliveryError Unit) (now : Instant)
    (hp : e.status = .pending) : w.patience (w.settle answer now e) < w.patience e := by
  rw [patience, patience, if_pos hp]
  split
  next h =>
    obtain ⟨-, hlt, hcount⟩ := Worker.of_pending_settle h
    omega
  next => omega

theorem Store.burden_eq (s : Store) (w : Worker) :
    s.burden w = (s.pending.map fun e => max 1 (w.maxRetries.toNat - e.retryCount.toNat)).sum := by
  rw [burden, pending]
  induction s.events with
  | nil => rfl
  | cons e events ih =>
    rw [List.map_cons, List.sum_cons, ih, Worker.patience]
    by_cases h : e.status = .pending <;> simp [h]

theorem Store.burden_eq_zero_iff : s.burden w = 0 ↔ s.pending = [] := by
  rw [burden_eq, List.sum_eq_zero_iff]
  constructor
  · intro h
    rw [List.eq_nil_iff_forall_not_mem]
    intro e he
    have := h _ (List.mem_map_of_mem he)
    omega
  · intro h
    simp [h]

theorem Store.fetch_eq_nil_iff (hw : 0 < w.batchSize) :
    s.fetch .pending w.limit = [] ↔ s.pending = [] := by
  have hlength : (s.fetch .pending w.limit).length = min w.limit.toNat s.pending.length := by
    rw [length_fetch, List.countP_eq_length_filter, pending]
  have hlimit : 0 < w.limit.toNat := by
    rw [w.toNat_limit, Worker.greatestLimit]
    omega
  rw [← List.length_eq_zero_iff, ← List.length_eq_zero_iff, hlength]
  omega

theorem Store.burden_change_lt (hne : batch ≠ [])
    (h : ∀ e ∈ batch, e ∈ s.events ∧ w.patience (f e) < w.patience e) :
    (s.change batch f).burden w < s.burden w := by
  obtain ⟨e, he⟩ := List.exists_mem_of_ne_nil batch hne
  rw [burden, burden, change, List.map_map]
  refine List.sum_lt_sum _ _ (fun a _ => ?_) ⟨e, (h e he).1, ?_⟩
  · rw [Function.comp_apply]
    split
    next ha => exact (h a ha).2.le
    next => exact Nat.le_refl _
  · rw [Function.comp_apply, if_pos he]
    exact (h e he).2

/-- A tick takes patience, as long as any event is pending. -/
theorem Bench.burden_tick_le (r : Respondent) (hw : 0 < w.batchSize) (hd : b.store.Distinct) :
    (b.tick r w).store.burden w ≤ b.store.burden w - 1 := by
  obtain ⟨settled, hsettled, hstore, -⟩ := tick_spec r w hd
  rw [hstore]
  by_cases hp : b.store.pending = []
  · rw [(Store.fetch_eq_nil_iff hw).2 hp, Store.change_nil, Store.burden_eq_zero_iff.2 hp]
  · refine Nat.le_sub_one_of_lt (Store.burden_change_lt ?_ ?_)
    · exact (Store.fetch_eq_nil_iff hw).not.2 hp
    · intro e he
      obtain ⟨he, hp⟩ := Store.mem_fetch he
      obtain ⟨calls, calls', hsettled⟩ := hsettled e
      rw [hsettled]
      exact ⟨he, w.patience_settle_lt _ _ hp⟩

namespace Bench

/-- However the publisher answers, from call to call, no event is pending after so many ticks as the
    worker has patience with all events that are pending now. -/
theorem ticks_drain (r : Respondent) (hw : 0 < w.batchSize) (hd : b.store.Distinct) {n : Nat}
    (hn : (b.store.pending.map fun e => max 1 (w.maxRetries.toNat - e.retryCount.toNat)).sum ≤ n) :
    ((tick r w)^[n] b).store.pending = [] := by
  rw [← Store.burden_eq] at hn
  induction n generalizing b with
  | zero => exact Store.burden_eq_zero_iff.1 (Nat.le_zero.1 hn)
  | succ n ih =>
    have hle := burden_tick_le r hw hd
    exact ih (distinct_tick r w hd) (by omega)

/-- A worker that takes one event at a time, and tries it three times at most, is done after eleven
    ticks, although nothing about orders is ever accepted. -/
theorem ticks_drain_noOrders :
    ((tick (.ofPublish noOrders) ⟨1000, 1, 3⟩)^[11] ⟨mixed, []⟩).store.pending = [] :=
  ticks_drain (.ofPublish noOrders) (w := ⟨1000, 1, 3⟩) (b := ⟨mixed, []⟩) (by decide)
    distinct_mixed (by decide)

end Bench

/-! ### In which order -/

theorem Store.pending_change (h : ∀ e ∈ batch, (f e).status ≠ .pending) :
    (s.change batch f).pending = s.pending.filter (· ∉ batch) := by
  have hkeep : (s.events.filter fun e => (if e ∈ batch then f e else e).status = .pending) =
      s.pending.filter (· ∉ batch) := by
    rw [pending, List.filter_filter]
    refine List.filter_congr fun e _ => ?_
    by_cases he : e ∈ batch
    · simp [he, h e he]
    · simp [he]
  rw [pending, change, List.filter_map]
  change List.map _ (s.events.filter fun e => (if e ∈ batch then f e else e).status = .pending) = _
  rw [hkeep]
  refine (List.map_congr_left fun e he => ?_).trans (List.map_id' _)
  exact if_neg (of_decide_eq_true (List.mem_filter.1 he).2)

/-- In a list without duplicates, all that is not among the first elements comes after them. -/
theorem filter_notMem_take {α : Type} [DecidableEq α] {l : List α} (h : l.Nodup) (n : Nat) :
    l.filter (· ∉ l.take n) = l.drop n := by
  have hfirst : (l.take n).filter (· ∉ l.take n) = [] := by simp
  have hrest : (l.drop n).filter (· ∉ l.take n) = l.drop n := by
    refine List.filter_eq_self.2 fun a ha => decide_eq_true fun ha' => ?_
    exact List.disjoint_take_drop h (Nat.le_refl n) ha' ha
  calc
    _ = (l.take n ++ l.drop n).filter (· ∉ l.take n) := by rw [List.take_append_drop]
    _ = _ := by rw [List.filter_append, hfirst, hrest, List.nil_append]

/-- When the first pending events are done with, the others are in the same order as before. -/
theorem Store.Distinct.queue_eq_drop (h : s.Distinct) {s' : Store} (n : Nat)
    (hs' : s'.pending = s.pending.filter (· ∉ (s.queue .pending).take n)) :
    s'.queue .pending = (s.queue .pending).drop n := by
  have hsub : s'.pending.Sublist s.events := by
    rw [hs']
    exact List.filter_sublist.trans List.filter_sublist
  have hnodup : (s.queue .pending).Nodup :=
    (s.queue_perm .pending).nodup_iff.2 (h.nodup_events.filter _)
  -- Both lists are in the order of the outbox, so that they need only have the same events.
  have hperm : (s'.queue .pending).Perm ((s.queue .pending).drop n) := by
    rw [← filter_notMem_take hnodup]
    refine (s'.queue_perm .pending).trans ?_
    change s'.pending.Perm _
    rw [hs']
    exact (s.queue_perm .pending).symm.filter _
  exact h.eq_of_perm (h.pairwise_mergeSort hsub)
    ((h.queue_pairwise .pending).sublist (List.drop_sublist n _)) hperm

/-- When the publisher accepts everything, a batch is done with in one tick. -/
theorem Bench.queue_tick (hd : b.store.Distinct)
    (hok : ∀ calls e, r.reply calls (.publish e) = .ok ()) :
    (b.tick r w).store.queue .pending = (b.store.queue .pending).drop w.limit.toNat := by
  obtain ⟨settled, hsettled, hstore, -⟩ := tick_spec r w hd
  refine hd.queue_eq_drop _ ?_
  rw [hstore]
  refine Store.pending_change fun e _ hp => ?_
  obtain ⟨calls, calls', he⟩ := hsettled e
  rw [he, hok] at hp
  obtain ⟨⟨error, herror⟩, -⟩ := Worker.of_pending_settle hp
  cases herror

theorem Bench.ticks_queue (hd : b.store.Distinct)
    (hok : ∀ calls e, r.reply calls (.publish e) = .ok ()) (n : Nat) :
    let b' := (tick r w)^[n] b
    b'.store.Distinct ∧
      b'.store.queue .pending = (b.store.queue .pending).drop (n * w.limit.toNat) ∧
      b'.offered =
        b.offered ++ ((b.store.queue .pending).take (n * w.limit.toNat)).filter w.tries := by
  induction n with
  | zero => exact ⟨hd, by simp, by simp⟩
  | succ n ih =>
    obtain ⟨hd', hqueue, hoffered⟩ := ih
    obtain ⟨-, -, -, hoffered'⟩ := tick_spec r w hd'
    rw [Function.iterate_succ_apply', Nat.succ_mul]
    refine ⟨distinct_tick r w hd', ?_, ?_⟩
    · rw [queue_tick hd' hok, hqueue, List.drop_drop]
    · rw [hoffered', hoffered, Store.fetch_eq_take, hqueue, List.take_add, List.filter_append,
        List.append_assoc]

/-- Nothing fails. Then ticks that are enough for all pending events, if each takes a full batch,
    hand the events to the publisher in the order of the outbox and leave none of them pending,
    however large a batch is. The last condition always holds, since an outbox in memory never holds
    more events than can be asked for. -/
theorem Bench.ticks_in_order (hw : 0 < w.batchSize) (hd : b.store.Distinct)
    (hok : ∀ calls e, r.reply calls (.publish e) = .ok ())
    (hfits : min b.store.pending.length w.batchSize ≤ Worker.greatestLimit) :
    let b' := (tick r w)^[b.store.pending.length ⌈/⌉ w.batchSize] b
    (∃ es, b'.offered = b.offered ++ es ∧ es.Pairwise b.store.Before ∧
      es.Perm (b.store.pending.filter fun e => e.retryCount < w.maxRetries)) ∧
    b'.store.pending = [] := by
  generalize hticks : b.store.pending.length ⌈/⌉ w.batchSize = ticks
  intro b'
  obtain ⟨-, hqueue, hoffered⟩ := ticks_queue (w := w) hd hok ticks
  have henough : b.store.pending.length ≤ ticks * w.limit.toNat := by
    have hle : b.store.pending.length ≤ ticks * w.batchSize := by
      rw [← hticks, Nat.mul_comm]
      exact le_smul_ceilDiv hw
    rcases min_le_iff.1 hfits with hcount | hsize
    · exact Worker.le_mul_limit hcount hle
    · rwa [w.toNat_limit, Nat.min_eq_left hsize]
  have hlength : (b.store.queue .pending).length ≤ ticks * w.limit.toNat := by
    rw [(b.store.queue_perm .pending).length_eq]
    exact henough
  rw [List.drop_eq_nil_of_le hlength] at hqueue
  rw [List.take_of_length_le hlength] at hoffered
  refine ⟨⟨_, hoffered, (hd.queue_pairwise _).filter _, (b.store.queue_perm _).filter _⟩, ?_⟩
  have hperm := b'.store.queue_perm .pending
  rw [hqueue] at hperm
  exact hperm.nil_eq.symm

/-- Two at a time, the example is published in three ticks, but for the event that has failed too
    often before. -/
theorem Bench.ticks_in_order_three :
    let b := (tick (.ofPublish fun _ => .ok ()) ⟨1000, 2, 3⟩)^[3] ⟨mixed, []⟩
    b.offered =
      [waiting 1 "order" 1 2, waiting 3 "user" 1 0, waiting 4 "order" 1 0, waiting 2 "user" 9 0] ∧
    b.store.pending = [] := by
  obtain ⟨⟨es, hoffered, hes, hperm⟩, hpending⟩ :=
    ticks_in_order (r := .ofPublish fun _ => .ok ()) (w := ⟨1000, 2, 3⟩) (b := ⟨mixed, []⟩)
      (by decide) distinct_mixed (fun _ _ => rfl) (by decide)
  refine ⟨hoffered.trans ?_, hpending⟩
  exact distinct_mixed.eq_of_perm hes (by decide) (hperm.trans (by decide))

end Courier.Outbox
