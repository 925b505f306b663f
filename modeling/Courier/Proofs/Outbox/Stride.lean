import Courier.Bus.Delivery
import Courier.Proofs.Outbox.Fresh

/-!
# A worker for which nothing fails

When the publisher accepts every event and no call to the outbox fails, a worker that has the outbox
to itself only fetches, publishes and marks. Then what has been published are the events that are
marked and the one that is to be marked, each of them once, and with every tick fewer events are
pending, by as many as the worker fetches.

* `Stride`: all that an answer can do then.
* `Stride.underway`: every answer keeps what has been published in step with the outbox.
* `Stride.pending_le`: how many events are pending at most.
-/

namespace Courier.Outbox

variable {m : UInt32} {s s' : Store} {k k' : Stage} {es : List Event} {log : List BusEvent}

/-- No event that the worker has in hand has ever failed. -/
def Stage.Calm : Stage → Prop
  | ready _ => True
  | dealing batch => ∀ e ∈ batch, e.retryCount = 0
  | accepted e batch => e.retryCount = 0 ∧ ∀ e ∈ batch, e.retryCount = 0
  | rejected _ _ _ | exhausted _ _ => False

/-- What an answer to the worker does when nothing fails: what it has in hand before and after it,
    the outbox after it, and the events that have been published. -/
inductive Stride (s : Store) : Stage → Stage → Store → List Event → Prop
  | stayed (k : Stage) : Stride s k k s []
  | fetched (limit : Int) :
      Stride s (.ready limit) (.dealing (s.fetch .pending limit)) s []
  | accepted (e : Event) (batch : List Event) :
      Stride s (.dealing (e :: batch)) (.accepted e batch) s [e]
  | published (e : Event) (batch : List Event) (now : Instant) (h : s.get? e.id = some e) :
      Stride s (.accepted e batch) (.dealing batch) (s.edit e.id fun e => e.recordPublished now) []

/-! ### What has been published -/

/-- The event that has been published and is to be marked. -/
def Stage.inFlight : Stage → List Event
  | accepted e _ => [e]
  | _ => []

/-- The events that are marked as published. -/
def Store.published (s : Store) : List Event := s.events.filter fun e => e.status = .published

/-- The events that are pending. -/
def Store.pending (s : Store) : List Event := s.events.filter fun e => e.status = .pending

/-- How an outbox stands in which nothing has failed, when the worker has this in hand and these
    events have been published. -/
structure Underway (m : UInt32) (s : Store) (k : Stage) (log : List BusEvent) : Prop where
  distinct : s.Distinct
  current : k.Current m s
  calm : k.Calm
  rows : ∀ row ∈ s.events, row.retryCount = 0 ∧ (row.status = .pending ∨ row.status = .published)
  log : log.Perm ((s.published ++ k.inFlight).map .ofOutbox)

/-- A batch of events that have just been raised. -/
structure IsRaised (batch : List Event) : Prop where
  nodup : (batch.map (·.id)).Nodup
  pending : ∀ e ∈ batch, e.status = .pending
  retryCount : ∀ e ∈ batch, e.retryCount = 0

/-- Nothing has been published of a batch that has just been stored. -/
theorem Underway.store {batch : List Event} (h : Underway m s k log) (hs : s.events = [])
    (hb : IsRaised batch) : Underway m ⟨s.events ++ batch⟩ k log where
  distinct := by
    rw [hs]
    exact hb.nodup
  current := h.current.append batch
  calm := h.calm
  rows row hr := by
    rw [hs] at hr
    exact ⟨hb.retryCount row hr, .inl (hb.pending row hr)⟩
  log := by
    have hpublished : Store.published ⟨s.events ++ batch⟩ = s.published := by
      rw [Store.published, Store.published, List.filter_append, List.append_right_eq_self,
        List.filter_eq_nil_iff]
      intro e he
      rw [hb.pending e he]
      decide
    rw [hpublished]
    exact h.log

/-- An event that is found stands at one place, where it is changed. -/
theorem Store.exists_split {e : Event} {id : Uuid} (h : s.get? id = some e) :
    ∃ l₁ l₂, s.events = l₁ ++ e :: l₂ ∧ ∀ f, (s.edit id f).events = l₁ ++ f e :: l₂ := by
  obtain ⟨events⟩ := s
  simp only [get?, edit] at h ⊢
  induction events with
  | nil => cases h
  | cons a events ih =>
    by_cases hid : a.id = id
    · rw [List.find?_cons_of_pos (by simpa using hid)] at h
      cases h
      exact ⟨[], events, rfl, fun f => by rw [updateFirst, if_pos hid]; rfl⟩
    · rw [List.find?_cons_of_neg (by simpa using hid)] at h
      obtain ⟨l₁, l₂, hevents, hedit⟩ := ih h
      refine ⟨a :: l₁, l₂, congrArg (a :: ·) hevents, ?_⟩
      intro f
      rw [updateFirst, if_neg hid, hedit]
      rfl

theorem ofOutbox_recordPublished (e : Event) (now : Instant) :
    BusEvent.ofOutbox (e.recordPublished now) = .ofOutbox e := rfl

/-- What is fetched has never failed, if nothing has. -/
theorem Underway.calm_fetch (h : Underway m s k log) (limit : Int) :
    (Stage.dealing (s.fetch .pending limit)).Calm :=
  fun e he => (h.rows e (Store.mem_fetch he).1).1

/-- Every answer keeps what has been published in step with the outbox. -/
theorem Stride.underway (hm : 0 < m) (h : Underway m s k log) (hs : Stride s k k' s' es) :
    Underway m s' k' (log ++ es.map .ofOutbox) := by
  cases hs with
  | stayed k => rwa [List.map_nil, List.append_nil]
  | fetched limit =>
    rw [List.map_nil, List.append_nil]
    exact ⟨h.distinct, .fetch h.distinct limit, h.calm_fetch limit, h.rows, h.log⟩
  | accepted e batch =>
    have he := h.calm e List.mem_cons_self
    refine ⟨h.distinct, ⟨h.current, by rw [he]; exact hm⟩, ?_, h.rows, ?_⟩
    · exact ⟨he, fun e' he' => h.calm e' (List.mem_cons_of_mem e he')⟩
    · have hlog : log.Perm (s.published.map .ofOutbox) := by simpa [Stage.inFlight] using h.log
      rw [Stage.inFlight, List.map_append]
      exact hlog.append_right _
  | published e batch now hrow =>
    obtain ⟨l₁, l₂, hevents, hedit⟩ := s.exists_split hrow
    have hpending := h.current.1.head.2
    rw [List.map_nil, List.append_nil]
    refine ⟨h.distinct.edit fun _ => rfl, ?_, h.calm.2, ?_, h.log.trans ?_⟩
    · exact h.current.1.tail.edit (fun _ => rfl) h.current.1.not_mem
    · intro row hr
      rw [hedit] at hr
      rcases List.mem_append.1 hr with hr | hr
      · exact h.rows row (by rw [hevents]; exact List.mem_append_left _ hr)
      · rcases List.mem_cons.1 hr with rfl | hr
        · exact ⟨h.calm.1, .inr rfl⟩
        · exact h.rows row
            (by rw [hevents]; exact List.mem_append_right _ (List.mem_cons_of_mem _ hr))
    · -- The event in flight takes its place among the published ones.
      have hne : e.status ≠ .published := by rw [hpending]; rintro ⟨⟩
      simp only [Store.published, hedit, hevents, Stage.inFlight, List.filter_append,
        List.filter_cons, hne, decide_false, Event.status_recordPublished, decide_true, if_true,
        Bool.false_eq_true, if_false, List.append_nil, List.append_assoc, List.map_append,
        List.map_cons, ofOutbox_recordPublished]
      refine List.Perm.append_left _ ?_
      exact List.perm_append_comm

theorem Stride.facts_eq (hs : Stride s k k' s' es) :
    s'.events.map (·.facts) = s.events.map (·.facts) := by
  cases hs with
  | published e batch now hrow =>
    obtain ⟨l₁, l₂, hevents, hedit⟩ := s.exists_split hrow
    rw [hedit, hevents, List.map_append, List.map_append]
    rfl
  | _ => rfl

/-- No more events have been published than are in the outbox. -/
theorem Underway.length_le (h : Underway m s k log) : log.length ≤ s.events.length := by
  rw [h.log.length_eq, List.length_map, List.length_append]
  have hsplit := List.length_eq_length_filter_add (l := s.events) fun e => e.status = .published
  have hle : k.inFlight.length ≤
      (s.events.filter fun e => !decide (e.status = .published)).length := by
    cases k with
    | accepted e batch =>
      obtain ⟨hrow, hp⟩ := h.current.1.head
      refine List.length_pos_of_mem (a := e) (List.mem_filter.2 ⟨Store.mem_of_get? hrow, ?_⟩)
      simp [hp]
    | _ => exact Nat.zero_le _
  rw [Store.published]
  omega

/-! ### How many events are pending -/

/-- How many events the worker marks at most until the end of the tick. -/
def Stage.load : Stage → Nat
  | ready limit => limit.toNat
  | k => k.held.length

/-- How many events are pending at most: those that the worker marks in this tick, and a number that
    does not change in the tick. -/
theorem Stride.pending_le {rest : Nat} (h : Underway m s k log) (hs : Stride s k k' s' es)
    (hle : s.pending.length ≤ k.load + rest) : s'.pending.length ≤ k'.load + rest := by
  cases hs with
  | stayed k => exact hle
  | fetched limit =>
    -- Either all that is pending is fetched, or as much as was asked for.
    have hfetch : (s.fetch .pending limit).length =
        min limit.toNat (s.events.countP fun e => e.status = .pending) := Store.length_fetch
    rw [List.countP_eq_length_filter] at hfetch
    simp only [Stage.load, Stage.held, Store.pending] at hle ⊢
    omega
  | accepted e batch => exact hle
  | published e batch now hrow =>
    obtain ⟨l₁, l₂, hevents, hedit⟩ := s.exists_split hrow
    have hp := h.current.1.head.2
    simp only [Store.pending, hevents, hedit, List.filter_append, hp, Event.status_recordPublished,
      decide_true, List.filter_cons_of_pos, reduceCtorEq, decide_false, Bool.false_eq_true,
      not_false_eq_true, List.filter_cons_of_neg, List.length_append, List.length_cons, Stage.load,
      Stage.held] at hle ⊢
    omega

/-- Ticks that are enough for the size of a batch are enough for what is asked for in a tick. -/
theorem Worker.le_mul_limit {w : Worker} {n ticks : Nat} (hn : n ≤ greatestLimit)
    (h : n ≤ ticks * w.batchSize) : n ≤ ticks * w.limit.toNat := by
  by_cases hle : w.batchSize ≤ greatestLimit
  · have hlimit : w.limit.toNat = w.batchSize := by
      rw [limit]
      omega
    rwa [hlimit]
  · have hlimit : w.limit.toNat = greatestLimit := by
      rw [limit]
      omega
    rw [hlimit]
    -- One tick is enough, as no batch is larger.
    cases ticks with
    | zero => rwa [Nat.zero_mul] at h ⊢
    | succ ticks => exact Nat.le_trans hn (Nat.le_mul_of_pos_left _ (Nat.succ_pos _))

end Courier.Outbox
