import Courier.Outbox.Raised
import Mathlib.Data.List.DropRight
import Mathlib.Data.List.Forall2
import Mathlib.Data.List.Induction

/-!
# Collecting raised events

In one piece of work events are raised, some of which cannot be written, and the collection is taken
or cleared now and then. What is taken can be told from these calls alone.

* `DomainEvent.WrittenAs`: the row that an event has in the outbox at first.
* `RaisedEvents.performAll`, `RaisedEvents.takes`: a collection after a sequence of calls, and what
  was taken out of it.
* `RaisedEvents.written_performAll`: the collection holds what has been raised since it was last
  emptied.
* `RaisedEvents.flatten_takes_append`: as long as it is not cleared, nothing is lost.
* `performAll_collects`: what holds after every sequence of calls.
-/

namespace Courier

/-- A row is the first one of a domain event: it has its facts and its payload, and nothing has
    happened to it yet. -/
structure DomainEvent.WrittenAs (e : DomainEvent) (row : Outbox.Event) : Prop where
  id : row.id = e.metadata.eventId
  eventType : row.eventType = e.metadata.eventType
  aggregateType : row.aggregateType = e.metadata.aggregateType
  aggregateId : row.aggregateId = e.metadata.aggregateId
  createdAt : row.createdAt = e.metadata.occurredAt
  payload : e.payload = .ok row.payload
  status : row.status = .pending
  retryCount : row.retryCount = 0
  publishedAt : row.publishedAt = none
  lastError : row.lastError = none

namespace RaisedEvents

/-- What is done with a collection. -/
inductive Call
  | raise (e : DomainEvent)
  | take
  | clear

/-- Whether a call leaves what is in the collection there. -/
def Call.isRaise : Call → Bool
  | raise _ => true
  | _ => false

/-- The event that a call raises, if it can be written. -/
def Call.written? : Call → Option DomainEvent
  | raise e => if e.payload.isOk then some e else none
  | _ => none

/-- The collection after a call. -/
def perform (r : RaisedEvents) : Call → RaisedEvents
  | .raise e => (r.raise e).2
  | .take => r.take.2
  | .clear => r.clear

/-- The collection after a sequence of calls. -/
def performAll (r : RaisedEvents) (calls : List Call) : RaisedEvents := calls.foldl perform r

/-- What is taken in a sequence of calls, each time. -/
def takes (r : RaisedEvents) : List Call → List (List Outbox.Event)
  | [] => []
  | .take :: calls => r.take.1 :: r.take.2.takes calls
  | call :: calls => (r.perform call).takes calls

variable {r : RaisedEvents} {e : DomainEvent} {calls : List Call}

/-! ### Raising -/

/-- An event that cannot be written leaves the collection as it is. -/
theorem raise_of_error {reason : String} (h : e.payload = .error reason) (r : RaisedEvents) :
    r.raise e = (.error (.serialization reason), r) := by
  rw [raise, DomainEvent.toOutbox, h]

/-- An event that can be written comes last. -/
theorem raise_of_ok {payload : Bytes} (h : e.payload = .ok payload) (r : RaisedEvents) :
    ∃ row, e.WrittenAs row ∧ r.raise e = (.ok (), ⟨r.events ++ [row]⟩) := by
  rw [raise, DomainEvent.toOutbox, h]
  exact ⟨_, ⟨rfl, rfl, rfl, rfl, rfl, h, rfl, rfl, rfl, rfl⟩, rfl⟩

/-- The rows of the events that are raised and can be written. -/
def Written (calls : List Call) (rows : List Outbox.Event) : Prop :=
  List.Forall₂ DomainEvent.WrittenAs (calls.filterMap Call.written?) rows

theorem Written.append {calls' : List Call} {rows rows' : List Outbox.Event}
    (h : Written calls rows) (h' : Written calls' rows') :
    Written (calls ++ calls') (rows ++ rows') := by
  rw [Written, List.filterMap_append]
  exact List.rel_append h h'

/-- A call that raises an event puts its row at the end, if there is one. -/
theorem exists_events_perform (r : RaisedEvents) (e : DomainEvent) :
    ∃ rows, Written [.raise e] rows ∧ (r.perform (.raise e)).events = r.events ++ rows := by
  cases h : e.payload with
  | error reason =>
    refine ⟨[], ?_, ?_⟩
    · simp [Written, Call.written?, h, Except.isOk, Except.toBool]
    · rw [perform, raise_of_error h, List.append_nil]
  | ok payload =>
    obtain ⟨row, hrow, hraise⟩ := raise_of_ok h r
    refine ⟨[row], ?_, ?_⟩
    · simpa [Written, Call.written?, h, Except.isOk, Except.toBool] using hrow
    · rw [perform, hraise]

/-! ### Sequences of calls -/

theorem performAll_concat (r : RaisedEvents) (calls : List Call) (call : Call) :
    r.performAll (calls ++ [call]) = (r.performAll calls).perform call := by
  rw [performAll, List.foldl_append]
  rfl

/-- The collection holds the rows of what has been raised since it was last emptied, in order. -/
theorem written_performAll (calls : List Call) :
    Written (calls.rtakeWhile Call.isRaise) (empty.performAll calls).events := by
  -- The last call decides whether anything stays, so the induction is from the right.
  induction calls using List.reverseRecOn with
  | nil => exact .nil
  | append_singleton calls call ih =>
    rw [performAll_concat]
    cases call with
    | raise e =>
      obtain ⟨rows, hrows, hevents⟩ := (empty.performAll calls).exists_events_perform e
      rw [List.rtakeWhile_concat_pos _ _ _ rfl, hevents]
      exact ih.append hrows
    | take =>
      rw [List.rtakeWhile_concat_neg _ _ _ Bool.false_ne_true]
      exact .nil
    | clear =>
      rw [List.rtakeWhile_concat_neg _ _ _ Bool.false_ne_true]
      exact .nil

/-- As long as a collection is not cleared, what it held and what is raised is taken out of it in
    order, or still there. -/
theorem flatten_takes_append (h : ∀ call ∈ calls, call ≠ .clear) (r : RaisedEvents) :
    ∃ rows, Written calls rows ∧
      (r.takes calls).flatten ++ (r.performAll calls).events = r.events ++ rows := by
  induction calls generalizing r with
  | nil => exact ⟨[], .nil, (List.append_nil _).symm⟩
  | cons call calls ih =>
    rw [List.forall_mem_cons] at h
    obtain ⟨rows, hrows, heq⟩ := ih h.2 (r.perform call)
    cases call with
    | raise e =>
      obtain ⟨row, hrow, hevents⟩ := r.exists_events_perform e
      rw [hevents, List.append_assoc] at heq
      exact ⟨row ++ rows, hrow.append hrows, heq⟩
    | take =>
      refine ⟨rows, hrows, ?_⟩
      rw [takes, List.flatten_cons, List.append_assoc]
      exact congrArg (r.events ++ ·) heq
    | clear => exact absurd rfl h.1

/-- Events are raised, of which some cannot be written, and the collection is taken or cleared now
    and then. What is taken next are the rows of the events that have been raised since it was last
    taken or cleared, in order, and nothing stays. An event that cannot be written is refused and
    leaves the collection as it is. Until the collection is cleared again, all that is taken, and
    what stays in the end, is what it held and what is raised, in order. -/
theorem performAll_collects (calls : List Call) :
    let r := empty.performAll calls
    Written (calls.rtakeWhile Call.isRaise) r.take.1 ∧ r.take.2 = empty ∧
      (∀ e reason, e.payload = .error reason →
        r.raise e = (.error (.serialization reason), r)) ∧
      (∀ e payload, e.payload = .ok payload →
        ∃ row, e.WrittenAs row ∧ r.raise e = (.ok (), ⟨r.events ++ [row]⟩)) ∧
      ∀ more, (∀ call ∈ more, call ≠ .clear) → ∃ rows, Written more rows ∧
        (r.takes more).flatten ++ (r.performAll more).events = r.events ++ rows :=
  ⟨written_performAll calls, rfl, fun _ _ h => raise_of_error h _, fun _ _ h => raise_of_ok h _,
    fun _ h => flatten_takes_append h _⟩

/-- A user has been created. -/
def arrival : DomainEvent := ⟨⟨.nil, "user.created", "user", "1", ⟨0⟩⟩, .ok [0x7B, 0x7D]⟩

/-- A user has been rated, which cannot be written. -/
def rating : DomainEvent := ⟨⟨.nil, "user.rated", "user", "1", ⟨1⟩⟩, .error "no number"⟩

/-- What was raised before the collection was cleared does not come back. After that, two events are
    raised, of which one is taken and the other one stays. -/
theorem performAll_collects_afterwards :
    let r := empty.performAll [.raise arrival, .take, .raise arrival, .clear]
    let more : List Call := [.raise rating, .raise arrival, .take, .raise arrival]
    r.take.1 = [] ∧ r.raise rating = (.error (.serialization "no number"), r) ∧
      ∃ row row', arrival.WrittenAs row ∧ arrival.WrittenAs row' ∧
        (r.takes more).flatten ++ (r.performAll more).events = [row, row'] := by
  intro r more
  obtain ⟨htaken, -, hrefused, -, hmore⟩ :=
    performAll_collects [.raise arrival, .take, .raise arrival, .clear]
  have hnone : more.filterMap Call.written? = [arrival, arrival] := rfl
  obtain ⟨rows, hwritten, heq⟩ := hmore more (by simp [more])
  rw [Written, hnone] at hwritten
  obtain ⟨row, rows, hrow, hrows, rfl⟩ := List.forall₂_cons_left_iff.1 hwritten
  obtain ⟨row', rows, hrow', hnil, rfl⟩ := List.forall₂_cons_left_iff.1 hrows
  obtain rfl := List.forall₂_nil_left_iff.1 hnil
  exact ⟨List.forall₂_nil_left_iff.1 htaken, hrefused rating "no number" rfl, row, row', hrow,
    hrow', heq⟩

end RaisedEvents

end Courier
