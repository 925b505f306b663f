import Courier.Proofs.Outbox.Store
import Mathlib.Data.List.Forall2
import Mathlib.Data.List.Induction

/-!
# The history of an outbox

Events are stored and marked in any order, and any of these operations may fail. What can become of
an event is told by the operations alone: how often it has failed is counted by them, and how it
stands only moves on.

* `Store.performAll`: an outbox after a sequence of operations.
* `Event.Becomes`: all that a sequence of operations can make of an event in the outbox.
* `Op.change`: what a single operation makes of an event (`perform_spec`, `becomes_change`).
* `performAll_history`: what holds after every sequence of operations, what every sequence after it
  makes of the outbox, and which operation fails then.
-/

namespace Courier.Outbox

/-- An event has a time of publication exactly if it is published. -/
def Event.IsDated (e : Event) : Prop := e.publishedAt.isSome ↔ e.status = .published

/-- All that an operation stores has a property. -/
def Op.Stores (p : Event → Prop) : Op → Prop
  | store batch => ∀ e ∈ batch, p e
  | _ => True

/-- Whether an operation counts a failure of an event. -/
def Op.fails (id : Uuid) : Op → Bool
  | markFailed id' _ => id' = id
  | _ => false

/-- What a sequence of operations, each with its time, can make of an event in the outbox. -/
structure Event.Becomes (ops : List (Instant × Op)) (e e' : Event) : Prop where
  facts : e'.facts = e.facts
  /-- Each failure counts once, up to the greatest count there is, and nothing else counts. -/
  retryCount : e'.retryCount.toNat =
    min (e.retryCount.toNat + ops.countP (·.2.fails e.id)) 0xFFFFFFFF
  publishedAt : e.publishedAt.isSome → e'.publishedAt = e.publishedAt
  pending : e'.status = .pending → e.status = .pending
  published : e.status = .published → e'.status = .published

namespace Store

/-- The outbox after a sequence of operations, each at its time. One that fails leaves the outbox as
    `perform` does. -/
def performAll (s : Store) (ops : List (Instant × Op)) : Store :=
  ops.foldl (fun s op => (s.perform op.1 op.2).2) s

/-- An operation fails: it marks an event that is not there, or it stores a batch that brings an
    identifier again. -/
def Refuses (s : Store) : Op → Prop
  | .store batch => ¬(⟨s.events ++ batch⟩ : Store).Distinct
  | .markPublished id | .markFailed id _ | .markAbandoned id => s.get? id = none
  | .fetchUnpublished _ | .fetchAbandoned _ => False

end Store

variable {s : Store} {e e' e'' : Event} {ops ops' : List (Instant × Op)}

/-! ### One event -/

theorem Event.Becomes.refl (e : Event) : e.Becomes [] e where
  facts := rfl
  retryCount := by
    have := e.retryCount.toNat_lt
    rw [List.countP_nil]
    omega
  publishedAt _ := rfl
  pending h := h
  published h := h

theorem Event.Becomes.trans (h : e.Becomes ops e') (h' : e'.Becomes ops' e'') :
    e.Becomes (ops ++ ops') e'' where
  facts := h'.facts.trans h.facts
  retryCount := by
    have hcount := h'.retryCount
    rw [Event.id_of_facts h.facts, h.retryCount] at hcount
    rw [hcount, List.countP_append]
    omega
  publishedAt hp := by
    have he := h.publishedAt hp
    rw [h'.publishedAt (he ▸ hp), he]
  pending := h.pending ∘ h'.pending
  published := h'.published ∘ h.published

/-- The event that an operation at the given time marks, and what it makes of it. -/
def Op.mark? (now : Instant) : Op → Option (Uuid × (Event → Event))
  | markPublished id => some (id, fun e => e.recordPublished now)
  | markFailed id reason => some (id, fun e => e.recordFailure reason)
  | markAbandoned id => some (id, Event.recordAbandoned)
  | _ => none

/-- What an operation at the given time makes of an event that is in the outbox. -/
def Op.change (now : Instant) (op : Op) (e : Event) : Event :=
  match op.mark? now with
  | some (id, f) => if e.id = id then f e else e
  | none => e

theorem becomes_change (now : Instant) (op : Op) (e : Event) :
    e.Becomes [(now, op)] (op.change now e) := by
  have hstay (h : op.fails e.id = false) : e.Becomes [(now, op)] e := by
    refine { Event.Becomes.refl e with retryCount := ?_ }
    simpa [h] using (Event.Becomes.refl e).retryCount
  cases op with
  | markPublished id =>
    simp only [Op.change, Op.mark?]
    split
    · refine { hstay rfl with publishedAt := ?_, pending := ?_, published := fun _ => rfl }
      · intro hp
        obtain ⟨time, htime⟩ := Option.isSome_iff_exists.1 hp
        simp [Event.recordPublished, htime]
      · rintro ⟨⟩
    · exact hstay rfl
  | markFailed id reason =>
    simp only [Op.change, Op.mark?]
    split
    next h =>
      refine { Event.Becomes.refl e with retryCount := ?_ }
      simp [Op.fails, h, Event.toNat_nextCount]
    next h => exact hstay (by simpa [Op.fails] using Ne.symm h)
  | markAbandoned id =>
    simp only [Op.change, Op.mark?]
    split
    · refine { hstay rfl with
        facts := e.facts_recordAbandoned
        retryCount := ?_
        publishedAt := fun _ => e.publishedAt_recordAbandoned
        pending := ?_
        published := e.status_recordAbandoned_eq_published.2 }
      · rw [e.retryCount_recordAbandoned]
        exact (hstay rfl).retryCount
      · rw [Event.recordAbandoned]
        split <;> simp [*]
    · exact hstay rfl
  | store batch => exact hstay rfl
  | fetchUnpublished limit => exact hstay rfl
  | fetchAbandoned limit => exact hstay rfl

theorem Event.IsDated.change (h : e.IsDated) (now : Instant) (op : Op) :
    (op.change now e).IsDated := by
  cases op with
  | markPublished id =>
    simp only [Op.change, Op.mark?]
    split
    · refine iff_of_true ?_ rfl
      cases hp : e.publishedAt <;> simp [Event.recordPublished, hp]
    · exact h
  | markFailed id reason =>
    simp only [Op.change, Op.mark?]
    split <;> exact h
  | markAbandoned id =>
    simp only [Op.change, Op.mark?]
    split
    · rwa [Event.IsDated, e.publishedAt_recordAbandoned, e.status_recordAbandoned_eq_published]
    · exact h
  | _ => exact h

/-! ### One operation -/

namespace Store

theorem updateFirst_eq_map {id : Uuid} {f : Event → Event} {es : List Event}
    (h : (es.map (·.id)).Nodup) :
    updateFirst id f es = es.map fun e => if e.id = id then f e else e := by
  induction es with
  | nil => rfl
  | cons e es ih =>
    rw [List.map_cons, List.nodup_cons] at h
    rw [updateFirst, List.map_cons, ← ih h.2]
    split
    next he =>
      -- No event after the first one has the identifier.
      have hrest : ∀ e' ∈ es, (if e'.id = id then f e' else e') = e' := by
        intro e' he'
        refine if_neg ?_
        rintro rfl
        exact h.1 (he ▸ List.mem_map_of_mem he')
      rw [ih h.2, List.map_congr_left hrest, List.map_id']
    next => rfl

/-- A mark on an event that is not there would change none. -/
theorem map_eq_of_get?_eq_none {id : Uuid} {f : Event → Event} (h : s.get? id = none) :
    (s.events.map fun e => if e.id = id then f e else e) = s.events := by
  have hne : ∀ e ∈ s.events, (if e.id = id then f e else e) = e := by
    intro e he
    refine if_neg ?_
    simpa using List.find?_eq_none.1 h e he
  rw [List.map_congr_left hne, List.map_id']

theorem perform_mark_of_none {now : Instant} {op : Op} {id : Uuid} {f : Event → Event}
    (h : op.mark? now = some (id, f)) (hid : s.get? id = none) :
    s.perform now op = (.error (missing id), s) := by
  cases op with
  | markPublished id' =>
    cases h
    rw [perform_markPublished, hid]
  | markFailed id' reason =>
    cases h
    rw [perform_markFailed, hid]
  | markAbandoned id' =>
    cases h
    rw [perform_markAbandoned, hid]
  | _ => cases h

theorem perform_mark_of_some {now : Instant} {op : Op} {id : Uuid} {f : Event → Event}
    (h : op.mark? now = some (id, f)) (hid : s.get? id = some e) :
    ∃ a, s.perform now op = (.ok a, s.edit id f) := by
  cases op with
  | markPublished id' =>
    cases h
    exact ⟨(), by rw [perform_markPublished, hid]⟩
  | markFailed id' reason =>
    cases h
    exact ⟨_, by rw [perform_markFailed, hid]⟩
  | markAbandoned id' =>
    cases h
    exact ⟨(), by rw [perform_markAbandoned, hid]⟩
  | _ => cases h

/-- What an operation leaves of an outbox: its events, each of them changed on its own, and after
    them what the operation has stored. No identifier comes twice. -/
theorem perform_spec (h : s.Distinct) (now : Instant) (op : Op) :
    ∃ added, (s.perform now op).2.events = s.events.map (op.change now) ++ added ∧
      (∀ p, op.Stores p → ∀ e ∈ added, p e) ∧ (s.perform now op).2.Distinct := by
  cases hmark : op.mark? now with
  | some mark =>
    obtain ⟨id, f⟩ := mark
    have hevents : (s.perform now op).2.events = s.events.map (op.change now) := by
      have hchange : op.change now = fun e => if e.id = id then f e else e := by
        funext e
        rw [Op.change, hmark]
      rw [hchange]
      cases hid : s.get? id with
      | none => rw [perform_mark_of_none hmark hid, map_eq_of_get?_eq_none hid]
      | some e =>
        obtain ⟨a, hperform⟩ := perform_mark_of_some hmark hid
        rw [hperform]
        exact updateFirst_eq_map h
    refine ⟨[], by rw [hevents, List.append_nil], by simp, ?_⟩
    have hids : (s.events.map (op.change now)).map (·.id) = s.events.map (·.id) := by
      rw [List.map_map]
      exact List.map_congr_left fun e _ => Event.id_of_facts (becomes_change now op e).facts
    rw [Distinct, hevents, hids]
    exact h
  | none =>
    have hchange : op.change now = fun e => e := by
      funext e
      rw [Op.change, hmark]
    rw [hchange, List.map_id']
    cases op with
    | store batch =>
      rw [perform_store]
      cases hs : s.store batch with
      | error error => exact ⟨[], (List.append_nil _).symm, by simp, h⟩
      | ok s' =>
        obtain ⟨hs', hd⟩ := (store_eq_ok_iff h).1 hs
        exact ⟨batch, by rw [hs'], fun _ hp => hp, hd⟩
    | fetchUnpublished limit => exact ⟨[], (List.append_nil _).symm, by simp, h⟩
    | fetchAbandoned limit => exact ⟨[], (List.append_nil _).symm, by simp, h⟩
    | markPublished id => cases hmark
    | markFailed id reason => cases hmark
    | markAbandoned id => cases hmark

/-- An operation that fails changes nothing. -/
theorem perform_of_refuses (h : s.Distinct) (now : Instant) {op : Op} (hop : s.Refuses op) :
    ∃ error, s.perform now op = (.error error, s) := by
  cases op with
  | store batch =>
    rw [perform_store]
    cases hs : s.store batch with
    | error error => exact ⟨error, rfl⟩
    | ok s' =>
      obtain ⟨rfl, hd⟩ := (store_eq_ok_iff h).1 hs
      exact absurd hd hop
  | fetchUnpublished limit => exact hop.elim
  | fetchAbandoned limit => exact hop.elim
  | markPublished id => exact ⟨_, perform_mark_of_none rfl hop⟩
  | markFailed id reason => exact ⟨_, perform_mark_of_none rfl hop⟩
  | markAbandoned id => exact ⟨_, perform_mark_of_none rfl hop⟩

/-- Every other operation succeeds. -/
theorem perform_of_not_refuses (h : s.Distinct) (now : Instant) {op : Op} (hop : ¬s.Refuses op) :
    ∃ a, (s.perform now op).1 = .ok a := by
  cases op with
  | store batch =>
    have hs := (store_eq_ok_iff h).2 ⟨rfl, not_not.1 hop⟩
    exact ⟨(), by rw [perform_store, hs]⟩
  | fetchUnpublished limit => exact ⟨_, rfl⟩
  | fetchAbandoned limit => exact ⟨_, rfl⟩
  | markPublished id =>
    obtain ⟨e, hid⟩ := Option.ne_none_iff_exists'.1 hop
    exact ⟨(), by rw [perform_markPublished, hid]⟩
  | markFailed id reason =>
    obtain ⟨e, hid⟩ := Option.ne_none_iff_exists'.1 hop
    exact ⟨_, by rw [perform_markFailed, hid]⟩
  | markAbandoned id =>
    obtain ⟨e, hid⟩ := Option.ne_none_iff_exists'.1 hop
    exact ⟨(), by rw [perform_markAbandoned, hid]⟩

/-! ### All operations -/

theorem performAll_append (s : Store) (ops ops' : List (Instant × Op)) :
    s.performAll (ops ++ ops') = (s.performAll ops).performAll ops' := List.foldl_append

/-- What a sequence of operations leaves of an outbox. -/
theorem performAll_spec (h : s.Distinct) (ops : List (Instant × Op)) :
    (s.performAll ops).Distinct ∧ ∃ rows added, (s.performAll ops).events = rows ++ added ∧
      List.Forall₂ (Event.Becomes ops) s.events rows := by
  -- The last operation goes on with the rows as they are then, and with what has come after them.
  induction ops using List.reverseRecOn with
  | nil => exact ⟨h, s.events, [], (List.append_nil _).symm, List.forall₂_same.2 fun e _ => .refl e⟩
  | append_singleton ops op ih =>
    obtain ⟨hd, rows, added, hevents, hrows⟩ := ih
    obtain ⟨added', hevents', -, hd'⟩ := perform_spec hd op.1 op.2
    rw [hevents, List.map_append, List.append_assoc] at hevents'
    rw [performAll_append]
    refine ⟨hd', rows.map (op.2.change op.1), _, hevents', ?_⟩
    rw [List.forall₂_map_right_iff]
    exact hrows.imp fun e e' h => h.trans (becomes_change op.1 op.2 e')

theorem isDated_of_mem_performAll (h : s.Distinct) (hs : ∀ e ∈ s.events, e.IsDated)
    {ops : List (Instant × Op)} (hops : ∀ op ∈ ops, op.2.Stores Event.IsDated) :
    ∀ e ∈ (s.performAll ops).events, e.IsDated := by
  induction ops generalizing s with
  | nil => exact hs
  | cons op ops ih =>
    rw [List.forall_mem_cons] at hops
    obtain ⟨added, hevents, hadded, hd⟩ := perform_spec h op.1 op.2
    refine ih hd ?_ hops.2
    rw [hevents]
    intro e he
    rcases List.mem_append.1 he with he | he
    · obtain ⟨row, hrow, rfl⟩ := List.mem_map.1 he
      exact (hs row hrow).change op.1 op.2
    · exact hadded _ hops.1 e he

end Store

/-- Events that have a time of publication exactly if they are published are stored and marked in
    any order. Then no identifier comes twice, and the stored events are still such. Whatever is
    done from then on, all of them stay in their order, before those that come later, and become
    what the operations can make of them. And exactly those operations fail, without any effect,
    that mark an event that is not there or bring an identifier again. -/
theorem performAll_history {ops : List (Instant × Op)}
    (h : ∀ op ∈ ops, op.2.Stores Event.IsDated) :
    let s := Store.empty.performAll ops
    (s.events.map (·.id)).Nodup ∧
      (∀ e ∈ s.events, e.publishedAt.isSome ↔ e.status = .published) ∧
      (∀ ops', ∃ rows added, (s.performAll ops').events = rows ++ added ∧
        List.Forall₂ (Event.Becomes ops') s.events rows) ∧
      ∀ now op, (s.Refuses op → ∃ error, s.perform now op = (.error error, s)) ∧
        (¬s.Refuses op → ∃ a, (s.perform now op).1 = .ok a) := by
  have hd := (Store.performAll_spec Store.distinct_empty ops).1
  refine ⟨hd, ?_, ?_, ?_⟩
  · exact Store.isDated_of_mem_performAll Store.distinct_empty (by simp [Store.empty]) h
  · exact fun ops' => (Store.performAll_spec hd ops').2
  · exact fun now op => ⟨Store.perform_of_refuses hd now, Store.perform_of_not_refuses hd now⟩

/-- An event that has not been published. -/
def unsettled : Event :=
  ⟨.nil, "user", "1", "user.created", [], ⟨0⟩, none, 0, none, .pending⟩

/-- The event is abandoned. -/
def surrender : List (Instant × Op) := [(⟨1⟩, .store [unsettled]), (⟨2⟩, .markAbandoned .nil)]

/-- The event fails, is published after all, and then published again. -/
def rescue : List (Instant × Op) :=
  [(⟨3⟩, .markFailed .nil "down"), (⟨4⟩, .markPublished .nil), (⟨5⟩, .markPublished .nil)]

/-- The rescue keeps the abandoned event, with its one failure and not pending. It cannot be stored
    again. -/
theorem performAll_history_rescue :
    let s := Store.empty.performAll surrender
    s.events = [{ unsettled with status := .abandoned }] ∧
      (∃ row added, (s.performAll rescue).events = row :: added ∧ row.facts = unsettled.facts ∧
        row.retryCount.toNat = 1 ∧ row.status ≠ .pending) ∧
      ∃ error, s.perform ⟨6⟩ (.store [unsettled]) = (.error error, s) := by
  have hsurrender : (Store.empty.performAll surrender).events =
      [{ unsettled with status := .abandoned }] := by
    decide +kernel
  have hops : ∀ op ∈ surrender, op.2.Stores Event.IsDated := by
    simp [surrender, Op.Stores, Event.IsDated, unsettled]
  obtain ⟨-, -, hrows, hop⟩ := performAll_history hops
  obtain ⟨rows, added, hevents, hbecomes⟩ := hrows rescue
  rw [hsurrender] at hbecomes
  obtain ⟨row, rows, hrow, hnil, rfl⟩ := List.forall₂_cons_left_iff.1 hbecomes
  obtain rfl := List.forall₂_nil_left_iff.1 hnil
  refine ⟨hsurrender, ⟨row, added, hevents, hrow.facts, hrow.retryCount, ?_⟩, ?_⟩
  · intro hp
    cases hrow.pending hp
  · refine (hop ⟨6⟩ (.store [unsettled])).1 fun hd => ?_
    simp [Store.Distinct, hsurrender, unsettled] at hd

end Courier.Outbox
