import Courier.Proofs.Outbox.Fleet

/-!
# Custody

What the outbox holds is accounted for by the calls that have been made. No event that has been
stored is ever lost or altered, and how an event stands has a reason: it is published only if the
publisher has accepted it, and abandoned only if it has failed often enough. That holds although
the workers act on events as they were when they were fetched, which other workers may have marked
since.

* `Event.Advances`: what can become of an event in the outbox: it keeps its facts, and its count of
  failures does not fall. What a worker has in hand has advanced in the outbox at most.
* `Board.Accounted`: the invariant, kept by every step (`Board.Step.accounted`).
* `play_accounted`: it holds after every sequence of turns.
-/

namespace Courier.Outbox

variable {m : UInt32} {s s' : Store} {calls calls' : List Call}

/-! ### Advancing -/

/-- An event keeps its facts, and its count of failures does not fall. -/
def Event.Advances (e e' : Event) : Prop := e'.facts = e.facts ∧ e.retryCount ≤ e'.retryCount

theorem Event.Advances.refl (e : Event) : e.Advances e := ⟨rfl, UInt32.le_refl _⟩

theorem Event.Advances.trans {e e' e'' : Event} (h : e.Advances e') (h' : e'.Advances e'') :
    e.Advances e'' :=
  ⟨h'.1.trans h.1, UInt32.le_trans h.2 h'.2⟩

theorem Event.Advances.id_eq {e e' : Event} (h : e.Advances e') : e'.id = e.id :=
  Event.id_of_facts h.1

/-- Every event stays where it is found, and advances. -/
def Store.Advances (s s' : Store) : Prop :=
  ∀ id row, s.get? id = some row → ∃ row', s'.get? id = some row' ∧ row.Advances row'

theorem Store.Advances.refl (s : Store) : s.Advances s := fun _ row h => ⟨row, h, .refl row⟩

theorem Store.Advances.get?_eq_none {id : Uuid} (h : s.Advances s') (hid : s'.get? id = none) :
    s.get? id = none := by
  cases hrow : s.get? id with
  | none => rfl
  | some row =>
    obtain ⟨row', hrow', _⟩ := h id row hrow
    rw [hid] at hrow'
    cases hrow'

theorem Store.advances_edit (s : Store) (id : Uuid) {f : Event → Event}
    (hf : ∀ e : Event, e.Advances (f e)) : s.Advances (s.edit id f) := by
  intro id' row h
  rw [Store.get?_edit fun e => (hf e).id_eq]
  split
  next hid =>
    subst hid
    rw [h]
    exact ⟨f row, rfl, hf row⟩
  next => exact ⟨row, h, .refl row⟩

theorem Store.advances_append (s : Store) (batch : List Event) : s.Advances ⟨s.events ++ batch⟩ :=
  fun _ row h => ⟨row, Store.get?_append_of_some h, .refl row⟩

theorem Event.advances_recordPublished (now : Instant) (e : Event) :
    e.Advances (e.recordPublished now) :=
  ⟨rfl, UInt32.le_refl _⟩

theorem Event.advances_recordFailure (reason : String) (e : Event) :
    e.Advances (e.recordFailure reason) :=
  ⟨rfl, Event.le_nextCount _⟩

theorem Event.advances_recordAbandoned (e : Event) : e.Advances e.recordAbandoned :=
  ⟨e.facts_recordAbandoned, by rw [e.retryCount_recordAbandoned]; exact UInt32.le_refl _⟩

theorem Deed.advances {k k' : Stage} {call : Call} (h : Deed m s k call k' s') : s.Advances s' := by
  cases h with
  | published e row batch now h =>
    exact s.advances_edit e.id (Event.advances_recordPublished now)
  | counted e row batch error h =>
    exact s.advances_edit e.id (Event.advances_recordFailure error.reason)
  | abandoned e row batch k hk h => exact s.advances_edit e.id Event.advances_recordAbandoned
  | _ => exact .refl s

/-! ### What has been stored -/

/-- The events that a call has stored. -/
def Call.stored : Call → List Event
  | ⟨.outbox (.store batch), .ok _⟩ => batch
  | _ => []

/-- The events that have been stored, in the order of storing. -/
def storedBy (calls : List Call) : List Event := calls.flatMap Call.stored

theorem storedBy_append (calls : List Call) (call : Call) :
    storedBy (calls ++ [call]) = storedBy calls ++ call.stored := by
  simp [storedBy]

theorem Deed.stored_eq_nil {k k' : Stage} {call : Call} (h : Deed m s k call k' s') :
    call.stored = [] := by
  cases h <;> rfl

/-- Every event that has been stored is found with its facts. -/
def Store.Keeps (s : Store) (calls : List Call) : Prop :=
  ∀ e ∈ storedBy calls, ∃ row, s.get? e.id = some row ∧ row.facts = e.facts

theorem Store.Keeps.advance (h : s.Keeps calls) (hs : s.Advances s') {call : Call}
    (hc : call.stored = []) : s'.Keeps (calls ++ [call]) := by
  intro e he
  rw [storedBy_append, hc, List.append_nil] at he
  obtain ⟨row, hrow, hfacts⟩ := h e he
  obtain ⟨row', hrow', ha⟩ := hs e.id row hrow
  exact ⟨row', hrow', ha.1.trans hfacts⟩

theorem Store.Keeps.append {batch : List Event} (h : s.Keeps calls)
    (hd : (⟨s.events ++ batch⟩ : Store).Distinct) :
    (⟨s.events ++ batch⟩ : Store).Keeps (calls ++ [⟨.outbox (.store batch), .ok ()⟩]) := by
  intro e he
  rw [storedBy_append] at he
  rcases List.mem_append.1 he with he | he
  · obtain ⟨row, hrow, hfacts⟩ := h e he
    exact ⟨row, Store.get?_append_of_some hrow, hfacts⟩
  · exact ⟨e, hd.get?_of_mem (List.mem_append_right _ he), rfl⟩

theorem Board.Step.keeps {p : Event → Prop} {b b' : Board} (hs : b.Step m p b')
    (h : b.store.Keeps b.calls) : b'.store.Keeps b'.calls := by
  cases hs with
  | stayed => exact h
  | began i limit hi => exact h
  | did i k k' call s hi hdeed => exact h.advance hdeed.advances hdeed.stored_eq_nil
  | stored batch hp hd => exact h.append hd
  | storeRefused batch error => exact h.advance (.refl _) rfl

/-! ### Accounts -/

/-- An event that is stored for the first time. -/
def Event.IsNew (e : Event) : Prop := e.status = .pending ∧ e.publishedAt = none

/-- How an event stands has a reason. -/
structure Event.Accounted (m : UInt32) (calls : List Call) (row : Event) : Prop where
  /-- It is published only if the publisher has accepted it. -/
  published : row.status = .published →
    ∃ e, (⟨.publish e, .ok ()⟩ : Call) ∈ calls ∧ e.facts = row.facts
  /-- It is abandoned only if it has failed often enough. -/
  abandoned : row.status = .abandoned → m ≤ row.retryCount
  /-- It has a time of publication exactly if it is published. -/
  publishedAt : row.publishedAt.isSome ↔ row.status = .published

/-- What a worker has come to know of what it has in hand. -/
def Stage.Learned (m : UInt32) (s : Store) (calls : List Call) : Stage → Prop
  | accepted e _ => (⟨.publish e, .ok ()⟩ : Call) ∈ calls
  | exhausted e _ => ∃ row, s.get? e.id = some row ∧ m ≤ row.retryCount
  | _ => True

/-- What a worker has in hand is in the outbox, where it may have advanced. -/
structure Stage.Accounted (m : UInt32) (s : Store) (calls : List Call) (k : Stage) : Prop where
  held : ∀ e ∈ k.held, ∃ row, s.get? e.id = some row ∧ e.Advances row
  learned : k.Learned m s calls

theorem Event.Accounted.mono {row : Event} (h : row.Accounted m calls) (hc : calls ⊆ calls') :
    row.Accounted m calls' where
  published hp :=
    let ⟨e, he, hfacts⟩ := h.published hp
    ⟨e, hc he, hfacts⟩
  abandoned := h.abandoned
  publishedAt := h.publishedAt

theorem Stage.Accounted.mono {k : Stage} (h : k.Accounted m s calls) (hs : s.Advances s')
    (hc : calls ⊆ calls') : k.Accounted m s' calls' where
  held e he := by
    obtain ⟨row, hrow, ha⟩ := h.held e he
    obtain ⟨row', hrow', ha'⟩ := hs _ row hrow
    exact ⟨row', hrow', ha.trans ha'⟩
  learned := by
    have hl := h.learned
    cases k with
    | accepted e batch => exact hc hl
    | exhausted e batch =>
      obtain ⟨row, hrow, hm⟩ := hl
      obtain ⟨row', hrow', ha⟩ := hs _ row hrow
      exact ⟨row', hrow', UInt32.le_trans hm ha.2⟩
    | _ => trivial

theorem Stage.Accounted.of_held_eq_nil {k : Stage} (hk : k.held = [])
    (hl : k.Learned m s calls) : k.Accounted m s calls :=
  ⟨fun _ he => absurd (hk ▸ he) List.not_mem_nil, hl⟩

/-- What is left in hand after the first event has been dealt with. -/
theorem Stage.Accounted.deal {k : Stage} {e : Event} {batch : List Event}
    (h : k.Accounted m s calls) (hk : k.held = e :: batch) :
    (dealing batch).Accounted m s calls :=
  ⟨fun e' he' => h.held e' (hk ▸ List.mem_cons_of_mem e he'), trivial⟩

/-- The row of an event that a worker has in hand. -/
theorem Stage.Accounted.advances {k : Stage} {e row : Event} (h : k.Accounted m s calls)
    (he : e ∈ k.held) (hrow : s.get? e.id = some row) : e.Advances row := by
  obtain ⟨row', hrow', ha⟩ := h.held e he
  rw [hrow] at hrow'
  cases hrow'
  exact ha

/-- An answer leaves a worker with what is accounted for. -/
theorem Deed.stage_accounted {k k' : Stage} {call : Call} (hd : s.Distinct)
    (hk : k.Accounted m s calls) (h : Deed m s k call k' s') :
    k'.Accounted m s' (calls ++ [call]) := by
  have hs := h.advances
  have hc : calls ⊆ calls ++ [call] := List.subset_append_left _ _
  cases h with
  | noted k notice => exact hk.mono hs hc
  | fetched limit =>
    exact ⟨fun e he => ⟨e, hd.get?_of_mem_fetch he, .refl e⟩, trivial⟩
  | fetchRefused limit error => exact .of_held_eq_nil rfl trivial
  | accepted e batch hm =>
    exact ⟨(hk.mono hs hc).held, List.mem_append_right _ (List.mem_singleton_self _)⟩
  | rejected e batch error hm => exact ⟨(hk.mono hs hc).held, trivial⟩
  | published e row batch now hrow => exact (hk.mono hs hc).deal rfl
  | publishedRefused e batch error => exact (hk.mono hs hc).deal rfl
  | counted e row batch error hrow =>
    -- The answer is the new count, by which the worker knows whether that was once too often.
    split
    next hm =>
      refine ⟨(hk.mono hs hc).held, row.recordFailure error.reason, ?_, hm⟩
      rw [Store.get?_edit_self (Event.id_recordFailure · error.reason), hrow]
      rfl
    next => exact (hk.mono hs hc).deal rfl
  | countRefused e batch error error' => exact (hk.mono hs hc).deal rfl
  | abandoned e row batch k hk' hrow =>
    rcases hk' with rfl | ⟨rfl, _⟩ <;> exact (hk.mono hs hc).deal rfl
  | abandonRefused e batch k error hk' =>
    rcases hk' with rfl | ⟨rfl, _⟩ <;> exact (hk.mono hs hc).deal rfl

/-- An event about to be abandoned has failed often enough. -/
theorem Stage.Accounted.le_retryCount {k : Stage} {e row : Event} {batch : List Event}
    (h : k.Accounted m s calls) (hk : k.Abandons m e batch) (hrow : s.get? e.id = some row) :
    m ≤ row.retryCount := by
  -- Either the answer has said so, or it was so when the event was fetched, and counts only grow.
  rcases hk with rfl | ⟨rfl, hm⟩
  · obtain ⟨row', hrow', hm⟩ := h.learned
    rw [hrow] at hrow'
    cases hrow'
    exact hm
  · exact UInt32.le_trans hm (h.advances List.mem_cons_self hrow).2

theorem Event.accounted_recordPublished {row e : Event} (now : Instant)
    (he : (⟨.publish e, .ok ()⟩ : Call) ∈ calls)
    (hfacts : e.facts = row.facts) : (row.recordPublished now).Accounted m calls where
  published _ := ⟨e, he, hfacts⟩
  abandoned ha := by cases ha
  publishedAt := by
    refine iff_of_true ?_ rfl
    cases hp : row.publishedAt <;> simp [Event.recordPublished, hp]

theorem Event.Accounted.recordFailure {row : Event} (reason : String)
    (h : row.Accounted m calls) : (row.recordFailure reason).Accounted m calls where
  published := h.published
  abandoned ha := UInt32.le_trans (h.abandoned ha) (Event.le_nextCount _)
  publishedAt := h.publishedAt

theorem Event.Accounted.recordAbandoned {row : Event} (h : row.Accounted m calls)
    (hm : m ≤ row.retryCount) : row.recordAbandoned.Accounted m calls := by
  rw [Event.recordAbandoned]
  split
  next hp =>
    refine ⟨fun hs => (by cases hs), fun _ => hm, iff_of_false ?_ (by rintro ⟨⟩)⟩
    rw [h.publishedAt, hp]
    rintro ⟨⟩
  next => exact h

theorem Event.IsNew.accounted {e : Event} (h : e.IsNew) : e.Accounted m calls where
  published hp := by rw [h.1] at hp; cases hp
  abandoned ha := by rw [h.1] at ha; cases ha
  publishedAt := by rw [h.1, h.2]; exact iff_of_false (by simp) (by rintro ⟨⟩)

/-- All events of a store are accounted for. -/
def Store.Accounted (m : UInt32) (s : Store) (calls : List Call) : Prop :=
  ∀ id row, s.get? id = some row → row.Accounted m calls

theorem Store.Accounted.edit {id : Uuid} {f : Event → Event} (h : s.Accounted m calls)
    (hid : ∀ e, (f e).id = e.id) (hf : ∀ row, s.get? id = some row → (f row).Accounted m calls) :
    (s.edit id f).Accounted m calls := by
  intro id' row' hrow'
  rw [Store.get?_edit hid] at hrow'
  split at hrow'
  next =>
    obtain ⟨row, hrow, rfl⟩ := Option.map_eq_some_iff.1 hrow'
    exact hf row hrow
  next => exact h id' row' hrow'

theorem Deed.store_accounted {k k' : Stage} {call : Call} (hk : k.Accounted m s calls)
    (hs : s.Accounted m calls) (h : Deed m s k call k' s') :
    s'.Accounted m (calls ++ [call]) := by
  have hs : s.Accounted m (calls ++ [call]) :=
    fun id row hrow => (hs id row hrow).mono (List.subset_append_left _ _)
  cases h with
  | published e row batch now hrow =>
    -- The row may have moved on since the event was fetched, but its facts have not.
    refine hs.edit (fun _ => rfl) fun row hrow => Event.accounted_recordPublished now ?_
      (hk.advances List.mem_cons_self hrow).1.symm
    exact List.mem_append_left _ hk.learned
  | counted e row batch error hrow =>
    exact hs.edit (fun _ => rfl) fun row hrow => (hs e.id row hrow).recordFailure error.reason
  | abandoned e row batch k hk' hrow =>
    exact hs.edit Event.id_recordAbandoned fun row hrow =>
      (hs e.id row hrow).recordAbandoned (hk.le_retryCount hk' hrow)
  | _ => exact hs

/-- All that is in the outbox and in the hands of the workers is accounted for. -/
structure Board.Accounted (m : UInt32) (b : Board) : Prop where
  keeps : b.store.Keeps b.calls
  store : b.store.Accounted m b.calls
  stages : ∀ k ∈ b.stages, k.Accounted m b.store b.calls

theorem Board.accounted_start (m : UInt32) (size : Nat) : (Board.start size).Accounted m where
  keeps e he := by cases he
  store id row hrow := by cases hrow
  stages k hk := by
    rw [List.eq_of_mem_replicate hk]
    exact .of_held_eq_nil rfl trivial

/-- Every step keeps the accounts. -/
theorem Board.Step.accounted {b b' : Board} (hd : b.store.Distinct) (h : b.Accounted m)
    (hs : b.Step m Event.IsNew b') : b'.Accounted m := by
  have hkeeps := hs.keeps h.keeps
  cases hs with
  | stayed => exact h
  | began i limit hi =>
    refine ⟨hkeeps, h.store, ?_⟩
    intro k hk
    rcases List.mem_or_eq_of_mem_set hk with hk | rfl
    · exact h.stages k hk
    · exact .of_held_eq_nil rfl trivial
  | did i k k' call s hi hdeed =>
    have hk := h.stages k (List.mem_of_getElem? hi)
    refine ⟨hkeeps, hdeed.store_accounted hk h.store, ?_⟩
    intro k'' hk''
    rcases List.mem_or_eq_of_mem_set hk'' with hk'' | rfl
    · exact (h.stages k'' hk'').mono hdeed.advances (List.subset_append_left _ _)
    · exact hdeed.stage_accounted hd hk
  | stored batch hp hd' =>
    have hc := List.subset_append_left b.calls [⟨.outbox (.store batch), .ok ()⟩]
    refine ⟨hkeeps, ?_, ?_⟩
    · intro id row hrow
      rcases List.mem_append.1 (Store.mem_of_get? hrow) with hrow | hrow
      · exact (h.store _ row (hd.get?_of_mem hrow)).mono hc
      · exact (hp row hrow).accounted
    · intro k hk
      exact (h.stages k hk).mono (b.store.advances_append batch) hc
  | storeRefused batch error =>
    have hc := List.subset_append_left b.calls [⟨.outbox (.store batch), .error error⟩]
    refine ⟨hkeeps, fun id row hrow => (h.store id row hrow).mono hc, ?_⟩
    intro k hk
    exact (h.stages k hk).mono (.refl _) hc

/-! ### Main statement -/

/-- However workers that try equally often are interleaved, and whichever calls fail: every event
    that has been stored is still there with its facts, a published event has been accepted by the
    publisher, an abandoned one has failed as often as the workers try, and exactly the published
    ones have a time of publication. -/
theorem play_accounted {workers : List Worker} (hm : ∀ w ∈ workers, w.maxRetries = m)
    {turns : List Turn} (ht : ∀ t ∈ turns, t.Stores Event.IsNew) :
    let f := (Fleet.start workers).play turns
    (∀ e ∈ storedBy f.calls, ∃ row, f.store.get? e.id = some row ∧ row.facts = e.facts) ∧
      ∀ row ∈ f.store.events,
        (row.status = .published →
          ∃ e, (⟨.publish e, .ok ()⟩ : Call) ∈ f.calls ∧ e.facts = row.facts) ∧
        (row.status = .abandoned → m ≤ row.retryCount) ∧
        (row.publishedAt.isSome ↔ row.status = .published) := by
  obtain ⟨b, hshows, hd, hb⟩ := Fleet.play_keeps (Board.Accounted m)
    (fun b b' hd hb hs => hs.accounted hd hb) (Fleet.start_shows hm) Store.distinct_empty
    (Board.accounted_start m workers.length) ht
  have hkeeps := hb.keeps
  have hstore := hb.store
  rw [hshows.store, hshows.calls] at hkeeps hstore
  rw [hshows.store] at hd
  refine ⟨hkeeps, ?_⟩
  intro row hrow
  have h := hstore row.id row (hd.get?_of_mem hrow)
  exact ⟨h.published, h.abandoned, h.publishedAt⟩

/-- Of two rivals one has abandoned the event, and the other has published it all the same. -/
theorem play_accounted_rivalry :
    let f := (Fleet.start [rival, rival]).play rivalry
    f.store.events = [won] ∧
      ∃ e, (⟨.publish e, .ok ()⟩ : Call) ∈ f.calls ∧ e.facts = contested.facts := by
  have ht : ∀ t ∈ rivalry, t.Stores Event.IsNew := by
    simp [rivalry, Turn.Stores, Event.IsNew, contested]
  have hm : ∀ w ∈ [rival, rival], w.maxRetries = 1 := by decide
  obtain ⟨-, h⟩ := play_accounted hm ht
  have hmem : won ∈ ((Fleet.start [rival, rival]).play rivalry).store.events := by
    rw [play_rivalry]
    exact List.mem_singleton_self won
  exact ⟨play_rivalry, (h won hmem).1 rfl⟩

end Courier.Outbox
