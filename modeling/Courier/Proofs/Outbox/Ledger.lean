import Courier.Proofs.Outbox.Custody
import Courier.Proofs.Outbox.Fresh

/-!
# The ledger of a worker

A worker that has the outbox to itself keeps exact books. What it has in hand is in the outbox as it
was fetched, so that every answer of the publisher is followed by the mark that goes with it, and
what is missing in the outbox is exactly the marks that have failed.

* `Stage.Balanced`: the answers of the publisher against what the outbox says.
* `Deed.balanced`: every answer keeps the balance.
* `Board.Step.booked`, `Board.Step.frozen`: every step keeps the books, and leaves alone what is
  done with.
* `play_ledger`: the books between two ticks, and that an event is done with once it is published or
  abandoned.
-/

namespace Courier.Outbox

/-! ### Tallies -/

namespace Call

/-- Whether the publisher accepts an event in a call. -/
def accepts (id : Uuid) : Call → Bool
  | ⟨.publish e, .ok _⟩ => e.id = id
  | _ => false

/-- Whether the publisher rejects an event in a call. -/
def rejects (id : Uuid) : Call → Bool
  | ⟨.publish e, .error _⟩ => e.id = id
  | _ => false

/-- Whether a call fails to mark an event as published. -/
def missesPublication (id : Uuid) : Call → Bool
  | ⟨.outbox (.markPublished id'), .error _⟩ => id' = id
  | _ => false

/-- Whether a call fails to count a failure of an event. -/
def missesFailure (id : Uuid) : Call → Bool
  | ⟨.outbox (.markFailed id' _), .error _⟩ => id' = id
  | _ => false

/-- No tally of an event has a call that is not about it. -/
theorem not_tallied {id : Uuid} {call : Call} (h : call.subject? ≠ some id) :
    call.accepts id = false ∧ call.rejects id = false ∧ call.missesPublication id = false ∧
      call.missesFailure id = false := by
  refine ⟨?_, ?_, ?_, ?_⟩
  · unfold accepts; split <;> simp_all [subject?]
  · unfold rejects; split <;> simp_all [subject?]
  · unfold missesPublication; split <;> simp_all [subject?]
  · unfold missesFailure; split <;> simp_all [subject?]

end Call

variable {m : UInt32} {s s' : Store} {k k' : Stage} {calls : List Call} {call : Call}
  {e : Event} {batch : List Event} {id : Uuid}

/-! ### The balance -/

/-- Whether an event has been accepted by the publisher and is now to be marked. -/
def Stage.isAccepted (id : Uuid) : Stage → Bool
  | accepted e _ => e.id = id
  | _ => false

/-- Whether an event has been rejected by the publisher and the failure is now to be counted. -/
def Stage.isRejected (id : Uuid) : Stage → Bool
  | rejected e _ _ => e.id = id
  | _ => false

/-- The books of an event that was stored with so many failures. -/
structure Stage.Balanced (calls : List Call) (id : Uuid) (retries : Nat) (row : Event)
    (k : Stage) : Prop where
  /-- What has been accepted is published, could not be marked, or is to be marked. -/
  accepted : calls.countP (·.accepts id) =
    calls.countP (·.missesPublication id) + (if row.status = .published then 1 else 0) +
      (k.isAccepted id).toNat
  /-- What has been rejected is counted, could not be counted, or is to be counted. -/
  rejected : row.retryCount.toNat + calls.countP (·.missesFailure id) + (k.isRejected id).toNat =
    retries + calls.countP (·.rejects id)

/-- The books are kept by a call that keeps its own: what it adds to one side, it adds to the
    other. -/
theorem Stage.Balanced.next {retries : Nat} {row row' : Event}
    (hb : k.Balanced calls id retries row)
    (ha : (call.missesPublication id).toNat + (if row'.status = .published then 1 else 0) +
        (k'.isAccepted id).toNat =
      (if row.status = .published then 1 else 0) + (k.isAccepted id).toNat +
        (call.accepts id).toNat)
    (hr : row'.retryCount.toNat + (call.missesFailure id).toNat + (k'.isRejected id).toNat =
      row.retryCount.toNat + (k.isRejected id).toNat + (call.rejects id).toNat) :
    k'.Balanced (calls ++ [call]) id retries row' := by
  have hcount (p : Call → Bool) : (calls ++ [call]).countP p = calls.countP p + (p call).toNat := by
    rw [List.countP_append, List.countP_singleton]
    cases p call <;> rfl
  have h₁ := hb.accepted
  have h₂ := hb.rejected
  constructor
  · rw [hcount, hcount]
    omega
  · rw [hcount, hcount]
    omega

/-- A call about other events leaves an event and its place in hand as they are. -/
theorem Deed.frame (h : Deed m s k call k' s') (hid : call.subject? ≠ some id) :
    s'.get? id = s.get? id ∧ k'.isAccepted id = k.isAccepted id ∧
      k'.isRejected id = k.isRejected id := by
  cases h with
  | noted k notice => exact ⟨rfl, rfl, rfl⟩
  | fetched limit => exact ⟨rfl, rfl, rfl⟩
  | fetchRefused limit error => exact ⟨rfl, rfl, rfl⟩
  | accepted e batch hm =>
    have hne : e.id ≠ id := fun h => hid (congrArg some h)
    exact ⟨rfl, by simp [Stage.isAccepted, hne], rfl⟩
  | rejected e batch error hm =>
    have hne : e.id ≠ id := fun h => hid (congrArg some h)
    exact ⟨rfl, rfl, by simp [Stage.isRejected, hne]⟩
  | published e row batch now hrow =>
    have hne : e.id ≠ id := fun h => hid (congrArg some h)
    exact ⟨Store.get?_edit_of_ne (fun _ => rfl) hne, by simp [Stage.isAccepted, hne], rfl⟩
  | publishedRefused e batch error =>
    have hne : e.id ≠ id := fun h => hid (congrArg some h)
    exact ⟨rfl, by simp [Stage.isAccepted, hne], rfl⟩
  | counted e row batch error hrow =>
    have hne : e.id ≠ id := fun h => hid (congrArg some h)
    refine ⟨Store.get?_edit_of_ne (fun _ => rfl) hne, ?_, ?_⟩
    · split <;> rfl
    · split <;> simp [Stage.isRejected, hne]
  | countRefused e batch error error' =>
    have hne : e.id ≠ id := fun h => hid (congrArg some h)
    exact ⟨rfl, rfl, by simp [Stage.isRejected, hne]⟩
  | abandoned e row batch k hk hrow =>
    have hne : e.id ≠ id := fun h => hid (congrArg some h)
    refine ⟨Store.get?_edit_of_ne Event.id_recordAbandoned hne, ?_⟩
    rcases hk with rfl | ⟨rfl, _⟩ <;> exact ⟨rfl, rfl⟩
  | abandonRefused e batch k error hk =>
    refine ⟨rfl, ?_⟩
    rcases hk with rfl | ⟨rfl, _⟩ <;> exact ⟨rfl, rfl⟩

/-- An event that has not yet failed too often counts one more failure. -/
theorem Event.toNat_nextCount_of_lt {n : UInt32} (h : n < m) :
    (Event.nextCount n).toNat = n.toNat + 1 := by
  have := m.toNat_lt
  rw [UInt32.lt_iff_toNat_lt] at h
  rw [Event.toNat_nextCount]
  omega

/-- An answer about an event keeps its books. -/
theorem Deed.balanced_self {retries : Nat} {row : Event} (hk : k.Current m s)
    (hrow : s.get? id = some row) (hb : k.Balanced calls id retries row)
    (h : Deed m s k call k' s') (hid : call.subject? = some id) :
    ∃ row', s'.get? id = some row' ∧ k'.Balanced (calls ++ [call]) id retries row' := by
  cases h with
  | noted k notice => cases hid
  | fetched limit => cases hid
  | fetchRefused limit error => cases hid
  | accepted e batch hm =>
    cases hid
    exact ⟨row, hrow, hb.next (by simp [Call.accepts, Call.missesPublication, Stage.isAccepted])
      (by simp [Call.rejects, Call.missesFailure, Stage.isRejected])⟩
  | rejected e batch error hm =>
    cases hid
    exact ⟨row, hrow, hb.next (by simp [Call.accepts, Call.missesPublication, Stage.isAccepted])
      (by simp [Call.rejects, Call.missesFailure, Stage.isRejected])⟩
  | published e row' batch now hrow' =>
    cases hid
    -- Nobody else has changed the row: it is the event as it was fetched, and still pending.
    obtain rfl : row = e := Option.some.inj (hrow.symm.trans hk.1.head.1)
    refine ⟨row.recordPublished now, ?_, hb.next ?_ ?_⟩
    · rw [Store.get?_edit_self (Event.id_recordPublished · now), hrow]
      rfl
    · simp [Call.accepts, Call.missesPublication, Stage.isAccepted, hk.1.head.2]
    · simp [Call.rejects, Call.missesFailure, Stage.isRejected]
  | publishedRefused e batch error =>
    cases hid
    refine ⟨row, hrow, hb.next ?_ ?_⟩
    · simp [Call.accepts, Call.missesPublication, Stage.isAccepted, Nat.add_comm]
    · simp [Call.rejects, Call.missesFailure, Stage.isRejected]
  | counted e row' batch error hrow' =>
    cases hid
    -- The count is still below the ceiling, so that adding one does not saturate.
    obtain rfl : row = e := Option.some.inj (hrow.symm.trans hk.1.head.1)
    refine ⟨row.recordFailure error.reason, ?_, hb.next ?_ ?_⟩
    · rw [Store.get?_edit_self (Event.id_recordFailure · error.reason), hrow]
      rfl
    · have ha (c : UInt32) : Stage.isAccepted row.id
          (if m ≤ c then .exhausted row batch else .dealing batch) = false := by
        split <;> rfl
      rw [ha, Event.status_recordFailure]
      simp [Call.accepts, Call.missesPublication, Stage.isAccepted]
    · have hr (c : UInt32) : Stage.isRejected row.id
          (if m ≤ c then .exhausted row batch else .dealing batch) = false := by
        split <;> rfl
      rw [hr, Event.retryCount_recordFailure, Event.toNat_nextCount_of_lt hk.2]
      simp [Call.rejects, Call.missesFailure, Stage.isRejected]
  | countRefused e batch error error' =>
    cases hid
    refine ⟨row, hrow, hb.next ?_ ?_⟩
    · simp [Call.accepts, Call.missesPublication, Stage.isAccepted]
    · simp [Call.rejects, Call.missesFailure, Stage.isRejected]
  | abandoned e row' batch k hk' hrow' =>
    cases hid
    refine ⟨row.recordAbandoned, ?_, hb.next ?_ ?_⟩
    · rw [Store.get?_edit_self Event.id_recordAbandoned, hrow]
      rfl
    · rcases hk' with rfl | ⟨rfl, _⟩ <;>
        simp [Call.accepts, Call.missesPublication, Stage.isAccepted]
    · rcases hk' with rfl | ⟨rfl, _⟩ <;>
        simp [Call.rejects, Call.missesFailure, Stage.isRejected]
  | abandonRefused e batch k error hk' =>
    cases hid
    refine ⟨row, hrow, hb.next ?_ ?_⟩
    · rcases hk' with rfl | ⟨rfl, _⟩ <;>
        simp [Call.accepts, Call.missesPublication, Stage.isAccepted]
    · rcases hk' with rfl | ⟨rfl, _⟩ <;>
        simp [Call.rejects, Call.missesFailure, Stage.isRejected]

/-- Every answer keeps the books of every event. -/
theorem Deed.balanced {retries : Nat} {row : Event} (hk : k.Current m s)
    (hrow : s.get? id = some row) (hb : k.Balanced calls id retries row)
    (h : Deed m s k call k' s') :
    ∃ row', s'.get? id = some row' ∧ k'.Balanced (calls ++ [call]) id retries row' := by
  by_cases hid : call.subject? = some id
  · exact h.balanced_self hk hrow hb hid
  · obtain ⟨hget, ha, hr⟩ := h.frame hid
    obtain ⟨h₁, h₂, h₃, h₄⟩ := Call.not_tallied hid
    refine ⟨row, hget.trans hrow, hb.next ?_ ?_⟩
    · simp [h₁, h₃, ha]
    · simp [h₂, h₄, hr]

/-- An event that is not in the outbox has not been accepted or rejected. -/
theorem Stage.Current.of_get?_eq_none (h : k.Current m s) (hid : s.get? id = none) :
    k.isAccepted id = false ∧ k.isRejected id = false := by
  have hne {e : Event} {batch : List Event} (hb : s.Fresh (e :: batch)) : e.id ≠ id := by
    rintro rfl
    rw [hb.head.1] at hid
    cases hid
  cases k with
  | accepted e batch => exact ⟨by simp [isAccepted, hne h.1], rfl⟩
  | rejected e error batch => exact ⟨rfl, by simp [isRejected, hne h.1]⟩
  | _ => exact ⟨rfl, rfl⟩

/-! ### The books of the worker -/

/-- A call that is about no event keeps the books of all. -/
theorem Stage.Balanced.skip {retries : Nat} {row : Event} (hb : k.Balanced calls id retries row)
    (hc : call.subject? = none) : k.Balanced (calls ++ [call]) id retries row := by
  have hne : call.subject? ≠ some id := by
    rw [hc]
    rintro ⟨⟩
  obtain ⟨h₁, h₂, h₃, h₄⟩ := Call.not_tallied hne
  exact hb.next (by simp [h₁, h₃]) (by simp [h₂, h₄])

/-- The books of an event are in order when nothing has been asked about it. -/
theorem Stage.balanced_of_silent (hs : ∀ call ∈ calls, call.subject? ≠ some e.id)
    (hk : k.isAccepted e.id = false ∧ k.isRejected e.id = false) (he : e.status = .pending) :
    k.Balanced calls e.id e.retryCount.toNat e := by
  have hzero {p : Call → Bool} (hp : ∀ call, call.subject? ≠ some e.id → p call = false) :
      calls.countP p = 0 :=
    List.countP_eq_zero.2 fun call hc => by simp [hp call (hs call hc)]
  constructor
  · rw [hzero fun _ h => (Call.not_tallied h).1, hzero fun _ h => (Call.not_tallied h).2.2.1,
      hk.1, he]
    rfl
  · rw [hzero fun _ h => (Call.not_tallied h).2.1, hzero fun _ h => (Call.not_tallied h).2.2.2,
      hk.2]
    rfl

/-- What holds of a worker that has the outbox to itself. -/
structure Board.Booked (m : UInt32) (b : Board) (k : Stage) : Prop where
  stages : b.stages = [k]
  current : k.Current m b.store
  silent : b.store.Silent b.calls
  balanced : ∀ e ∈ storedBy b.calls, ∃ row, b.store.get? e.id = some row ∧
    k.Balanced b.calls e.id e.retryCount.toNat row

theorem Board.booked_start (m : UInt32) : (Board.start 1).Booked m (.dealing []) where
  stages := rfl
  current := .nil _
  silent _ _ _ hc := absurd hc List.not_mem_nil
  balanced _ he := absurd he List.not_mem_nil

theorem Board.Booked.of_getElem? {b : Board} (h : b.Booked m k) {i : Nat}
    (hi : b.stages[i]? = some k') : i = 0 ∧ k' = k := by
  rw [h.stages] at hi
  cases i with
  | zero => exact ⟨rfl, (Option.some.inj hi).symm⟩
  | succ i => cases hi

/-- Every step keeps the books. -/
theorem Board.Step.booked {b b' : Board} (hd : b.store.Distinct) (h : b.Booked m k)
    (hs : b.Step m (·.status = .pending) b') : ∃ k', b'.Booked m k' := by
  cases hs with
  | stayed => exact ⟨k, h⟩
  | began i limit hi =>
    obtain ⟨rfl, rfl⟩ := h.of_getElem? hi
    refine ⟨.ready limit, by rw [h.stages]; rfl, trivial, h.silent, fun e he => ?_⟩
    obtain ⟨row, hrow, hb⟩ := h.balanced e he
    exact ⟨row, hrow, hb.accepted, hb.rejected⟩
  | did i k₀ k' call s hi hdeed =>
    obtain ⟨rfl, rfl⟩ := h.of_getElem? hi
    refine ⟨k', by rw [h.stages]; rfl, hdeed.current hd h.current,
      h.silent.append (fun _ => hdeed.advances.get?_eq_none) fun id hid => ?_, fun e he => ?_⟩
    · obtain ⟨e, he, rfl⟩ := hdeed.exists_held hid
      obtain ⟨row, hrow, _⟩ := h.current.pending e he
      rw [hrow]
      rintro ⟨⟩
    · rw [storedBy_append, hdeed.stored_eq_nil, List.append_nil] at he
      obtain ⟨row, hrow, hb⟩ := h.balanced e he
      exact hdeed.balanced h.current hrow hb
  | stored batch hp hd' =>
    refine ⟨k, h.stages, h.current.append batch,
      h.silent.append (fun id hid => ?_) (fun id hid => by cases hid), fun e he => ?_⟩
    · rw [Store.get?_append] at hid
      exact (Option.or_eq_none_iff.1 hid).1
    · rw [storedBy_append] at he
      rcases List.mem_append.1 he with he | he
      · obtain ⟨row, hrow, hb⟩ := h.balanced e he
        exact ⟨row, Store.get?_append_of_some hrow, hb.skip rfl⟩
      · -- A new event: no call so far can have been about it.
        have hid := Store.get?_eq_none_of_mem hd' he
        refine ⟨e, hd'.get?_of_mem (List.mem_append_right _ he), ?_⟩
        exact (Stage.balanced_of_silent (h.silent e.id hid) (h.current.of_get?_eq_none hid)
          (hp e he)).skip rfl
  | storeRefused batch error =>
    refine ⟨k, h.stages, h.current, h.silent.append (fun _ hid => hid) (fun id hid => by cases hid),
      fun e he => ?_⟩
    rw [storedBy_append, show Call.stored _ = [] from rfl, List.append_nil] at he
    obtain ⟨row, hrow, hb⟩ := h.balanced e he
    exact ⟨row, hrow, hb.skip rfl⟩

/-- No step asks about an event that is published or abandoned, or changes it. -/
theorem Board.Step.frozen {b b' : Board} {p : Event → Prop} (h : b.Booked m k)
    (hs : b.Step m p b') {row : Event} (hrow : b.store.get? id = some row)
    (hp : row.status ≠ .pending) :
    b'.store.get? id = some row ∧
      b'.calls.countP (·.1.publishes id) = b.calls.countP (·.1.publishes id) := by
  have hcount {call : Call} (hc : call.subject? ≠ some id) :
      (b.calls ++ [call]).countP (·.1.publishes id) = b.calls.countP (·.1.publishes id) := by
    rw [List.countP_append, List.countP_singleton, Call.publishes_of_subject?_ne hc]
    rfl
  cases hs with
  | stayed => exact ⟨hrow, rfl⟩
  | began i limit hi => exact ⟨hrow, rfl⟩
  | did i k₀ k' call s hi hdeed =>
    obtain ⟨rfl, rfl⟩ := h.of_getElem? hi
    -- All that the worker asks about is pending.
    have hc : call.subject? ≠ some id := by
      intro hid
      obtain ⟨e, he, rfl⟩ := hdeed.exists_held hid
      obtain ⟨row', hrow', hp'⟩ := h.current.pending e he
      rw [hrow] at hrow'
      cases hrow'
      exact hp hp'
    exact ⟨(hdeed.frame hc).1.trans hrow, hcount hc⟩
  | stored batch hb hd => exact ⟨Store.get?_append_of_some hrow, hcount (by rintro ⟨⟩)⟩
  | storeRefused batch error => exact ⟨hrow, hcount (by rintro ⟨⟩)⟩

/-- A worker that keeps its books does not ask to publish an event that is published or
    abandoned. -/
theorem Fleet.Shows.countP_asked {f : Fleet} {b : Board} (h : f.Shows m b) (hb : b.Booked m k)
    {row : Event} (hrow : b.store.get? id = some row) (hp : row.status ≠ .pending) :
    f.asked.countP (Request.publishes id) = b.calls.countP (·.1.publishes id) := by
  have hzero : (f.members.filterMap (·.rest.question?)).countP (Request.publishes id) = 0 := by
    refine List.countP_eq_zero.2 ?_
    intro q hq hpub
    obtain ⟨member, hmember, hq⟩ := List.mem_filterMap.1 hq
    obtain ⟨i, k', hk, hallows⟩ := h.allows hmember hq
    obtain ⟨rfl, rfl⟩ := hb.of_getElem? hk
    cases q with
    | publish e =>
      obtain ⟨batch, rfl, _⟩ := hallows.of_publish
      have hid : e.id = id := by simpa [Request.publishes] using hpub
      obtain ⟨hrow', hp'⟩ := hb.current.head
      rw [hid, hrow] at hrow'
      cases hrow'
      exact hp hp'
    | _ => cases hpub
  rw [asked, List.countP_append, hzero, List.countP_map, h.calls]
  rfl

/-! ### Main statement -/

/-- A worker that has the outbox to itself, whatever the publisher answers and whichever calls fail.
    Between two ticks, an event has been accepted as often as it could not be marked as published,
    and once more if it is published; and its count of failures has grown by one for each rejection,
    but for those that could not be counted. An event that is published or abandoned is not asked
    about again, and stays as it is. -/
theorem play_ledger (w : Worker) {turns : List Turn}
    (ht : ∀ t ∈ turns, t.Stores (·.status = .pending)) :
    let f := (Fleet.start [w]).play turns
    ∀ e ∈ storedBy f.calls, ∃ row, f.store.get? e.id = some row ∧
      (f.IsResting →
        f.calls.countP (·.accepts e.id) =
            f.calls.countP (·.missesPublication e.id) +
              (if row.status = .published then 1 else 0) ∧
          row.retryCount.toNat + f.calls.countP (·.missesFailure e.id) =
            e.retryCount.toNat + f.calls.countP (·.rejects e.id)) ∧
      (row.status ≠ .pending →
        ∀ turns' : List Turn, (∀ t ∈ turns', t.Stores (·.status = .pending)) →
          (f.play turns').store.get? e.id = some row ∧
            (f.play turns').asked.countP (Request.publishes e.id) =
              f.asked.countP (Request.publishes e.id)) := by
  obtain ⟨b, hshows, hd, k, hb⟩ := Fleet.play_keeps (fun b => ∃ k, b.Booked w.maxRetries k)
    (fun b b' hd ⟨k, hb⟩ hs => hs.booked hd hb)
    (Fleet.start_shows (List.forall_mem_singleton.2 rfl)) Store.distinct_empty
    ⟨_, Board.booked_start w.maxRetries⟩ ht
  intro f e he
  rw [← hshows.calls] at he
  obtain ⟨row, hrow, hbal⟩ := hb.balanced e he
  refine ⟨row, by rw [← hshows.store]; exact hrow, fun hrest => ?_, fun hp turns' ht' => ?_⟩
  · have hk : k = .dealing [] := hshows.eq_dealing_nil (i := 0) hrest (by rw [hb.stages]; rfl)
    subst hk
    rw [← hshows.calls]
    exact ⟨hbal.accepted, hbal.rejected⟩
  · obtain ⟨b', hshows', -, ⟨k', hb'⟩, hrow', hcount⟩ := Fleet.play_keeps
      (fun b' => (∃ k, b'.Booked w.maxRetries k) ∧ b'.store.get? e.id = some row ∧
        b'.calls.countP (·.1.publishes e.id) = b.calls.countP (·.1.publishes e.id))
      (fun b₁ b₂ hd ⟨⟨k, hb⟩, hrow, hcount⟩ hs =>
        have h := hs.frozen hb hrow hp
        ⟨hs.booked hd hb, h.1, h.2.trans hcount⟩)
      hshows hd ⟨⟨k, hb⟩, hrow, rfl⟩ ht'
    rw [hshows.countP_asked hb hrow hp, hshows'.countP_asked hb' hrow' hp, ← hshows'.store]
    exact ⟨hrow', hcount⟩

/-- A worker meets with setbacks: an event is rejected and the failure cannot be counted, then it is
    accepted and cannot be marked, and then it is published. -/
def setbacks : List Turn :=
  let ok : Turn := .answer 0 (.perform ⟨2⟩)
  let fail : Turn := .answer 0 (.refuse (.bus "down"))
  [.store [contested] (.perform ⟨1⟩), .tick 0, ok, fail, ok, fail, ok, ok,
    .tick 0, ok, ok, fail, ok, ok, .tick 0, ok, ok, ok, ok]

/-- After the setbacks the books are in order: two acceptances for one mark that is missing, one
    rejection that has not been counted. In its next tick the worker leaves the event alone. -/
theorem play_ledger_setbacks :
    let f := (Fleet.start [rival]).play setbacks
    let f' := f.play [.tick 0, .answer 0 (.perform ⟨3⟩)]
    f.IsResting ∧ f.calls.countP (·.accepts .nil) = 2 ∧ f.calls.countP (·.rejects .nil) = 1 ∧
      ∃ row, f.store.get? .nil = some row ∧ row.status = .published ∧
        2 = f.calls.countP (·.missesPublication .nil) + 1 ∧
        row.retryCount.toNat + f.calls.countP (·.missesFailure .nil) = 1 ∧
        f'.store.get? .nil = some row ∧
        f'.asked.countP (Request.publishes .nil) = f.asked.countP (Request.publishes .nil) := by
  have hrest : ((Fleet.start [rival]).play setbacks).IsResting := by
    rw [Fleet.IsResting]
    decide +kernel
  have hcounts : ((Fleet.start [rival]).play setbacks).calls.countP (·.accepts .nil) = 2 ∧
      ((Fleet.start [rival]).play setbacks).calls.countP (·.rejects .nil) = 1 := by
    decide +kernel
  have hstored : contested ∈ storedBy ((Fleet.start [rival]).play setbacks).calls := by
    decide +kernel
  have hstatus : (((Fleet.start [rival]).play setbacks).store.get? .nil).map (·.status) =
      some .published := by
    decide +kernel
  have ht : ∀ t ∈ setbacks, t.Stores (·.status = .pending) := by
    simp [setbacks, Turn.Stores, contested]
  obtain ⟨row, hrow, hbooks, hdone⟩ := play_ledger rival ht contested hstored
  have hrow : ((Fleet.start [rival]).play setbacks).store.get? .nil = some row := hrow
  rw [hrow] at hstatus
  have hp : row.status = .published := Option.some.inj hstatus
  obtain ⟨ha, hr⟩ := hbooks hrest
  rw [if_pos hp] at ha
  obtain ⟨hrow', hcount⟩ := hdone (by rw [hp]; rintro ⟨⟩) [.tick 0, .answer 0 (.perform ⟨3⟩)]
    (by simp [Turn.Stores])
  exact ⟨hrest, hcounts.1, hcounts.2, row, hrow, hp, hcounts.1.symm.trans ha,
    hr.trans (by rw [show contested.id = .nil from rfl, hcounts.2]; rfl), hrow', hcount⟩

end Courier.Outbox
