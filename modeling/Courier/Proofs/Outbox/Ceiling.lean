import Courier.Proofs.Outbox.Custody
import Mathlib.Data.Bool.Basic

/-!
# The ceiling on failures

A worker compares the count of failures of an event with its ceiling as it was when it fetched the
event, while a failure is added to the count as it is by then. So the count can pass the ceiling,
but not by much: once it has come so far nobody fetches the event as one that may be tried, and each
of the workers can have it in hand as such at most once.

* `Stage.isDue`: a worker has an event in hand that it may yet count as failed.
* `Board.Within`: the count of failures against the ceiling and the workers for which it is due.
* `Board.Step.capped`: every step keeps the bound.
* `play_ceiling`: the bound for every sequence of turns.
-/

namespace Courier.Outbox

variable {m : UInt32} {s s' : Store} {k k' : Stage} {call : Call} {id : Uuid} {row : Event}

/-! ### Due events -/

namespace Stage

/-- The events that a worker may yet publish or count as failed. -/
def due : Stage → List Event
  | ready _ => []
  | dealing batch | accepted _ batch | exhausted _ batch => batch
  | rejected e _ batch => e :: batch

/-- Whether a worker may yet count a failure of an event that it has fetched below the ceiling. -/
def isDue (m : UInt32) (id : Uuid) (k : Stage) : Bool :=
  k.due.any fun e => e.id = id ∧ e.retryCount < m

theorem isDue_iff : k.isDue m id ↔ ∃ e ∈ k.due, e.id = id ∧ e.retryCount < m := by
  simp [isDue]

theorem isDue_mono (h : k'.due ⊆ k.due) (hk : k'.isDue m id) : k.isDue m id := by
  rw [isDue_iff] at hk ⊢
  obtain ⟨e, he, hid⟩ := hk
  exact ⟨e, h he, hid⟩

theorem due_subset_held (k : Stage) : k.due ⊆ k.held := by
  cases k with
  | accepted e batch => exact List.subset_cons_self e batch
  | exhausted e batch => exact List.subset_cons_self e batch
  | _ => exact List.Subset.refl _

/-- What a worker has in hand is different events of the outbox, and it has tried none that has
    failed too often. -/
structure Orderly (m : UInt32) (s : Store) (k : Stage) : Prop where
  nodup : (k.held.map (·.id)).Nodup
  stored : ∀ e ∈ k.held, s.get? e.id ≠ none
  tried : ∀ e error batch, k = rejected e error batch → e.retryCount < m

theorem Orderly.of_held_eq_nil (h : k.held = []) : k.Orderly m s where
  nodup := by rw [h]; exact List.nodup_nil
  stored e he := by rw [h] at he; cases he
  tried e error batch hk := by rw [hk] at h; cases h

theorem Orderly.advance (h : k.Orderly m s) (hs : s.Advances s') : k.Orderly m s' where
  nodup := h.nodup
  stored e he := by
    obtain ⟨row, hrow⟩ := Option.ne_none_iff_exists'.1 (h.stored e he)
    obtain ⟨row', hrow', _⟩ := hs _ row hrow
    rw [hrow']
    rintro ⟨⟩
  tried := h.tried

/-- What is left in hand after the first event has been dealt with. -/
theorem Orderly.deal {e : Event} {batch : List Event} (h : k.Orderly m s)
    (hk : k.held = e :: batch) : (dealing batch).Orderly m s where
  nodup := by
    have := h.nodup
    rw [hk] at this
    exact (List.nodup_cons.1 this).2
  stored e' he' := h.stored e' (by rw [hk]; exact List.mem_cons_of_mem e he')
  tried _ _ _ hk := by cases hk

/-- What a worker has in hand while it deals with its first event. -/
theorem Orderly.of_held_eq (h : k.Orderly m s) (hk : k'.held = k.held)
    (ht : ∀ e error batch, k' = rejected e error batch → e.retryCount < m) : k'.Orderly m s where
  nodup := by rw [hk]; exact h.nodup
  stored := by rw [hk]; exact h.stored
  tried := ht

end Stage

theorem Deed.orderly (hd : s.Distinct) (hk : k.Orderly m s) (h : Deed m s k call k' s') :
    k'.Orderly m s' := by
  have hs := h.advances
  cases h with
  | noted k notice => exact hk
  | fetched limit =>
    refine ⟨hd.nodup_fetch, fun e he => ?_, by rintro _ _ _ ⟨⟩⟩
    rw [hd.get?_of_mem_fetch he]
    rintro ⟨⟩
  | fetchRefused limit error => exact .of_held_eq_nil rfl
  | accepted e batch hm => exact hk.of_held_eq rfl (by rintro _ _ _ ⟨⟩)
  | rejected e batch error hm => exact hk.of_held_eq rfl (by rintro _ _ _ ⟨⟩; exact hm)
  | published e row batch now hrow => exact (hk.advance hs).deal rfl
  | publishedRefused e batch error => exact hk.deal rfl
  | counted e row batch error hrow =>
    split
    · exact (hk.advance hs).of_held_eq rfl (by rintro _ _ _ ⟨⟩)
    · exact (hk.advance hs).deal rfl
  | countRefused e batch error error' => exact hk.deal rfl
  | abandoned e row batch k hk' hrow =>
    rcases hk' with rfl | ⟨rfl, _⟩ <;> exact (hk.advance hs).deal rfl
  | abandonRefused e batch k error hk' =>
    rcases hk' with rfl | ⟨rfl, _⟩ <;> exact hk.deal rfl

/-- An answer counts a failure of an event only for a worker for which it was due, and is not any
    more. Only events below the ceiling become due. -/
theorem Deed.due (hd : s.Distinct) (hk : k.Orderly m s) (h : Deed m s k call k' s')
    (hrow : s.get? id = some row) :
    ∃ row', s'.get? id = some row' ∧
      (row'.retryCount = row.retryCount ∧
          (k'.isDue m id → k.isDue m id ∨ row.retryCount < m) ∨
        row'.retryCount = Event.nextCount row.retryCount ∧ k.isDue m id ∧ ¬ k'.isDue m id) := by
  -- A change that counts no failure.
  have hedit (id' : Uuid) {f : Event → Event} (hid : ∀ e, (f e).id = e.id)
      (hf : ∀ e, (f e).retryCount = e.retryCount) :
      ∃ row', (s.edit id' f).get? id = some row' ∧ row'.retryCount = row.retryCount := by
    rw [Store.get?_edit hid]
    split
    next h =>
      subst h
      rw [hrow]
      exact ⟨f row, rfl, hf row⟩
    next => exact ⟨row, hrow, rfl⟩
  cases h with
  | noted k notice => exact ⟨row, hrow, .inl ⟨rfl, .inl⟩⟩
  | fetched limit =>
    -- What has just been fetched is as it is in the outbox.
    refine ⟨row, hrow, .inl ⟨rfl, fun hk' => .inr ?_⟩⟩
    obtain ⟨e, he, rfl, hm⟩ := Stage.isDue_iff.1 hk'
    have hrow' := hd.get?_of_mem_fetch he
    rw [hrow] at hrow'
    cases hrow'
    exact hm
  | fetchRefused limit error => exact ⟨row, hrow, .inl ⟨rfl, fun h => by cases h⟩⟩
  | accepted e batch hm =>
    exact ⟨row, hrow, .inl ⟨rfl, .inl ∘ Stage.isDue_mono (List.subset_cons_self e batch)⟩⟩
  | rejected e batch error hm => exact ⟨row, hrow, .inl ⟨rfl, .inl⟩⟩
  | published e row' batch now hrow' =>
    obtain ⟨row'', hrow'', hcount⟩ := hedit e.id (Event.id_recordPublished · now) fun _ => rfl
    exact ⟨row'', hrow'', .inl ⟨hcount, .inl⟩⟩
  | publishedRefused e batch error => exact ⟨row, hrow, .inl ⟨rfl, .inl⟩⟩
  | counted e row' batch error hrow' =>
    have hdue : Stage.due (if m ≤ Event.nextCount row'.retryCount then .exhausted e batch
        else .dealing batch) = batch := by
      split <;> rfl
    have hsub : Stage.due (if m ≤ Event.nextCount row'.retryCount then .exhausted e batch
        else .dealing batch) ⊆ (Stage.rejected e error batch).due := by
      rw [hdue]
      exact List.subset_cons_self e batch
    by_cases hid : e.id = id
    · subst hid
      refine ⟨row.recordFailure error.reason, ?_, .inr ⟨rfl, ?_, ?_⟩⟩
      · rw [Store.get?_edit_self (Event.id_recordFailure · error.reason), hrow]
        rfl
      · exact Stage.isDue_iff.2 ⟨e, List.mem_cons_self, rfl, hk.tried e error batch rfl⟩
      · -- No other event of the batch has the same identifier.
        intro hk'
        obtain ⟨e', he', hid', _⟩ := Stage.isDue_iff.1 hk'
        rw [hdue] at he'
        exact (List.nodup_cons.1 hk.nodup).1 (List.mem_map.2 ⟨e', he', hid'⟩)
    · refine ⟨row, ?_, .inl ⟨rfl, .inl ∘ Stage.isDue_mono hsub⟩⟩
      rw [Store.get?_edit_of_ne (Event.id_recordFailure · error.reason) hid, hrow]
  | countRefused e batch error error' =>
    exact ⟨row, hrow, .inl ⟨rfl, .inl ∘ Stage.isDue_mono (List.subset_cons_self e batch)⟩⟩
  | abandoned e row' batch k hk' hrow' =>
    obtain ⟨row'', hrow'', hcount⟩ := hedit e.id Event.id_recordAbandoned
      Event.retryCount_recordAbandoned
    refine ⟨row'', hrow'', .inl ⟨hcount, .inl ∘ Stage.isDue_mono ?_⟩⟩
    rcases hk' with rfl | ⟨rfl, _⟩
    · exact List.Subset.refl _
    · exact List.subset_cons_self e batch
  | abandonRefused e batch k error hk' =>
    refine ⟨row, hrow, .inl ⟨rfl, .inl ∘ Stage.isDue_mono ?_⟩⟩
    rcases hk' with rfl | ⟨rfl, _⟩
    · exact List.Subset.refl _
    · exact List.subset_cons_self e batch

/-! ### The bound -/

/-- For how many workers a failure of an event may yet be counted. -/
def Board.due (m : UInt32) (id : Uuid) (b : Board) : Nat := b.stages.countP (·.isDue m id)

/-- The count of failures of an event that was stored with so many of them. -/
structure Board.Within (m : UInt32) (id : Uuid) (retries : UInt32) (b : Board) (row : Event) :
    Prop where
  /-- Once the count has reached the ceiling, it grows by what is due and no more. -/
  below : retries < m →
    row.retryCount < m ∨ row.retryCount.toNat + b.due m id < m.toNat + b.stages.length
  /-- An event that was stored with as many failures is never tried. -/
  above : m ≤ retries → row.retryCount = retries ∧ b.due m id = 0 ∧
    b.calls.countP (·.1.publishes id) = 0

theorem Board.Within.le {retries : UInt32} {b : Board} (h : b.Within m id retries row) :
    row.retryCount.toNat ≤ max retries.toNat (m.toNat + b.stages.length - 1) := by
  by_cases hm : retries < m
  · have hlt := h.below hm
    rw [UInt32.lt_iff_toNat_lt] at hlt
    omega
  · rw [(h.above (UInt32.not_lt.1 hm)).1]
    exact Nat.le_max_left _ _

/-- What one worker does changes for how many an event is due by what it changes for that one. -/
theorem Board.due_set {b : Board} {i : Nat} (hi : b.stages[i]? = some k) (calls : List Call) :
    Board.due m id ⟨s, b.stages.set i k', calls⟩ + (k.isDue m id).toNat =
      b.due m id + (k'.isDue m id).toNat := by
  obtain ⟨hlt, rfl⟩ := List.getElem?_eq_some_iff.1 hi
  have hpos : (b.stages[i]).isDue m id → 0 < b.stages.countP (·.isDue m id) := fun h =>
    List.countP_pos_iff.2 ⟨_, List.getElem_mem hlt, h⟩
  unfold Board.due
  rw [List.countP_set hlt]
  generalize b.stages.countP (·.isDue m id) = n, (b.stages[i]).isDue m id = before at hpos ⊢
  cases before <;> cases k'.isDue m id <;> simp at hpos ⊢ <;> omega

theorem Deed.isDue_of_publishes (h : Deed m s k call k' s') (hc : call.1.publishes id) :
    k.isDue m id := by
  cases h with
  | accepted e batch hm =>
    exact Stage.isDue_iff.2 ⟨e, List.mem_cons_self, by simpa [Request.publishes] using hc, hm⟩
  | rejected e batch error hm =>
    exact Stage.isDue_iff.2 ⟨e, List.mem_cons_self, by simpa [Request.publishes] using hc, hm⟩
  | _ => cases hc

/-- What a worker does keeps the bound. -/
theorem Board.Within.deed {retries : UInt32} {b : Board} {i : Nat}
    (h : b.Within m id retries row) (hd : b.store.Distinct) (hi : b.stages[i]? = some k)
    (hk : k.Orderly m b.store) (hrow : b.store.get? id = some row)
    (hdeed : Deed m b.store k call k' s) :
    ∃ row', s.get? id = some row' ∧
      Board.Within m id retries ⟨s, b.stages.set i k', b.calls ++ [call]⟩ row' := by
  obtain ⟨row', hrow', hcase⟩ := hdeed.due hd hk hrow
  have hset : Board.due m id ⟨s, b.stages.set i k', b.calls ++ [call]⟩ + (k.isDue m id).toNat =
      b.due m id + (k'.isDue m id).toNat := Board.due_set hi (b.calls ++ [call])
  refine ⟨row', hrow', ?_, ?_⟩
  · intro hm
    have hbelow := h.below hm
    have hle : b.due m id ≤ b.stages.length := List.countP_le_length
    rw [List.length_set]
    rcases hcase with ⟨hcount, hdue⟩ | ⟨hcount, hk, hk'⟩
    · rw [hcount]
      by_cases hlt : row.retryCount < m
      · exact .inl hlt
      · -- Past the ceiling nobody fetches the event as one that may be tried.
        have hdue : (k'.isDue m id).toNat ≤ (k.isDue m id).toNat :=
          Bool.toNat_le_toNat fun h => (hdue h).resolve_right hlt
        exact hbelow.imp_right fun h => by omega
    · -- The count grows by one, and the event is due for one worker less.
      rw [hk, Bool.eq_false_iff.2 hk'] at hset
      rw [UInt32.lt_iff_toNat_lt] at hbelow ⊢
      have := Event.toNat_nextCount row.retryCount
      rw [hcount]
      simp only [Bool.toNat_true, Bool.toNat_false] at hset
      omega
  · intro hm
    obtain ⟨hcount, hzero, hcalls⟩ := h.above hm
    have hk : k.isDue m id = false := by
      by_contra hk
      exact List.countP_eq_zero.1 hzero k (List.mem_of_getElem? hi) (by simpa using hk)
    have hc : call.1.publishes id = false := by
      by_contra hc
      rw [hdeed.isDue_of_publishes (by simpa using hc)] at hk
      cases hk
    rcases hcase with ⟨hcount', hdue⟩ | ⟨-, hk', -⟩
    · have hk' : k'.isDue m id = false := by
        by_contra hk'
        rcases hdue (by simpa using hk') with hdue | hdue
        · rw [hk] at hdue
          cases hdue
        · rw [hcount] at hdue
          exact UInt32.not_lt.2 hm hdue
      rw [hk, hk', hzero] at hset
      refine ⟨hcount'.trans hcount, hset, ?_⟩
      rw [List.countP_append, hcalls, List.countP_singleton, hc]
      rfl
    · rw [hk] at hk'
      cases hk'

/-- What is no worker's doing, and asks nothing about the event, keeps the bound. -/
theorem Board.Within.skip {retries : UInt32} {b : Board} (h : b.Within m id retries row)
    (hc : call.subject? ≠ some id) :
    Board.Within m id retries ⟨s, b.stages, b.calls ++ [call]⟩ row where
  below := h.below
  above hm := by
    obtain ⟨hcount, hdue, hcalls⟩ := h.above hm
    refine ⟨hcount, hdue, ?_⟩
    rw [List.countP_append, hcalls, List.countP_singleton, Call.publishes_of_subject?_ne hc]
    rfl

/-- An event that has just been stored is in bounds: nobody has it in hand. -/
theorem Board.within_new {b : Board} {e : Event}
    (hk : ∀ k ∈ b.stages, k.Orderly m b.store) (hs : b.store.Silent b.calls)
    (he : b.store.get? e.id = none) : b.Within m e.id e.retryCount e where
  below := .inl
  above _ := by
    refine ⟨rfl, List.countP_eq_zero.2 ?_, List.countP_eq_zero.2 ?_⟩
    · intro k hmem hdue
      obtain ⟨e', he', hid, _⟩ := Stage.isDue_iff.1 hdue
      refine (hk k hmem).stored e' (k.due_subset_held he') ?_
      rw [hid]
      exact he
    · intro call hc
      rw [Call.publishes_of_subject?_ne (hs e.id he call hc)]
      rintro ⟨⟩

/-! ### Every step -/

/-- What holds of workers that share a ceiling. -/
structure Board.Capped (m : UInt32) (b : Board) : Prop where
  orderly : ∀ k ∈ b.stages, k.Orderly m b.store
  silent : b.store.Silent b.calls
  /-- No event has been tried that had failed too often when it was fetched. -/
  tried : ∀ call ∈ b.calls, ∀ e : Event, call.1 = .publish e → e.retryCount < m
  within : ∀ e ∈ storedBy b.calls, ∃ row, b.store.get? e.id = some row ∧
    b.Within m e.id e.retryCount row

theorem Board.capped_start (m : UInt32) (size : Nat) : (Board.start size).Capped m where
  orderly k hk := by
    rw [List.eq_of_mem_replicate hk]
    exact .of_held_eq_nil rfl
  silent _ _ _ hc := absurd hc List.not_mem_nil
  tried _ hc := absurd hc List.not_mem_nil
  within _ he := absurd he List.not_mem_nil

theorem Deed.lt_of_publish {e : Event} (h : Deed m s k call k' s') (hc : call.1 = .publish e) :
    e.retryCount < m := by
  cases h with
  | accepted e batch hm => cases hc; exact hm
  | rejected e batch error hm => cases hc; exact hm
  | _ => cases hc

/-- Every step keeps the ceiling. -/
theorem Board.Step.capped {p : Event → Prop} {b b' : Board} (hd : b.store.Distinct)
    (h : b.Capped m) (hs : b.Step m p b') : b'.Capped m := by
  cases hs with
  | stayed => exact h
  | began i limit hi =>
    refine ⟨?_, h.silent, h.tried, ?_⟩
    · intro k hk
      rcases List.mem_or_eq_of_mem_set hk with hk | rfl
      · exact h.orderly k hk
      · exact .of_held_eq_nil rfl
    · intro e he
      obtain ⟨row, hrow, hw⟩ := h.within e he
      have hdue :
          Board.due m e.id { b with stages := b.stages.set i (.ready limit) } = b.due m e.id :=
        Board.due_set hi b.calls
      refine ⟨row, hrow, ?_, ?_⟩
      · intro hm
        rw [hdue, List.length_set]
        exact hw.below hm
      · intro hm
        rw [hdue]
        exact hw.above hm
  | did i k k' call s hi hdeed =>
    have hk := h.orderly k (List.mem_of_getElem? hi)
    refine ⟨fun k'' hk'' => ?_,
      h.silent.append (fun _ => hdeed.advances.get?_eq_none) fun id hid => ?_,
      fun call' hc e he => ?_, fun e he => ?_⟩
    · rcases List.mem_or_eq_of_mem_set hk'' with hk'' | rfl
      · exact (h.orderly k'' hk'').advance hdeed.advances
      · exact hdeed.orderly hd hk
    · obtain ⟨e, he, rfl⟩ := hdeed.exists_held hid
      exact hk.stored e he
    · rcases List.mem_append.1 hc with hc | hc
      · exact h.tried call' hc e he
      · cases List.mem_singleton.1 hc
        exact hdeed.lt_of_publish he
    · rw [storedBy_append, hdeed.stored_eq_nil, List.append_nil] at he
      obtain ⟨row, hrow, hw⟩ := h.within e he
      exact hw.deed hd hi hk hrow hdeed
  | stored batch hp hd' =>
    refine ⟨fun k hk => (h.orderly k hk).advance (b.store.advances_append batch),
      h.silent.append (fun _ => (b.store.advances_append batch).get?_eq_none)
        (fun id hid => by cases hid),
      fun call hc e he => ?_, fun e he => ?_⟩
    · rcases List.mem_append.1 hc with hc | hc
      · exact h.tried call hc e he
      · cases List.mem_singleton.1 hc
        cases he
    · rw [storedBy_append] at he
      rcases List.mem_append.1 he with he | he
      · obtain ⟨row, hrow, hw⟩ := h.within e he
        exact ⟨row, Store.get?_append_of_some hrow, hw.skip (by rintro ⟨⟩)⟩
      · have hid := Store.get?_eq_none_of_mem hd' he
        refine ⟨e, hd'.get?_of_mem (List.mem_append_right _ he), ?_⟩
        exact (Board.within_new h.orderly h.silent hid).skip (by rintro ⟨⟩)
  | storeRefused batch error =>
    refine ⟨h.orderly, h.silent.append (fun _ hid => hid) (fun id hid => by cases hid),
      fun call hc e he => ?_, fun e he => ?_⟩
    · rcases List.mem_append.1 hc with hc | hc
      · exact h.tried call hc e he
      · cases List.mem_singleton.1 hc
        cases he
    · rw [storedBy_append, show Call.stored _ = [] from rfl, List.append_nil] at he
      obtain ⟨row, hrow, hw⟩ := h.within e he
      exact ⟨row, hrow, hw.skip (by rintro ⟨⟩)⟩

/-! ### Main statement -/

/-- However workers with the same ceiling are interleaved, and whichever calls fail: no event is
    tried that had failed too often when it was fetched, and the count of failures of an event
    passes the ceiling by less than the number of workers. An event that was stored with as many
    failures keeps its count, and is never tried. -/
theorem play_ceiling {workers : List Worker} (hm : ∀ w ∈ workers, w.maxRetries = m)
    {turns : List Turn} (ht : ∀ t ∈ turns, t.Stores (·.status = .pending)) :
    let f := (Fleet.start workers).play turns
    (∀ e : Event, .publish e ∈ f.asked → e.retryCount < m) ∧
      ∀ e ∈ storedBy f.calls, ∃ row, f.store.get? e.id = some row ∧
        row.retryCount.toNat ≤ max e.retryCount.toNat (m.toNat + workers.length - 1) ∧
        (workers.length = 1 → row.retryCount.toNat ≤ max e.retryCount.toNat m.toNat) ∧
        (m ≤ e.retryCount →
          row.retryCount = e.retryCount ∧ f.asked.countP (Request.publishes e.id) = 0) := by
  obtain ⟨b, hshows, hd, hb, hsize⟩ := Fleet.play_keeps
    (fun b => b.Capped m ∧ b.stages.length = workers.length)
    (fun b b' hd hb hs => ⟨hs.capped hd hb.1, hs.length_stages.trans hb.2⟩)
    (Fleet.start_shows hm) Store.distinct_empty
    ⟨Board.capped_start m workers.length, List.length_replicate⟩ ht
  have hpending {q : Request} {member : Member}
      (hmember : member ∈ ((Fleet.start workers).play turns).members)
      (hq : member.rest.question? = some q) : ∃ k ∈ b.stages, k.Allows m q := by
    obtain ⟨i, k, hk, hallows⟩ := hshows.allows hmember hq
    exact ⟨k, List.mem_of_getElem? hk, hallows⟩
  refine ⟨?_, ?_⟩
  · intro e he
    rcases List.mem_append.1 he with he | he
    · obtain ⟨call, hc, he⟩ := List.mem_map.1 he
      rw [← hshows.calls] at hc
      exact hb.tried call hc e he
    · obtain ⟨member, hmember, hq⟩ := List.mem_filterMap.1 he
      obtain ⟨k, -, hallows⟩ := hpending hmember hq
      obtain ⟨batch, -, hlt⟩ := hallows.of_publish
      exact hlt
  · intro e he
    rw [← hshows.calls] at he
    obtain ⟨row, hrow, hw⟩ := hb.within e he
    have hle := hw.le
    rw [hsize] at hle
    refine ⟨row, by rw [← hshows.store]; exact hrow, hle, fun h1 => ?_, fun hm => ?_⟩
    · rw [h1, Nat.add_sub_cancel] at hle
      exact hle
    · obtain ⟨hcount, hdue, hcalls⟩ := hw.above hm
      refine ⟨hcount, ?_⟩
      rw [Fleet.asked, List.countP_append, List.countP_map, ← hshows.calls]
      refine (congrArg₂ (· + ·) hcalls (List.countP_eq_zero.2 ?_)).trans rfl
      intro q hq hpub
      obtain ⟨member, hmember, hq⟩ := List.mem_filterMap.1 hq
      obtain ⟨k, hk, hallows⟩ := hpending hmember hq
      cases q with
      | publish e' =>
        obtain ⟨batch, rfl, hlt⟩ := hallows.of_publish
        have hid : e'.id = e.id := by simpa [Request.publishes] using hpub
        exact List.countP_eq_zero.1 hdue _ hk
          (Stage.isDue_iff.2 ⟨e', List.mem_cons_self, hid, hlt⟩)
      | _ => cases hpub

/-- Two rivals fetch the event, the publisher rejects it from both, and both count a failure. -/
def defeat : List Turn :=
  [.store [contested] (.perform ⟨1⟩), .tick 0, .tick 1,
    .answer 0 (.perform ⟨2⟩), .answer 1 (.perform ⟨2⟩),
    .answer 0 (.refuse (.bus "down")), .answer 1 (.refuse (.bus "down")),
    .answer 0 (.perform ⟨3⟩), .answer 1 (.perform ⟨3⟩),
    .answer 0 (.perform ⟨4⟩), .answer 1 (.perform ⟨4⟩)]

/-- Two rivals with a ceiling of one can bring the count to two, and no further. -/
theorem play_ceiling_defeat :
    let f := (Fleet.start [rival, rival]).play defeat
    (∀ e : Event, .publish e ∈ f.asked → e.retryCount < 1) ∧
      contested ∈ storedBy f.calls ∧
      ∃ row, f.store.get? .nil = some row ∧ row.retryCount = 2 ∧ row.retryCount.toNat ≤ 2 := by
  have hstored : contested ∈ storedBy ((Fleet.start [rival, rival]).play defeat).calls := by
    decide +kernel
  have hcount : (((Fleet.start [rival, rival]).play defeat).store.get? .nil).map (·.retryCount) =
      some 2 := by
    decide +kernel
  have hm : ∀ w ∈ [rival, rival], w.maxRetries = 1 := by decide
  have ht : ∀ t ∈ defeat, t.Stores (·.status = .pending) := by
    simp [defeat, Turn.Stores, contested]
  obtain ⟨htried, hwithin⟩ := play_ceiling hm ht
  obtain ⟨row, hrow, hle, -⟩ := hwithin contested hstored
  have hrow : ((Fleet.start [rival, rival]).play defeat).store.get? .nil = some row := hrow
  rw [hrow] at hcount
  exact ⟨htried, hstored, row, hrow, Option.some.inj hcount, hle⟩

end Courier.Outbox
