import Courier.Proofs.Outbox.Fleet

/-!
# What a lone worker has in hand

A worker that has the outbox to itself finds there what it has in hand: the events that it has
fetched stay pending, as they were fetched, until it marks them itself.

* `Store.Fresh`: the events of a batch are pending, as they were fetched.
* `Stage.Current`: so is all that the worker has in hand.
* `Deed.current`: every answer keeps it.
-/

namespace Courier.Outbox

variable {m : UInt32} {s s' : Store} {k k' : Stage} {call : Call} {e : Event} {batch : List Event}
  {id : Uuid}

/-- The events of a batch are pending, as they were fetched. -/
structure Store.Fresh (s : Store) (batch : List Event) : Prop where
  nodup : (batch.map (·.id)).Nodup
  get? : ∀ e ∈ batch, s.get? e.id = some e
  pending : ∀ e ∈ batch, e.status = .pending

namespace Store.Fresh

theorem nil (s : Store) : s.Fresh [] :=
  ⟨List.nodup_nil, fun _ he => absurd he List.not_mem_nil, fun _ he => absurd he List.not_mem_nil⟩

theorem fetch (hd : s.Distinct) (limit : Int) : s.Fresh (s.fetch .pending limit) :=
  ⟨hd.nodup_fetch, fun _ he => hd.get?_of_mem_fetch he, fun _ he => (mem_fetch he).2⟩

theorem head (h : s.Fresh (e :: batch)) : s.get? e.id = some e ∧ e.status = .pending :=
  ⟨h.get? e List.mem_cons_self, h.pending e List.mem_cons_self⟩

theorem tail (h : s.Fresh (e :: batch)) : s.Fresh batch where
  nodup := (List.nodup_cons.1 h.nodup).2
  get? e' he' := h.get? e' (List.mem_cons_of_mem e he')
  pending e' he' := h.pending e' (List.mem_cons_of_mem e he')

theorem not_mem (h : s.Fresh (e :: batch)) : e.id ∉ batch.map (·.id) :=
  (List.nodup_cons.1 h.nodup).1

theorem append (h : s.Fresh batch) (batch' : List Event) :
    (⟨s.events ++ batch'⟩ : Store).Fresh batch where
  nodup := h.nodup
  get? e he := get?_append_of_some (h.get? e he)
  pending := h.pending

/-- A change of another event leaves a batch as it was fetched. -/
theorem edit (h : s.Fresh batch) {f : Event → Event} (hf : ∀ e, (f e).id = e.id)
    (hid : id ∉ batch.map (·.id)) : (s.edit id f).Fresh batch where
  nodup := h.nodup
  get? e he := by
    have hne : id ≠ e.id := fun h => hid (h ▸ List.mem_map_of_mem he)
    rw [get?_edit_of_ne hf hne]
    exact h.get? e he
  pending := h.pending

end Store.Fresh

/-- What a worker has in hand is still so in the outbox. An event that has just failed too often is
    pending there. -/
def Stage.Current (m : UInt32) (s : Store) : Stage → Prop
  | ready _ => True
  | dealing batch => s.Fresh batch
  | accepted e batch | rejected e _ batch => s.Fresh (e :: batch) ∧ e.retryCount < m
  | exhausted e batch =>
    s.Fresh batch ∧ e.id ∉ batch.map (·.id) ∧ ∃ row, s.get? e.id = some row ∧ row.status = .pending

/-- An event that is about to be abandoned is pending. -/
theorem Stage.Current.of_abandons (h : k.Current m s) (hk : k.Abandons m e batch) :
    s.Fresh batch ∧ e.id ∉ batch.map (·.id) ∧
      ∃ row, s.get? e.id = some row ∧ row.status = .pending := by
  rcases hk with rfl | ⟨rfl, _⟩
  · exact h
  · exact ⟨h.tail, h.not_mem, e, h.head⟩

/-- All that the worker has in hand is pending. -/
theorem Stage.Current.pending (h : k.Current m s) :
    ∀ e ∈ k.held, ∃ row, s.get? e.id = some row ∧ row.status = .pending := by
  intro e he
  have hrow {batch : List Event} (hb : s.Fresh batch) (he : e ∈ batch) :
      ∃ row, s.get? e.id = some row ∧ row.status = .pending :=
    ⟨e, hb.get? e he, hb.pending e he⟩
  cases k with
  | ready limit => cases he
  | dealing batch => exact hrow h he
  | accepted e' batch => exact hrow h.1 he
  | rejected e' error batch => exact hrow h.1 he
  | exhausted e' batch =>
    rcases List.mem_cons.1 he with rfl | he
    · exact h.2.2
    · exact hrow h.1 he

theorem Stage.Current.append (h : k.Current m s) (batch : List Event) :
    k.Current m ⟨s.events ++ batch⟩ := by
  cases k with
  | ready limit => trivial
  | dealing batch' => exact Store.Fresh.append h batch
  | accepted e batch' => exact ⟨h.1.append batch, h.2⟩
  | rejected e error batch' => exact ⟨h.1.append batch, h.2⟩
  | exhausted e batch' =>
    obtain ⟨hb, hid, row, hrow, hp⟩ := h
    exact ⟨hb.append batch, hid, row, Store.get?_append_of_some hrow, hp⟩

/-- An answer leaves the worker with what is still so. -/
theorem Deed.current (hd : s.Distinct) (hk : k.Current m s) (h : Deed m s k call k' s') :
    k'.Current m s' := by
  cases h with
  | noted k notice => exact hk
  | fetched limit => exact .fetch hd limit
  | fetchRefused limit error => exact .nil s
  | accepted e batch hm => exact ⟨hk, hm⟩
  | rejected e batch error hm => exact ⟨hk, hm⟩
  | published e row batch now hrow => exact hk.1.tail.edit (fun _ => rfl) hk.1.not_mem
  | publishedRefused e batch error => exact hk.1.tail
  | counted e row batch error hrow =>
    have hb := hk.1.tail.edit (Event.id_recordFailure · error.reason) hk.1.not_mem
    split
    · refine ⟨hb, hk.1.not_mem, e.recordFailure error.reason, ?_, hk.1.head.2⟩
      rw [Store.get?_edit_self (Event.id_recordFailure · error.reason), hk.1.head.1]
      rfl
    · exact hb
  | countRefused e batch error error' => exact hk.1.tail
  | abandoned e row batch k hk' hrow =>
    obtain ⟨hb, hid, _⟩ := hk.of_abandons hk'
    exact hb.edit Event.id_recordAbandoned hid
  | abandonRefused e batch k error hk' => exact (hk.of_abandons hk').1

end Courier.Outbox
