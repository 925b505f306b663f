import Courier.Outbox.Store
import Mathlib.Data.List.Nodup
import Mathlib.Data.List.Perm.Basic

/-!
# The outbox as a map

Events are found in the outbox by their identifiers (`Store.get?`), and every operation is described
by what is found after it. No identifier comes twice (`Store.Distinct`), since a batch that would
bring one again is refused.

* `get?_edit`, `get?_append`: what is found after an event has been changed, or a batch stored.
* `Distinct.get?_of_mem`: every event is found under its identifier.
* `store_of_admits`, `store_of_not_admits`: when a batch is stored, what the outbox is then, and
  which error there is otherwise.
* `perform_markPublished`, `perform_markFailed`, `perform_markAbandoned`: a mark changes the event
  with its identifier and nothing else, and fails if there is none.
* `Distinct.nodup_fetch`, `length_fetch`: which events are fetched, and how many.
-/

namespace Courier.Outbox

/-- What never changes of an event: all but what became of it. -/
def Event.facts (e : Event) : Uuid × String × String × String × Bytes × Instant :=
  (e.id, e.aggregateType, e.aggregateId, e.eventType, e.payload, e.createdAt)

theorem Event.id_of_facts {e e' : Event} (h : e.facts = e'.facts) : e.id = e'.id :=
  congrArg Prod.fst h

section Changes

variable (e : Event) (now : Instant) (reason : String)

@[simp]
theorem Event.facts_recordPublished : (e.recordPublished now).facts = e.facts := rfl

@[simp]
theorem Event.facts_recordFailure : (e.recordFailure reason).facts = e.facts := rfl

@[simp]
theorem Event.facts_recordAbandoned : e.recordAbandoned.facts = e.facts := by
  rw [Event.recordAbandoned]
  split <;> rfl

@[simp]
theorem Event.id_recordPublished : (e.recordPublished now).id = e.id := rfl

@[simp]
theorem Event.id_recordFailure : (e.recordFailure reason).id = e.id := rfl

@[simp]
theorem Event.id_recordAbandoned : e.recordAbandoned.id = e.id :=
  Event.id_of_facts e.facts_recordAbandoned

@[simp]
theorem Event.status_recordPublished : (e.recordPublished now).status = .published := rfl

@[simp]
theorem Event.status_recordFailure : (e.recordFailure reason).status = e.status := rfl

@[simp]
theorem Event.status_recordAbandoned_eq_published :
    e.recordAbandoned.status = .published ↔ e.status = .published := by
  rw [Event.recordAbandoned]
  split <;> simp [*]

@[simp]
theorem Event.retryCount_recordPublished : (e.recordPublished now).retryCount = e.retryCount := rfl

@[simp]
theorem Event.retryCount_recordFailure :
    (e.recordFailure reason).retryCount = nextCount e.retryCount := rfl

@[simp]
theorem Event.retryCount_recordAbandoned : e.recordAbandoned.retryCount = e.retryCount := by
  rw [Event.recordAbandoned]
  split <;> rfl

@[simp]
theorem Event.publishedAt_recordAbandoned : e.recordAbandoned.publishedAt = e.publishedAt := by
  rw [Event.recordAbandoned]
  split <;> rfl

end Changes

theorem Event.toNat_nextCount (n : UInt32) :
    (Event.nextCount n).toNat = min (n.toNat + 1) 0xFFFFFFFF := by
  have := n.toNat_lt
  rw [Event.nextCount]
  split
  next h => rw [h]; rfl
  next h =>
    have hn : n.toNat ≠ 0xFFFFFFFF := fun h' => h (UInt32.toNat_inj.1 h')
    rw [UInt32.toNat_add, UInt32.toNat_one]
    omega

theorem Event.le_nextCount (n : UInt32) : n ≤ Event.nextCount n := by
  have := n.toNat_lt
  rw [UInt32.le_iff_toNat_le, Event.toNat_nextCount]
  omega

namespace Store

variable {s : Store} {id id' : Uuid} {e : Event} {f : Event → Event}

theorem mem_of_get? (h : s.get? id = some e) : e ∈ s.events := List.mem_of_find?_eq_some h

/-- No identifier comes twice. -/
def Distinct (s : Store) : Prop := (s.events.map (·.id)).Nodup

theorem distinct_empty : empty.Distinct := List.nodup_nil

theorem find?_of_mem {es : List Event} (h : (es.map (·.id)).Nodup) (he : e ∈ es) :
    es.find? (fun x => x.id = e.id) = some e := by
  induction es with
  | nil => cases he
  | cons a es ih =>
    rw [List.map_cons, List.nodup_cons] at h
    rcases List.mem_cons.1 he with rfl | he
    · simp
    · have hne : a.id ≠ e.id := fun ha => h.1 (ha ▸ List.mem_map_of_mem he)
      rw [List.find?_cons_of_neg (by simpa using hne)]
      exact ih h.2 he

theorem Distinct.get?_of_mem (h : s.Distinct) (he : e ∈ s.events) : s.get? e.id = some e :=
  find?_of_mem h he

/-! ### Changing an event -/

/-- The store with the event of an identifier changed, if there is one. -/
def edit (s : Store) (id : Uuid) (f : Event → Event) : Store := ⟨updateFirst id f s.events⟩

theorem map_id_updateFirst (hf : ∀ e, (f e).id = e.id) (es : List Event) :
    (updateFirst id f es).map (·.id) = es.map (·.id) := by
  induction es with
  | nil => rfl
  | cons a es ih =>
    rw [updateFirst]
    split
    · rw [List.map_cons, List.map_cons, hf]
    · rw [List.map_cons, List.map_cons, ih]

theorem Distinct.edit (h : s.Distinct) (hf : ∀ e, (f e).id = e.id) : (s.edit id f).Distinct := by
  rw [Distinct, Store.edit]
  rw [map_id_updateFirst hf]
  exact h

theorem find?_updateFirst (hf : ∀ e, (f e).id = e.id) (es : List Event) :
    (updateFirst id f es).find? (fun e => e.id = id') =
      if id = id' then (es.find? fun e => e.id = id).map f else es.find? fun e => e.id = id' := by
  induction es with
  | nil => split <;> rfl
  | cons a es ih => grind [updateFirst]

theorem get?_edit (hf : ∀ e, (f e).id = e.id) :
    (s.edit id f).get? id' = if id = id' then (s.get? id).map f else s.get? id' :=
  find?_updateFirst hf s.events

theorem get?_edit_self (hf : ∀ e, (f e).id = e.id) : (s.edit id f).get? id = (s.get? id).map f := by
  rw [get?_edit hf, if_pos rfl]

theorem get?_edit_of_ne (hf : ∀ e, (f e).id = e.id) (h : id ≠ id') :
    (s.edit id f).get? id' = s.get? id' := by
  rw [get?_edit hf, if_neg h]

/-! ### Storing a batch -/

theorem firstSeen_eq_none_iff {seen ids : List Uuid} :
    firstSeen seen ids = none ↔ ids.Nodup ∧ ∀ id ∈ ids, id ∉ seen := by
  -- What has been seen grows along the list: an identifier that comes twice is found there at last.
  induction ids generalizing seen with
  | nil => simp [firstSeen]
  | cons id ids ih =>
    rw [firstSeen]
    split
    next h => simp [h]
    next h =>
      rw [ih, List.nodup_cons]
      constructor
      · rintro ⟨hn, hs⟩
        refine ⟨⟨fun hm => hs id hm List.mem_cons_self, hn⟩, ?_⟩
        intro x hx
        rcases List.mem_cons.1 hx with rfl | hx
        · exact h
        · exact fun hm => hs x hx (List.mem_cons_of_mem _ hm)
      · rintro ⟨⟨hi, hn⟩, hs⟩
        refine ⟨hn, ?_⟩
        intro x hx hm
        rcases List.mem_cons.1 hm with rfl | hm
        · exact hi hx
        · exact hs x (List.mem_cons_of_mem _ hx) hm

/-- The first identifier that has been seen before is one before which there is none. -/
theorem firstSeen_eq_some_iff {seen ids : List Uuid} :
    firstSeen seen ids = some id ↔ ∃ before after, ids = before ++ id :: after ∧
      firstSeen seen before = none ∧ (id ∈ seen ∨ id ∈ before) := by
  induction ids generalizing seen with
  | nil => simp [firstSeen]
  | cons x ids ih =>
    rw [firstSeen]
    split
    next hx =>
      constructor
      · rintro ⟨⟩
        exact ⟨[], ids, rfl, rfl, .inl hx⟩
      · rintro ⟨before, after, hids, hnone, -⟩
        cases before with
        | nil => rw [(List.cons.inj hids).1]
        | cons y before =>
          rw [← (List.cons.inj hids).1, firstSeen, if_pos hx] at hnone
          cases hnone
    next hx =>
      have hcons (before : List Uuid) :
          firstSeen seen (x :: before) = firstSeen (x :: seen) before := by
        rw [firstSeen, if_neg hx]
      rw [ih]
      constructor
      · rintro ⟨before, after, rfl, hnone, hid⟩
        refine ⟨x :: before, after, rfl, (hcons before).trans hnone, ?_⟩
        rw [List.mem_cons] at hid ⊢
        tauto
      · rintro ⟨before, after, hids, hnone, hid⟩
        cases before with
        | nil =>
          obtain ⟨rfl, -⟩ := List.cons.inj hids
          exact absurd (hid.resolve_right List.not_mem_nil) hx
        | cons y before =>
          obtain ⟨rfl, rfl⟩ := List.cons.inj hids
          refine ⟨before, after, rfl, (hcons before).symm.trans hnone, ?_⟩
          rw [List.mem_cons] at hid ⊢
          tauto

/-- A batch brings no identifier that is taken, and none twice. -/
def Admits (s : Store) (batch : List Event) : Prop :=
  (batch.map (·.id)).Nodup ∧ ∀ e ∈ batch, ∀ row ∈ s.events, row.id ≠ e.id

theorem firstSeen_eq_none_iff_admits {batch : List Event} :
    firstSeen (s.events.map (·.id)) (batch.map (·.id)) = none ↔ s.Admits batch := by
  rw [firstSeen_eq_none_iff, Admits]
  simp

theorem store_of_admits {batch : List Event} (h : s.Admits batch) :
    s.store batch = .ok ⟨s.events ++ batch⟩ := by
  rw [store, firstSeen_eq_none_iff_admits.2 h]

/-- A batch that is not admitted is refused, and the error tells the first identifier that comes
    again. -/
theorem store_of_not_admits {batch : List Event} (h : ¬s.Admits batch) :
    ∃ before e after, batch = before ++ e :: after ∧ s.Admits before ∧
      (∃ row ∈ s.events ++ before, row.id = e.id) ∧
      s.store batch = .error (.outbox ("duplicate outbox event id " ++ e.id.text)) := by
  rw [← firstSeen_eq_none_iff_admits] at h
  obtain ⟨id, hid⟩ := Option.ne_none_iff_exists'.1 h
  have hstore : s.store batch = .error (.outbox ("duplicate outbox event id " ++ id.text)) := by
    rw [store, hid]
  obtain ⟨before, after, hids, hnone, hseen⟩ := firstSeen_eq_some_iff.1 hid
  obtain ⟨before, rest, rfl, rfl, hrest⟩ := List.map_eq_append_iff.1 hids
  obtain ⟨e, after, rfl, rfl, rfl⟩ := List.map_eq_cons_iff.1 hrest
  refine ⟨before, e, after, rfl, firstSeen_eq_none_iff_admits.1 hnone, ?_, hstore⟩
  rcases hseen with hseen | hseen
  · obtain ⟨row, hrow, hid⟩ := List.mem_map.1 hseen
    exact ⟨row, List.mem_append_left _ hrow, hid⟩
  · obtain ⟨row, hrow, hid⟩ := List.mem_map.1 hseen
    exact ⟨row, List.mem_append_right _ hrow, hid⟩

/-- A batch is admitted if all identifiers are then distinct. -/
theorem Distinct.append_iff (h : s.Distinct) {batch : List Event} :
    (⟨s.events ++ batch⟩ : Store).Distinct ↔ s.Admits batch := by
  rw [Distinct, List.map_append, List.nodup_append]
  simp only [List.mem_map]
  constructor
  · rintro ⟨_, hb, hs⟩
    exact ⟨hb, fun e he row hrow => hs _ ⟨row, hrow, rfl⟩ _ ⟨e, he, rfl⟩⟩
  · rintro ⟨hb, hs⟩
    refine ⟨h, hb, ?_⟩
    rintro _ ⟨row, hrow, rfl⟩ _ ⟨e, he, rfl⟩
    exact hs e he row hrow

/-- A batch is stored if all identifiers are then distinct, and it is appended. -/
theorem store_eq_ok_iff (h : s.Distinct) {batch : List Event} {s' : Store} :
    s.store batch = .ok s' ↔ s' = ⟨s.events ++ batch⟩ ∧ s'.Distinct := by
  by_cases hb : s.Admits batch
  · rw [store_of_admits hb, Except.ok.injEq, eq_comm]
    exact ⟨fun hs => ⟨hs, hs ▸ h.append_iff.2 hb⟩, And.left⟩
  · obtain ⟨before, e, after, -, -, -, hstore⟩ := store_of_not_admits hb
    rw [hstore]
    refine ⟨nofun, ?_⟩
    rintro ⟨rfl, hd⟩
    exact absurd (h.append_iff.1 hd) hb

theorem get?_append (batch : List Event) (id : Uuid) :
    (⟨s.events ++ batch⟩ : Store).get? id = (s.get? id).or (get? ⟨batch⟩ id) :=
  List.find?_append

theorem get?_append_of_some {batch : List Event} (h : s.get? id = some e) :
    (⟨s.events ++ batch⟩ : Store).get? id = some e := by
  rw [get?_append, h, Option.some_or]

/-- What a batch has brought was not there before. -/
theorem get?_eq_none_of_mem {batch : List Event} (h : (⟨s.events ++ batch⟩ : Store).Distinct)
    (he : e ∈ batch) : s.get? e.id = none := by
  rw [Distinct, List.map_append, List.nodup_append] at h
  refine List.find?_eq_none.2 fun x hx hid => ?_
  exact h.2.2 x.id (List.mem_map_of_mem hx) e.id (List.mem_map_of_mem he) (by simpa using hid)

/-! ### Operations -/

theorem update_of_some (f : Event → Event) (h : s.get? id = some e) :
    s.update id f = .ok (f e, s.edit id f) := by
  rw [update, h]
  rfl

theorem update_of_none (f : Event → Event) (h : s.get? id = none) :
    s.update id f = .error (missing id) := by
  rw [update, h]

theorem perform_store (now : Instant) (batch : List Event) :
    s.perform now (.store batch) =
      match s.store batch with
      | .error error => (.error error, s)
      | .ok s => (.ok (), s) := rfl

theorem perform_markPublished (now : Instant) (id : Uuid) :
    s.perform now (.markPublished id) =
      match s.get? id with
      | none => (.error (missing id), s)
      | some _ => (.ok (), s.edit id fun e => e.recordPublished now) := by
  cases h : s.get? id with
  | none => rw [perform, update_of_none _ h]
  | some e => rw [perform, update_of_some _ h]

theorem perform_markFailed (now : Instant) (id : Uuid) (reason : String) :
    s.perform now (.markFailed id reason) =
      match s.get? id with
      | none => (.error (missing id), s)
      | some e => (.ok (Event.nextCount e.retryCount),
          s.edit id fun e => e.recordFailure reason) := by
  cases h : s.get? id with
  | none => rw [perform, update_of_none _ h]
  | some e => rw [perform, update_of_some _ h]; rfl

theorem perform_markAbandoned (now : Instant) (id : Uuid) :
    s.perform now (.markAbandoned id) =
      match s.get? id with
      | none => (.error (missing id), s)
      | some _ => (.ok (), s.edit id Event.recordAbandoned) := by
  cases h : s.get? id with
  | none => rw [perform, update_of_none _ h]
  | some e => rw [perform, update_of_some _ h]

/-! ### Fetching -/

section Fetch

variable {status : Status} {limit : Int}

theorem mem_fetch (h : e ∈ s.fetch status limit) : e ∈ s.events ∧ e.status = status := by
  have h := List.mem_of_mem_take h
  rw [List.mem_mergeSort, List.mem_filter] at h
  exact ⟨h.1, by simpa using h.2⟩

theorem Distinct.get?_of_mem_fetch (h : s.Distinct) (he : e ∈ s.fetch status limit) :
    s.get? e.id = some e :=
  h.get?_of_mem (mem_fetch he).1

theorem Distinct.nodup_fetch (h : s.Distinct) : ((s.fetch status limit).map (·.id)).Nodup := by
  have hf : ((s.events.filter fun e => e.status = status).map (·.id)).Nodup :=
    List.Nodup.sublist (List.filter_sublist.map _) h
  -- Sorting moves the events about, and a batch is the first of them.
  refine List.Nodup.sublist ((List.take_sublist _ _).map _) ?_
  exact ((List.mergeSort_perm _ _).map _).nodup_iff.2 hf

theorem length_fetch :
    (s.fetch status limit).length =
      min limit.toNat (s.events.countP fun e => e.status = status) := by
  rw [fetch, List.length_take, List.length_mergeSort, ← List.countP_eq_length_filter]

end Fetch

end Store

end Courier.Outbox
