import Courier.Bus.Memory
import Mathlib.Data.List.Perm.Basic

/-!
# What a subscription has seen

A subscription of a bus that forgets nothing sees the events that its topic selects, each of them
once and in order. What it has seen when it stands at a place in the log are the selected events up
to there.

* `MemoryBus.seen`: the events that a subscription has seen.
* `MemoryBus.Reached`: a bus of a capacity, after anything that has been done with it.
* `MemoryBus.read_of_lt`, `MemoryBus.read_of_le`: one step of a subscription of an open bus.
* `MemoryBus.read_eq_waiting_iff`, `MemoryBus.read_eq_lagged_iff`: when it waits, and when it is told
  that events were lost.
* `MemoryBus.next_spec`: reading on sees the next event that is selected, if there is one.
-/

namespace Courier

open private Nat.nextPowerOfTwo.go from Init.Data.Nat.Power2.Basic in
/-- The next power of two is not smaller. -/
theorem le_nextPowerOfTwo (n : Nat) : n ≤ n.nextPowerOfTwo := by
  have hgo (power : Nat) (hpos : power > 0) : n ≤ Nat.nextPowerOfTwo.go n power hpos := by
    fun_induction Nat.nextPowerOfTwo.go n power hpos with
    | case1 power hpos hlt ih => exact ih
    | case2 power hpos hle => exact Nat.le_of_not_lt hle
  exact hgo 1 _

/-- What stands at a place in a list, and what the list is when something else stands there. -/
theorem exists_split_set {α : Type} {l : List α} {i : Nat} {a : α} (h : l[i]? = some a) (a' : α) :
    ∃ l₁ l₂, l = l₁ ++ a :: l₂ ∧ l.set i a' = l₁ ++ a' :: l₂ := by
  obtain ⟨hi, rfl⟩ := List.getElem?_eq_some_iff.1 h
  obtain ⟨l₁, l₂, hsplit, -, hset⟩ := @List.exists_of_set α i a' l hi
  exact ⟨l₁, l₂, hsplit, hset⟩

/-- Whether a subscription selects an event. -/
def Subscription.selects (s : Subscription) (e : BusEvent) : Bool :=
  Topic.isMatch s.pattern e.eventType

namespace MemoryBus

variable {b : MemoryBus} {s : Subscription}

/-- The events that a subscription has seen that has read the log from its beginning. -/
def seen (b : MemoryBus) (s : Subscription) : List BusEvent :=
  (b.log.take s.position).filter s.selects

theorem seen_congr {b' : MemoryBus} (h : b'.log = b.log) : b'.seen = b.seen := by
  funext s
  rw [seen, seen, h]

/-- The greatest capacity with which a bus can be made where places are counted in 64 bits. -/
def greatestCapacity : Nat := 0x7FFF_FFFF_FFFF_FFFF

/-- A bus that is open and keeps all its events. -/
structure IsComplete (b : MemoryBus) : Prop where
  isOpen : b.isClosed = false
  length_le : b.log.length ≤ b.capacity

/-- To bind a topic changes nothing but the places that are kept. -/
theorem bind_eq (b : MemoryBus) (topic : String) :
    ∃ bindings, b.bind topic = { b with bindings := bindings } := by
  rw [bind]
  split
  next => exact ⟨b.bindings, rfl⟩
  next => exact ⟨_, rfl⟩

theorem subscribe_of_isOpen (hb : b.isClosed = false) (topic : String) :
    b.subscribe topic = .ok (⟨Topic.subtree topic, b.start topic⟩,
      { b with
        bindings := b.bindings.filter fun e => e.1 ≠ topic
        subscribers := b.subscribers + 1 }) :=
  if_neg (Bool.not_eq_true _ ▸ hb)

theorem publish_of_isOpen (hb : b.isClosed = false) (e : BusEvent) :
    b.publish e =
      if b.hasReaders then .ok (.sent, { b with log := b.log ++ [e] }) else .ok (.unheard, b) :=
  if_neg (Bool.not_eq_true _ ▸ hb)

/-- A bus that was made with a capacity, after anything that has been done with it. -/
inductive Reached (capacity : Nat) : MemoryBus → Prop
  | new : Reached capacity (new capacity)
  | bind {b : MemoryBus} (h : Reached capacity b) (topic : String) : Reached capacity (b.bind topic)
  | subscribe {b b' : MemoryBus} {topic : String} {s : Subscription} (h : Reached capacity b)
      (hs : b.subscribe topic = .ok (s, b')) : Reached capacity b'
  | unsubscribe {b : MemoryBus} (h : Reached capacity b) (count : Nat) :
      Reached capacity (b.unsubscribe count)
  | publish {b b' : MemoryBus} {e : BusEvent} {publication : Publication} (h : Reached capacity b)
      (hp : b.publish e = .ok (publication, b')) : Reached capacity b'
  | close {b : MemoryBus} (h : Reached capacity b) : Reached capacity b.close
  | confirm {b : MemoryBus} (h : Reached capacity b) : Reached capacity b.confirm

/-- The capacity stays, and no place is kept behind the end of the log. -/
theorem Reached.sound {capacity : Nat} (h : b.Reached capacity) :
    b.capacity = capacity.nextPowerOfTwo ∧ ∀ entry ∈ b.bindings, entry.2 ≤ b.log.length := by
  induction h with
  | new => exact ⟨rfl, fun _ hentry => absurd hentry List.not_mem_nil⟩
  | bind h topic ih =>
    obtain ⟨hcapacity, hle⟩ := ih
    rw [MemoryBus.bind]
    split
    next => exact ⟨hcapacity, hle⟩
    next =>
      refine ⟨hcapacity, fun entry hentry => ?_⟩
      rcases List.mem_append.1 hentry with hentry | hentry
      · exact hle entry hentry
      · obtain rfl := List.mem_singleton.1 hentry
        exact Nat.le_refl _
  | subscribe h hs ih =>
    obtain ⟨hcapacity, hle⟩ := ih
    rw [MemoryBus.subscribe] at hs
    split at hs <;> cases hs
    exact ⟨hcapacity, fun entry hentry => hle entry (List.mem_of_mem_filter hentry)⟩
  | publish h hp ih =>
    obtain ⟨hcapacity, hle⟩ := ih
    rw [MemoryBus.publish] at hp
    split at hp
    next => cases hp
    next =>
      split at hp <;> cases hp
      · refine ⟨hcapacity, fun entry hentry => ?_⟩
        rw [List.length_append]
        exact Nat.le_add_right_of_le (hle entry hentry)
      · exact ⟨hcapacity, hle⟩
  | _ => assumption

/-- A subscription does not start behind the end of the log. -/
theorem Reached.start_le {capacity : Nat} (h : b.Reached capacity) (topic : String) :
    b.start topic ≤ b.log.length := by
  rw [start]
  cases hplace : b.bindings.lookup topic with
  | none => exact Nat.le_refl _
  | some place =>
    obtain ⟨l₁, l₂, hsplit, -⟩ := List.lookup_eq_some_iff.1 hplace
    exact h.sound.2 (topic, place) (by simp [hsplit])

/-- One step of a subscription that has fallen behind. -/
theorem read_of_lt (hb : b.isClosed = false) (hs : s.position < b.oldest) :
    b.read s = (.lagged (b.oldest - s.position), { s with position := b.oldest }) := by
  rw [read, hb]
  simp only [Bool.false_eq_true, if_false, hs, if_true]

/-- One step of a subscription that stands at an event that is still kept. -/
theorem read_of_le (hb : b.isClosed = false) (hs : b.oldest ≤ s.position) :
    b.read s =
      match b.log[s.position]? with
      | none => (.waiting, s)
      | some e => (if s.selects e then .event e else .passed, { s with position := s.position + 1 })
    := by
  rw [read, hb]
  simp only [Bool.false_eq_true, if_false, Nat.not_lt.2 hs]
  rfl

/-- A subscription waits if and only if there is nothing left for it to read. -/
theorem read_eq_waiting_iff (hb : b.isClosed = false) :
    (b.read s).1 = .waiting ↔ b.log.length ≤ s.position := by
  rcases Nat.lt_or_ge s.position b.oldest with hlt | hge
  · have holdest : b.oldest ≤ b.log.length := Nat.sub_le _ _
    rw [read_of_lt hb hlt]
    exact iff_of_false (by simp) (Nat.not_le.2 (Nat.lt_of_lt_of_le hlt holdest))
  · rw [read_of_le hb hge, ← List.getElem?_eq_none_iff]
    cases b.log[s.position]? with
    | none => simp
    | some e => by_cases hsel : s.selects e <;> simp [hsel]

/-- A subscription is told that events were lost if and only if it is further behind than the
    capacity, and then by how many. -/
theorem read_eq_lagged_iff (hb : b.isClosed = false) (skipped : Nat) :
    (b.read s).1 = .lagged skipped ↔
      b.capacity < b.log.length - s.position ∧
        skipped = b.log.length - s.position - b.capacity := by
  rcases Nat.lt_or_ge s.position b.oldest with hlt | hge
  · have hskipped : b.oldest - s.position = b.log.length - s.position - b.capacity := by
      rw [oldest, Nat.sub_right_comm]
    rw [read_of_lt hb hlt, hskipped, Reading.lagged.injEq, eq_comm]
    rw [oldest] at hlt
    exact (and_iff_right (by omega)).symm
  · rw [read_of_le hb hge]
    rw [oldest] at hge
    have hkept : ¬b.capacity < b.log.length - s.position := by omega
    refine iff_of_false ?_ (mt And.left hkept)
    cases b.log[s.position]? with
    | none => simp
    | some e => by_cases hsel : s.selects e <;> simp [hsel]

/-- A subscription goes on as long as there is something left for it to read. -/
theorem position_lt_read (hb : b.isClosed = false) (hs : s.position < b.log.length) :
    s.position < (b.read s).2.position := by
  rcases Nat.lt_or_ge s.position b.oldest with hlt | hge
  · rw [read_of_lt hb hlt]
    exact hlt
  · rw [read_of_le hb hge, List.getElem?_eq_getElem hs]
    exact Nat.lt_succ_self _

/-- One step of a subscription of a bus that keeps all its events. -/
theorem read_eq (hb : b.IsComplete) (s : Subscription) :
    b.read s =
      match b.log[s.position]? with
      | none => (.waiting, s)
      | some e => (if s.selects e then .event e else .passed, { s with position := s.position + 1 })
    := by
  have holdest : b.oldest = 0 := Nat.sub_eq_zero_of_le hb.length_le
  exact read_of_le hb.isOpen (holdest ▸ Nat.zero_le _)

/-- Passing an event adds it to what has been seen, if it is selected. -/
theorem seen_succ {e : BusEvent} (he : b.log[s.position]? = some e) :
    b.seen { s with position := s.position + 1 } =
      b.seen s ++ if s.selects e then [e] else [] := by
  rw [seen, List.take_add_one, he]
  change ((b.log.take s.position) ++ [e]).filter s.selects = _
  rw [List.filter_append, List.filter_singleton]
  cases s.selects e <;> rfl

/-- What is published does not change what has been seen. -/
theorem seen_append (hs : s.position ≤ b.log.length) (es : List BusEvent) :
    seen { b with log := b.log ++ es } s = b.seen s := by
  rw [seen, seen, List.take_append_of_le_length hs]

/-- What a subscription comes to by reading on: it waits at the end of the log, having seen nothing
    new, or it has seen one more event and yields it. -/
inductive ReadsTo (b : MemoryBus) (s : Subscription) : List Nat × Yield × Subscription → Prop
  | waiting (h : b.seen { s with position := b.log.length } = b.seen s) :
      ReadsTo b s ([], .waiting, { s with position := b.log.length })
  | delivery (e : BusEvent) (position : Nat) (hlt : s.position < position)
      (hle : position ≤ b.log.length)
      (h : b.seen { s with position := position } = b.seen s ++ [e]) :
      ReadsTo b s ([], .delivery ⟨e, some .counted⟩, { s with position := position })

/-- At the end of the log a subscription waits. -/
theorem ReadsTo.of_end (hs : s.position = b.log.length) : b.ReadsTo s ([], .waiting, s) := by
  have h : b.ReadsTo s ([], .waiting, { s with position := b.log.length }) :=
    .waiting (by rw [← hs])
  rw [← hs] at h
  exact h

/-- An event that has been passed makes no difference. -/
theorem ReadsTo.of_passed {r : List Nat × Yield × Subscription}
    (hseen : b.seen { s with position := s.position + 1 } = b.seen s)
    (h : b.ReadsTo { s with position := s.position + 1 } r) : b.ReadsTo s r := by
  cases h with
  | waiting h => exact .waiting (h.trans hseen)
  | delivery e position hlt hle h =>
    exact .delivery e position (Nat.lt_of_succ_lt hlt) hle (by rw [← hseen]; exact h)

theorem go_spec (hb : b.IsComplete) (steps : Nat) (hs : s.position ≤ b.log.length)
    (hsteps : b.log.length ≤ s.position + steps) : b.ReadsTo s (next.go b steps s) := by
  -- There are steps enough to come to the end of the log.
  induction steps generalizing s with
  | zero =>
    have hpos : s.position = b.log.length := Nat.le_antisymm hs hsteps
    have hnone : b.log[s.position]? = none := List.getElem?_eq_none (Nat.le_of_eq hpos.symm)
    rw [next.go, read_eq hb, hnone]
    exact .of_end hpos
  | succ steps ih =>
    rw [next.go, read_eq hb]
    cases he : b.log[s.position]? with
    | none => exact .of_end (Nat.le_antisymm hs (List.getElem?_eq_none_iff.1 he))
    | some e =>
      have hlt := (List.getElem?_eq_some_iff.1 he).1
      have hseen := seen_succ he
      by_cases hsel : s.selects e
      · simp only [hsel, if_true] at hseen ⊢
        exact .delivery e (s.position + 1) (Nat.lt_succ_self _) hlt hseen
      · simp only [hsel, if_false, List.append_nil, Bool.false_eq_true] at hseen ⊢
        have hsteps : b.log.length ≤ s.position + 1 + steps := by omega
        exact .of_passed hseen (ih (s := { s with position := s.position + 1 }) hlt hsteps)

/-- Reading on sees the next event that is selected, or waits at the end of the log. -/
theorem next_spec (hb : b.IsComplete) (hs : s.position ≤ b.log.length) :
    b.ReadsTo s (b.next s) :=
  go_spec hb _ hs (by omega)

/-- A subscription that waits has seen all events that it selects. -/
theorem ReadsTo.seen_eq {r : List Nat × Yield × Subscription} (h : b.ReadsTo s r)
    (hr : r.2.1 = .waiting) : b.seen s = b.log.filter s.selects := by
  cases h with
  | waiting h =>
    rw [← h, seen, List.take_length]
    rfl
  | delivery e position hlt hle h => cases hr

end MemoryBus

end Courier
