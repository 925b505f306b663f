import Courier.Proofs.Bus.Memory
import Mathlib.Data.List.DropRight
import Mathlib.Data.List.Infix
import Mathlib.Data.List.Induction

/-!
# Who hears what

Topics are bound and subscribed to, events are published, and subscriptions are read, all in any
order. What a subscription comes upon accounts for every event that was published since its start:
each is yielded, passed, or counted as lost.

* `Audience.step`: a bus and its listeners take a turn.
* `Audience.sinceStart`: the start of a subscription, told by the turns alone.
* `Accounts`: what a subscription came upon, against the events that it has left behind.
* `Audience.play_hears`: what each subscription has heard, when it has missed nothing, and what it
  comes upon next.
-/

namespace Courier

open MemoryBus (Reading)

/-- The event that a subscription yields at a step. -/
def MemoryBus.Reading.event? : Reading → Option BusEvent
  | event e => some e
  | _ => none

/-- The events that a subscription has yielded, by what it came upon at each step. -/
def heard (readings : List Reading) : List BusEvent := readings.filterMap Reading.event?

/-- What a subscription came upon step by step accounts for the events that it has left behind: each
    of them was yielded, passed because it is not selected, or counted as lost. -/
inductive Accounts (selects : BusEvent → Bool) : List BusEvent → List Reading → Prop
  | nil : Accounts selects [] []
  | waiting {past readings} (h : Accounts selects past readings) :
      Accounts selects past (readings ++ [.waiting])
  | event {past readings} (h : Accounts selects past readings) (e : BusEvent) (he : selects e) :
      Accounts selects (past ++ [e]) (readings ++ [.event e])
  | passed {past readings} (h : Accounts selects past readings) (e : BusEvent) (he : ¬selects e) :
      Accounts selects (past ++ [e]) (readings ++ [.passed])
  | lagged {past readings} (h : Accounts selects past readings) (es : List BusEvent) :
      Accounts selects (past ++ es) (readings ++ [.lagged es.length])

/-- A subscription with all that it came upon so far. -/
structure Listener where
  subscription : Subscription
  readings : List Reading

/-- A bus with those who have subscribed to it, the first one first. -/
structure Audience where
  bus : MemoryBus
  listeners : List Listener

/-- One step of a subscription. -/
def Listener.read (b : MemoryBus) (l : Listener) : Listener :=
  ⟨(b.read l.subscription).2, l.readings ++ [(b.read l.subscription).1]⟩

namespace Audience

/-- What can happen next. -/
inductive Turn
  | bind (topic : String)
  | subscribe (topic : String)
  | publish (e : BusEvent)
  /-- A step of the subscription with the given number. -/
  | read (i : Nat)
  deriving DecidableEq

/-- Whether somebody subscribes. -/
def Turn.subscribes : Turn → Bool
  | subscribe _ => true
  | _ => false

/-- The event that is published. -/
def Turn.published? : Turn → Option BusEvent
  | publish e => some e
  | _ => none

/-- A bus of the given capacity to which nobody has subscribed. -/
def start (capacity : Nat) : Audience := ⟨.new capacity, []⟩

/-- The audience after a turn. -/
def step (a : Audience) : Turn → Audience
  | .bind topic => { a with bus := a.bus.bind topic }
  | .subscribe topic =>
    match a.bus.subscribe topic with
    | .error _ => a
    | .ok (s, bus) => ⟨bus, a.listeners ++ [⟨s, []⟩]⟩
  | .publish e =>
    match a.bus.publish e with
    | .error _ => a
    | .ok (_, bus) => { a with bus := bus }
  | .read i => { a with listeners := a.listeners.modify i (·.read a.bus) }

/-- The audience after a sequence of turns. -/
def play (a : Audience) (turns : List Turn) : Audience := turns.foldl step a

/-- The events that are published in a sequence of turns. -/
def published (turns : List Turn) : List BusEvent := turns.filterMap Turn.published?

/-- The turns since the start of a subscription that comes after the given ones: those since the
    topic was first bound after it was last subscribed to, and none if it was not bound then. -/
def sinceStart (topic : String) (turns : List Turn) : List Turn :=
  (turns.rtakeWhile (· ≠ .subscribe topic)).dropWhile (· ≠ .bind topic)

/-- How many events the subscription with the given number has still to read. -/
def unread (a : Audience) (i : Nat) : Nat :=
  match a.listeners[i]? with
  | none => 0
  | some l => a.bus.log.length - l.subscription.position

end Audience

/-! ### Accounts -/

@[simp]
theorem heard_concat (readings : List Reading) (r : Reading) :
    heard (readings ++ [r]) = heard readings ++ r.event?.toList := by
  rw [heard, List.filterMap_append]
  cases r <;> rfl

section Accounts

variable {selects : BusEvent → Bool} {past : List BusEvent} {readings : List Reading}

/-- Only events that are selected are yielded, and in order. -/
theorem Accounts.sublist (h : Accounts selects past readings) :
    (heard readings).Sublist (past.filter selects) := by
  induction h with
  | nil => exact .refl _
  | waiting h ih => simpa [Reading.event?] using ih
  | event h e he ih => simpa [Reading.event?, he] using ih
  | passed h e he ih => simpa [Reading.event?, he] using ih
  | lagged h es ih =>
    simpa [Reading.event?] using ih.trans (List.sublist_append_left _ (es.filter selects))

/-- Where nothing was lost, all events that are selected were yielded. -/
theorem Accounts.heard_eq (h : Accounts selects past readings)
    (hlost : ∀ n, Reading.lagged n ∉ readings) : heard readings = past.filter selects := by
  induction h with
  | nil => rfl
  | lagged h es ih => exact absurd (by simp) (hlost es.length)
  | waiting h ih => simpa [Reading.event?] using ih fun n hn => hlost n (by simp [hn])
  | event h e he ih => simpa [Reading.event?, he] using ih fun n hn => hlost n (by simp [hn])
  | passed h e he ih => simpa [Reading.event?, he] using ih fun n hn => hlost n (by simp [hn])

end Accounts

/-! ### The start of a subscription -/

namespace Audience

variable {topic topic' : String} {turns : List Turn} {t : Turn}

theorem sinceStart_subscribe (topic : String) (turns : List Turn) :
    sinceStart topic (turns ++ [.subscribe topic]) = [] := by
  rw [sinceStart, List.rtakeWhile_concat_neg _ _ _ (by simp)]
  rfl

/-- A topic that has not been bound starts when it is bound. -/
theorem sinceStart_concat_of_nil (h : sinceStart topic turns = []) (ht : t ≠ .subscribe topic) :
    sinceStart topic (turns ++ [t]) = if t = .bind topic then [t] else [] := by
  rw [sinceStart, List.dropWhile_eq_nil_iff] at h
  rw [sinceStart, List.rtakeWhile_concat_pos _ _ _ (by simpa using ht),
    List.dropWhile_append_of_pos h]
  by_cases hb : t = .bind topic <;> simp [hb]

/-- A topic that has been bound keeps its start until it is subscribed to. -/
theorem sinceStart_concat_of_ne_nil (h : sinceStart topic turns ≠ []) (ht : t ≠ .subscribe topic) :
    sinceStart topic (turns ++ [t]) = sinceStart topic turns ++ [t] := by
  rw [sinceStart, List.rtakeWhile_concat_pos _ _ _ (by simpa using ht), List.dropWhile_append,
    if_neg]
  · rfl
  · simpa [sinceStart] using h

/-! ### Places that are kept -/

theorem published_append (turns turns' : List Turn) :
    published (turns ++ turns') = published turns ++ published turns' := List.filterMap_append

theorem play_append (a : Audience) (turns turns' : List Turn) :
    a.play (turns ++ turns') = (a.play turns).play turns' := List.foldl_append

/-- After the place that a bus keeps for a topic come the events published since the topic was
    bound, and no place is kept if it was not bound. -/
def Keeps (topic : String) (turns : List Turn) (b : MemoryBus) : Prop :=
  match b.bindings.lookup topic with
  | none => sinceStart topic turns = []
  | some place => sinceStart topic turns ≠ [] ∧ place ≤ b.log.length ∧
      b.log.drop place = published (sinceStart topic turns)

section Keeps

variable {b b' : MemoryBus}

theorem keeps_of_none (hplace : b.bindings.lookup topic = none) :
    Keeps topic turns b ↔ sinceStart topic turns = [] := by
  rw [Keeps, hplace]

theorem keeps_of_some {place : Nat} (hplace : b.bindings.lookup topic = some place) :
    Keeps topic turns b ↔ sinceStart topic turns ≠ [] ∧ place ≤ b.log.length ∧
      b.log.drop place = published (sinceStart topic turns) := by
  rw [Keeps, hplace]

/-- A turn that neither binds a topic for the first time nor subscribes to it. -/
theorem Keeps.concat (h : Keeps topic turns b) (hs : t ≠ .subscribe topic)
    (hb : b.bindings.lookup topic = none → t ≠ .bind topic)
    (hlookup : b'.bindings.lookup topic = b.bindings.lookup topic)
    (hlog : b.bindings ≠ [] → b'.log = b.log ++ published [t]) : Keeps topic (turns ++ [t]) b' := by
  cases hplace : b.bindings.lookup topic with
  | none =>
    rw [keeps_of_none hplace] at h
    rw [keeps_of_none (hlookup.trans hplace), sinceStart_concat_of_nil h hs, if_neg (hb hplace)]
  | some place =>
    rw [keeps_of_some hplace] at h
    obtain ⟨hne, hle, hdrop⟩ := h
    have hlog := hlog (by rintro hnil; rw [hnil] at hplace; cases hplace)
    rw [keeps_of_some (hlookup.trans hplace), sinceStart_concat_of_ne_nil hne hs, published_append,
      hlog, List.drop_append_of_le_length hle, hdrop, List.length_append]
    exact ⟨by simp [hne], by omega, rfl⟩

/-- The place kept for a topic is where a subscription to it starts. -/
theorem Keeps.start (h : Keeps topic turns b) : b.start topic ≤ b.log.length ∧
    b.log.drop (b.start topic) = published (sinceStart topic turns) := by
  rw [MemoryBus.start]
  cases hplace : b.bindings.lookup topic with
  | none =>
    rw [keeps_of_none hplace] at h
    rw [h, Option.getD_none, List.drop_length]
    exact ⟨Nat.le_refl _, rfl⟩
  | some place =>
    rw [keeps_of_some hplace] at h
    exact h.2

/-- Only a topic for which no place is kept starts when it is bound. -/
theorem Keeps.bind (h : Keeps topic turns b) (topic' : String) :
    Keeps topic (turns ++ [.bind topic']) (b.bind topic') := by
  rw [MemoryBus.bind]
  split
  next place hplace =>
    refine h.concat (by simp) ?_ rfl fun _ => (List.append_nil _).symm
    rintro hnone ⟨⟩
    rw [hplace] at hnone
    cases hnone
  next hplace =>
    by_cases htopic : topic = topic'
    · subst htopic
      have hplace' : (b.bindings ++ [(topic, b.log.length)]).lookup topic = some b.log.length := by
        simp [List.lookup_append, hplace]
      rw [keeps_of_none hplace] at h
      rw [keeps_of_some hplace', sinceStart_concat_of_nil h (by simp)]
      simp [published, Turn.published?]
    · refine h.concat (by simp) ?_ ?_ fun _ => (List.append_nil _).symm
      · rintro - ⟨⟩
        exact htopic rfl
      · have hbeq : (topic == topic') = false := beq_false_of_ne htopic
        simp [List.lookup_append, List.lookup_cons, hbeq]

theorem lookup_filter_ne (topic topic' : String) (bindings : List (String × Nat)) :
    (bindings.filter fun e => e.1 ≠ topic').lookup topic =
      if topic = topic' then none else bindings.lookup topic := by
  induction bindings with
  | nil => simp
  | cons e es ih => grind

/-- The place kept for a topic is given away with a subscription to it. -/
theorem Keeps.subscribe (h : Keeps topic turns b) {topic' : String}
    (hlog : b'.log = b.log) (hbindings : b'.bindings = b.bindings.filter fun e => e.1 ≠ topic') :
    Keeps topic (turns ++ [.subscribe topic']) b' := by
  have hlookup := lookup_filter_ne topic topic' b.bindings
  rw [← hbindings] at hlookup
  by_cases htopic : topic = topic'
  · subst htopic
    rw [if_pos rfl] at hlookup
    rw [keeps_of_none hlookup, sinceStart_subscribe]
  · rw [if_neg htopic] at hlookup
    refine h.concat ?_ (by simp) hlookup fun _ => hlog.trans (List.append_nil _).symm
    rintro ⟨⟩
    exact htopic rfl

end Keeps

/-! ### A turn -/

/-- What holds after a sequence of turns on a bus of the given capacity. -/
structure Sound (capacity : Nat) (turns : List Turn) (a : Audience) : Prop where
  isOpen : a.bus.isClosed = false
  capacity_eq : a.bus.capacity = capacity.nextPowerOfTwo
  length_eq : a.listeners.length = turns.countP Turn.subscribes
  subscribers_eq : a.bus.subscribers = a.listeners.length
  keeps : ∀ topic, Keeps topic turns a.bus

variable {a : Audience} {capacity : Nat}

theorem step_subscribe (ha : a.bus.isClosed = false) (topic : String) :
    a.step (.subscribe topic) =
      ⟨{ a.bus with
          bindings := a.bus.bindings.filter fun e => e.1 ≠ topic
          subscribers := a.bus.subscribers + 1 },
        a.listeners ++ [⟨⟨Topic.subtree topic, a.bus.start topic⟩, []⟩]⟩ := by
  rw [step, MemoryBus.subscribe_of_isOpen ha]

theorem step_publish (ha : a.bus.isClosed = false) (e : BusEvent) :
    a.step (.publish e) =
      if a.bus.hasReaders then { a with bus := { a.bus with log := a.bus.log ++ [e] } } else a := by
  rw [step, MemoryBus.publish_of_isOpen ha]
  cases a.bus.hasReaders <;> rfl

theorem Sound.start (capacity : Nat) : Sound capacity [] (start capacity) :=
  ⟨rfl, rfl, rfl, rfl, fun _ => rfl⟩

theorem Sound.step (h : Sound capacity turns a) (t : Turn) :
    Sound capacity (turns ++ [t]) (a.step t) := by
  obtain ⟨hopen, hcapacity, hlength, hsubscribers, hkeeps⟩ := h
  cases t with
  | bind topic =>
    have hlength : a.listeners.length = (turns ++ [Turn.bind topic]).countP Turn.subscribes := by
      simpa [Turn.subscribes] using hlength
    obtain ⟨bindings, hbind⟩ := a.bus.bind_eq topic
    have hkeeps (topic' : String) : Keeps topic' (turns ++ [.bind topic]) (a.bus.bind topic) :=
      (hkeeps topic').bind topic
    rw [Audience.step]
    rw [hbind] at hkeeps ⊢
    exact ⟨hopen, hcapacity, hlength, hsubscribers, hkeeps⟩
  | subscribe topic =>
    rw [step_subscribe hopen]
    exact ⟨hopen, hcapacity, by simpa [Turn.subscribes] using hlength, by simpa using hsubscribers,
      fun topic' => (hkeeps topic').subscribe rfl rfl⟩
  | publish e =>
    have hlength : a.listeners.length = (turns ++ [Turn.publish e]).countP Turn.subscribes := by
      simpa [Turn.subscribes] using hlength
    rw [step_publish hopen]
    split
    next =>
      exact ⟨hopen, hcapacity, hlength, hsubscribers,
        fun topic => (hkeeps topic).concat (by simp) (by simp) rfl fun _ => rfl⟩
    next hreaders =>
      refine ⟨hopen, hcapacity, hlength, hsubscribers, fun topic => ?_⟩
      refine (hkeeps topic).concat (by simp) (by simp) rfl fun hne => ?_
      simp [MemoryBus.hasReaders, hne] at hreaders
  | read i =>
    refine ⟨hopen, hcapacity, ?_, ?_, fun topic => ?_⟩
    · simpa [Audience.step, Turn.subscribes] using hlength
    · simpa [Audience.step] using hsubscribers
    · exact (hkeeps topic).concat (by simp) (by simp) rfl fun _ => (List.append_nil _).symm

/-- Where somebody has subscribed, all events that are published come into the log. -/
theorem Sound.log_step (h : Sound capacity turns a) (ha : a.listeners ≠ []) (t : Turn) :
    (a.step t).bus.log = a.bus.log ++ published [t] := by
  cases t with
  | bind topic =>
    obtain ⟨bindings, hbind⟩ := a.bus.bind_eq topic
    rw [Audience.step, hbind]
    exact (List.append_nil _).symm
  | subscribe topic =>
    rw [step_subscribe h.isOpen]
    exact (List.append_nil _).symm
  | publish e =>
    have hreaders : a.bus.hasReaders := by
      simp [MemoryBus.hasReaders, h.subscribers_eq, List.length_pos_iff.2 ha]
    rw [step_publish h.isOpen, if_pos hreaders]
    rfl
  | read i => exact (List.append_nil _).symm

/-- Listeners stay, and change only when they read. -/
theorem Sound.getElem?_step (h : Sound capacity turns a) {i : Nat} {l : Listener}
    (hl : a.listeners[i]? = some l) (t : Turn) :
    (a.step t).listeners[i]? = some (if t = .read i then l.read a.bus else l) := by
  cases t with
  | bind topic => exact hl
  | subscribe topic =>
    have hi := (List.getElem?_eq_some_iff.1 hl).1
    rw [step_subscribe h.isOpen]
    simpa [List.getElem?_append_left hi] using hl
  | publish e =>
    rw [step_publish h.isOpen]
    split <;> simpa using hl
  | read j =>
    rw [Audience.step, List.getElem?_modify, hl]
    simp [eq_comm]

theorem unread_eq {i : Nat} {l : Listener} (hl : a.listeners[i]? = some l) :
    a.unread i = a.bus.log.length - l.subscription.position := by
  rw [unread, hl]

/-- A listener that has something left to read comes further when it reads. -/
theorem Sound.unread_step_read_lt (h : Sound capacity turns a) {i : Nat} {l : Listener}
    (hl : a.listeners[i]? = some l) (hpos : 0 < a.unread i) :
    (a.step (.read i)).unread i < a.unread i := by
  have hl' := h.getElem?_step hl (.read i)
  rw [if_pos rfl] at hl'
  rw [unread_eq hl] at hpos ⊢
  rw [unread_eq hl']
  exact Nat.sub_lt_sub_left (Nat.lt_of_sub_pos hpos)
    (MemoryBus.position_lt_read h.isOpen (Nat.lt_of_sub_pos hpos))

theorem Sound.play (before : List Turn) :
    Sound capacity before ((Audience.start capacity).play before) := by
  induction before using List.reverseRecOn with
  | nil => exact .start capacity
  | append_singleton before t ih =>
    rw [play_append]
    exact ih.step t

end Audience

/-! ### A listener -/

/-- A listener of a topic stands somewhere after its start, and what it came upon accounts for the
    events between. -/
structure Listener.Follows (topic : String) (start : Nat) (b : MemoryBus) (l : Listener) :
    Prop where
  pattern_eq : l.subscription.pattern = Topic.subtree topic
  start_le : start ≤ l.subscription.position
  le_length : l.subscription.position ≤ b.log.length
  accounts : Accounts l.subscription.selects
    ((b.log.drop start).take (l.subscription.position - start)) l.readings

section Listener

variable {topic : String} {start : Nat} {b b' : MemoryBus} {l : Listener}

/-- What is published comes after all that a listener has left behind. -/
theorem Listener.Follows.append (h : l.Follows topic start b) {es : List BusEvent}
    (hlog : b'.log = b.log ++ es) : l.Follows topic start b' := by
  obtain ⟨hpattern, hstart, hle, haccounts⟩ := h
  refine ⟨hpattern, hstart, ?_, ?_⟩
  · rw [hlog, List.length_append]
    exact Nat.le_add_right_of_le hle
  · have hlen : l.subscription.position - start ≤ (b.log.drop start).length := by
      rw [List.length_drop]
      omega
    rw [hlog, List.drop_append_of_le_length (hstart.trans hle), List.take_append_of_le_length hlen]
    exact haccounts

/-- A listener goes on by one event, or by the events that it has lost. -/
theorem Listener.Follows.read (h : l.Follows topic start b) (hb : b.isClosed = false) :
    (l.read b).Follows topic start b := by
  obtain ⟨hpattern, hstart, hle, haccounts⟩ := h
  have hoffset : start + (l.subscription.position - start) = l.subscription.position := by omega
  rcases Nat.lt_or_ge l.subscription.position b.oldest with hlt | hge
  · have holdest : b.oldest ≤ b.log.length := Nat.sub_le _ _
    have hto : b.oldest - start =
        l.subscription.position - start + (b.oldest - l.subscription.position) := by omega
    -- The events that are lost are as many as are counted.
    have hlen : (((b.log.drop start).drop (l.subscription.position - start)).take
        (b.oldest - l.subscription.position)).length = b.oldest - l.subscription.position := by
      rw [List.length_take, List.length_drop, List.length_drop]
      omega
    rw [Listener.read, MemoryBus.read_of_lt hb hlt]
    refine ⟨hpattern, hstart.trans (Nat.le_of_lt hlt), holdest, ?_⟩
    have hlagged := haccounts.lagged (((b.log.drop start).drop
      (l.subscription.position - start)).take (b.oldest - l.subscription.position))
    rw [hlen, ← List.take_add, ← hto] at hlagged
    exact hlagged
  · rw [Listener.read, MemoryBus.read_of_le hb hge]
    cases he : b.log[l.subscription.position]? with
    | none => exact ⟨hpattern, hstart, hle, haccounts.waiting⟩
    | some e =>
      have hlt := (List.getElem?_eq_some_iff.1 he).1
      have hto : l.subscription.position + 1 - start = l.subscription.position - start + 1 := by
        omega
      have hpast : (b.log.drop start).take (l.subscription.position + 1 - start) =
          (b.log.drop start).take (l.subscription.position - start) ++ [e] := by
        rw [hto, List.take_add_one, List.getElem?_drop, hoffset, he]
        rfl
      refine ⟨hpattern, Nat.le_succ_of_le hstart, hlt, ?_⟩
      change Accounts l.subscription.selects
        ((b.log.drop start).take (l.subscription.position + 1 - start)) _
      rw [hpast]
      by_cases hsel : l.subscription.selects e
      · simp only [hsel, if_true]
        exact haccounts.event e hsel
      · simp only [hsel]
        exact haccounts.passed e hsel

/-- A listener that is at most the capacity behind loses nothing. -/
theorem Listener.lagged_notMem_read (hb : b.isClosed = false)
    (hkept : b.log.length - l.subscription.position ≤ b.capacity)
    (h : ∀ n, Reading.lagged n ∉ l.readings) (n : Nat) :
    Reading.lagged n ∉ (l.read b).readings := by
  rw [Listener.read, List.mem_append, not_or, List.mem_singleton]
  refine ⟨h n, fun hlagged => ?_⟩
  obtain ⟨hbehind, -⟩ := (MemoryBus.read_eq_lagged_iff hb n).1 hlagged.symm
  exact Nat.not_lt.2 hkept hbehind

end Listener

namespace Audience

variable {capacity : Nat} {before after : List Turn} {topic : String}

/-- What has become of a subscription after more turns. -/
theorem play_follows (capacity : Nat) (before after : List Turn) (topic : String) :
    let played more := (start capacity).play (before ++ .subscribe topic :: more)
    ∃ l, (played after).listeners[before.countP Turn.subscribes]? = some l ∧
      (∃ place, l.Follows topic place (played after).bus ∧
        (played after).bus.log.drop place = published (sinceStart topic before ++ after)) ∧
      ((∀ more, more <+: after → (played more).unread (before.countP Turn.subscribes) ≤
        capacity.nextPowerOfTwo) → ∀ n, Reading.lagged n ∉ l.readings) := by
  intro played
  induction after using List.reverseRecOn with
  | nil =>
    have h : Sound capacity before ((start capacity).play before) := .play before
    obtain ⟨hle, hdrop⟩ := (h.keeps topic).start
    have hplayed : played [] = ((start capacity).play before).step (.subscribe topic) :=
      play_append _ _ _
    rw [hplayed, step_subscribe h.isOpen, ← h.length_eq]
    refine ⟨_, List.getElem?_concat_length .., ⟨_, ⟨rfl, Nat.le_refl _, hle, ?_⟩, ?_⟩, by simp⟩
    · rw [Nat.sub_self, List.take_zero]
      exact .nil
    · rw [List.append_nil]
      exact hdrop
  | append_singleton after t ih =>
    obtain ⟨l, hl, ⟨place, hfollows, hdrop⟩, hlost⟩ := ih
    have h : Sound capacity (before ++ .subscribe topic :: after) (played after) := .play _
    have hplayed : played (after ++ [t]) = (played after).step t := by
      have hsplit : before ++ .subscribe topic :: (after ++ [t]) =
          (before ++ .subscribe topic :: after) ++ [t] := by simp
      exact (congrArg _ hsplit).trans (play_append _ _ _)
    have hlog := h.log_step (List.ne_nil_of_mem (List.mem_of_getElem? hl)) t
    have hdrop' : ((played after).step t).bus.log.drop place =
        published (sinceStart topic before ++ (after ++ [t])) := by
      rw [hlog, List.drop_append_of_le_length (hfollows.start_le.trans hfollows.le_length), hdrop,
        ← List.append_assoc, published_append _ [t]]
    rw [hplayed, h.getElem?_step hl]
    refine ⟨_, rfl, ⟨place, ?_, hdrop'⟩, fun hkept => ?_⟩
    · split
      next ht =>
        subst ht
        exact hfollows.read h.isOpen
      next => exact hfollows.append hlog
    · have hlost := hlost fun more hmore => hkept more (hmore.trans (List.prefix_append _ _))
      have hkept := hkept after (List.prefix_append _ _)
      rw [unread, hl, ← h.capacity_eq] at hkept
      split
      next => exact Listener.lagged_notMem_read h.isOpen hkept hlost
      next => exact hlost

/-- Topics are bound and subscribed to, events are published, and subscriptions are read, in any
    order. Then each subscription has come to a place among the events that were published since its
    start. What it came upon accounts for all events up to there; so what it has yielded are some of
    those that its topic selects, in order. If it was never further behind than the capacity, it has
    yielded all of them.

    Read once more, it waits if and only if nothing is left, is told that events were lost if and
    only if it is further behind than the capacity, and comes further if anything is left. -/
theorem play_hears (capacity : Nat) (before after : List Turn) (topic : String) :
    let a := (start capacity).play (before ++ .subscribe topic :: after)
    let i := before.countP Turn.subscribes
    let since := published (sinceStart topic before ++ after)
    let selects (e : BusEvent) := Topic.isMatch (Topic.subtree topic) e.eventType
    ∃ l, a.listeners[i]? = some l ∧ ∃ n ≤ since.length, a.unread i = since.length - n ∧
      Accounts selects (since.take n) l.readings ∧
      (heard l.readings).Sublist ((since.take n).filter selects) ∧
      ((∀ more, more <+: after → ((start capacity).play
          (before ++ .subscribe topic :: more)).unread i ≤ capacity.nextPowerOfTwo) →
        heard l.readings = (since.take n).filter selects) ∧
      ((a.bus.read l.subscription).1 = .waiting ↔ a.unread i = 0) ∧
      (∀ skipped, (a.bus.read l.subscription).1 = .lagged skipped ↔
        capacity.nextPowerOfTwo < a.unread i ∧
          skipped = a.unread i - capacity.nextPowerOfTwo) ∧
      (0 < a.unread i → (a.step (.read i)).unread i < a.unread i) := by
  intro a i since selects
  obtain ⟨l, hl, ⟨place, ⟨hpattern, hstart, hle, haccounts⟩, hdrop⟩, hlost⟩ :=
    play_follows capacity before after topic
  have h : Sound capacity (before ++ .subscribe topic :: after) a := .play _
  have hselects : l.subscription.selects = selects := by
    funext e
    rw [Subscription.selects, hpattern]
  have hlen : since.length = a.bus.log.length - place := by
    rw [← List.length_drop]
    exact (congrArg List.length hdrop).symm
  have hunread : a.unread i = a.bus.log.length - l.subscription.position := unread_eq hl
  rw [hdrop, hselects] at haccounts
  refine ⟨l, hl, l.subscription.position - place, ?_, ?_, haccounts, haccounts.sublist, ?_, ?_, ?_,
    h.unread_step_read_lt hl⟩
  · rw [hlen]
    exact Nat.sub_le_sub_right hle place
  · omega
  · exact fun hkept => haccounts.heard_eq (hlost hkept)
  · rw [hunread, Nat.sub_eq_zero_iff_le]
    exact MemoryBus.read_eq_waiting_iff h.isOpen
  · rw [hunread, ← h.capacity_eq]
    exact MemoryBus.read_eq_lagged_iff h.isOpen

/-- The event that a user has been created. -/
def joined (id : String) : BusEvent := ⟨id, "user.created", []⟩

/-- What happens after somebody has subscribed: of the two events that come, the first is of another
    topic. -/
def following : List Turn :=
  [.read 0, .publish ⟨"2", "translation.created", []⟩, .publish (joined "3"), .read 0, .read 0]

/-- Who subscribes to a topic that was bound before hears what has come since then. -/
theorem play_hears_latecomer :
    let a := (start 2).play
      ([.bind "user", .publish (joined "1")] ++ .subscribe "user" :: following)
    ∃ l, a.listeners[0]? = some l ∧ heard l.readings = [joined "1", joined "3"] ∧
      (a.bus.read l.subscription).1 = .waiting := by
  intro a
  obtain ⟨l, hl, n, hn, hunread, -, -, hheard, hwaiting, -⟩ :=
    play_hears 2 [.bind "user", .publish (joined "1")] following "user"
  have hread : a.unread 0 = 0 := by decide +kernel
  have hn : n = 3 := Nat.le_antisymm hn (Nat.sub_eq_zero_iff_le.1 (hunread.symm.trans hread))
  subst hn
  refine ⟨l, hl, (hheard fun more hmore => ?_).trans (by decide +kernel), hwaiting.2 hread⟩
  rw [← List.mem_inits] at hmore
  revert more
  decide +kernel

end Audience

end Courier
