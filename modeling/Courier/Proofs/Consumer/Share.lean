import Courier.Proofs.Bus.Audience
import Courier.Proofs.Bus.Topic
import Courier.Proofs.Consumer.Duty
import Courier.Simulation.Run
import Mathlib.Algebra.GroupWithZero.Nat

/-!
# How often an event is processed

A consumer has a subscription for each of its topics, and reads them in any order. What is published
while it is on duty reaches it once for each topic with whose words the type of the event begins. It
does not matter which subscription is read when, as long as none falls too far behind.

* `Duty.spawn`: a consumer subscribes to its topics.
* `Duty.IsCalm`: nobody cancels the consumer or closes its bus, and no subscription falls behind.
* `Duty.Shared`: what has been taken, against what the subscriptions have passed.
* `Duty.spawn_shares`: how often each event is processed, and in which order.
-/

namespace Courier

namespace Duty

/-- A consumer subscribes to its topics. -/
def spawn (c : Consumer) (bus : MemoryBus) : Except DeliveryError Duty := do
  let (subscriptions, bus) ← Simulation.subscribeAll bus c.topics
  return start c bus subscriptions

/-- The events that are published in a sequence of turns. -/
def published (turns : List Turn) : List BusEvent := turns.filterMap Turn.published?

/-- No subscription has more events to read than the capacity. -/
def KeepsUp (capacity : Nat) (d : Duty) : Prop :=
  ∀ s ∈ d.subscriptions, d.bus.log.length - s.position ≤ capacity

/-- A turn that neither cancels the consumer nor closes its bus. Whatever else is done to the bus
    than that somebody publishes, what there is to read stays as it is. -/
def Turn.IsCalm (d : Duty) : Turn → Prop
  | .cancel => False
  | .meanwhile b =>
    b.isClosed = false ∧ b.hasReaders ∧ b.capacity = d.bus.capacity ∧ b.log = d.bus.log
  | _ => True

/-- All turns are calm, and the subscriptions always keep up. -/
def IsCalm (capacity : Nat) (d : Duty) : List Turn → Prop
  | [] => d.KeepsUp capacity
  | t :: turns => d.KeepsUp capacity ∧ t.IsCalm d ∧ IsCalm capacity (d.step t) turns

/-- Nothing is left to do: no question is pending, and there is nothing to read. -/
def IsIdle (d : Duty) : Prop :=
  d.rest.question? = none ∧ ∀ s ∈ d.subscriptions, d.bus.log.length ≤ s.position

/-- How often the event at a place in the log was taken. -/
def timesTaken (d : Duty) (place : Nat) : Nat := d.taken.countP fun t => t.2.1 = place

/-- How many subscriptions have passed a place in the log and select the event that stands there. -/
def shareAt (d : Duty) (place : Nat) (e : BusEvent) : Nat :=
  d.subscriptions.countP fun s => place < s.position && s.selects e

/-- What a consumer has taken on a calm bus, when so many events had been published at its start and
    these have been published since. -/
structure Shared (capacity : Nat) (topics : List String) (earlier events : List BusEvent)
    (d : Duty) : Prop where
  isOpen : d.bus.isClosed = false
  hasReaders : d.bus.hasReaders
  capacity_eq : d.bus.capacity = capacity
  log_eq : d.bus.log = earlier ++ events
  patterns : d.subscriptions.map (·.pattern) = topics.map Topic.subtree
  le_length : ∀ s ∈ d.subscriptions, s.position ≤ d.bus.log.length
  isClosing : d.isClosing = false
  isCancelled : d.isCancelled = false
  goesOn : ∃ p : Action Unit, d.rest = do p; return true
  /-- Each subscription yields events that it selects and has passed. -/
  taken : ∀ i place e, (i, place, e) ∈ d.taken → d.bus.log[place]? = some e ∧
    ∃ s, d.subscriptions[i]? = some s ∧ s.selects e ∧ place < s.position
  /-- Each subscription yields events in the order of publication. -/
  ordered : d.taken.Pairwise fun t t' => t.1 = t'.1 → t.2.1 < t'.2.1
  /-- Each event that has been published since has been taken by all who should have done so. -/
  timesTaken : ∀ place e, earlier.length ≤ place → d.bus.log[place]? = some e →
    d.timesTaken place = d.shareAt place e

theorem countP_set_add {α : Type} {l : List α} {i : Nat} {a : α} (h : l[i]? = some a) (a' : α)
    (p : α → Bool) :
    (l.set i a').countP p + (if p a then 1 else 0) = l.countP p + if p a' then 1 else 0 := by
  obtain ⟨l₁, l₂, rfl, hset⟩ := exists_split_set h a'
  rw [hset]
  simp only [List.countP_append, List.countP_cons]
  omega

variable {capacity : Nat} {topics : List String} {earlier events : List BusEvent} {d d' : Duty}
  {i : Nat} {s s' : Subscription} {e : BusEvent}

/-! ### Reading -/

/-- A subscription that keeps up waits at the end of the log, or goes on by one event. -/
theorem Shared.read (h : Shared capacity topics earlier events d) (hkept : d.KeepsUp capacity)
    (hs : s ∈ d.subscriptions) :
    d.bus.log.length ≤ s.position ∧ d.bus.read s = (.waiting, s) ∨
      ∃ e, d.bus.log[s.position]? = some e ∧
        d.bus.read s =
          (if s.selects e then .event e else .passed, { s with position := s.position + 1 }) := by
  have hkept := hkept s hs
  have hge : d.bus.oldest ≤ s.position := by
    rw [MemoryBus.oldest, h.capacity_eq]
    omega
  rw [MemoryBus.read_of_le h.isOpen hge]
  cases he : d.bus.log[s.position]? with
  | none => exact .inl ⟨List.getElem?_eq_none_iff.1 he, rfl⟩
  | some e => exact .inr ⟨e, rfl, rfl⟩

/-- A subscription goes on by one event, which is taken if it is selected. -/
structure Advances (i : Nat) (s : Subscription) (e : BusEvent) (d d' : Duty) : Prop where
  getElem? : d.subscriptions[i]? = some s
  log_getElem? : d.bus.log[s.position]? = some e
  bus_eq : d'.bus = d.bus
  isClosing_eq : d'.isClosing = d.isClosing
  isCancelled_eq : d'.isCancelled = d.isCancelled
  goesOn : ∃ p : Action Unit, d'.rest = do p; return true
  subscriptions_eq : d'.subscriptions = d.subscriptions.set i { s with position := s.position + 1 }
  taken_eq : d'.taken = d.taken ++ if s.selects e then [(i, s.position, e)] else []

theorem Advances.timesTaken_eq (h : Advances i s e d d') (place : Nat) :
    d'.timesTaken place =
      d.timesTaken place + if s.selects e ∧ place = s.position then 1 else 0 := by
  rw [timesTaken, timesTaken, h.taken_eq, List.countP_append]
  by_cases hsel : s.selects e
  · simp [hsel, List.countP_singleton, eq_comm]
  · simp [hsel]

theorem Advances.shareAt_eq (h : Advances i s e d d') (place : Nat) (e' : BusEvent) :
    d'.shareAt place e' =
      d.shareAt place e' + if s.selects e' ∧ place = s.position then 1 else 0 := by
  have hset := countP_set_add h.getElem? { s with position := s.position + 1 }
    fun s => decide (place < s.position) && s.selects e'
  have hselects : Subscription.selects { s with position := s.position + 1 } = s.selects := rfl
  simp only [hselects, ← h.subscriptions_eq] at hset
  rw [shareAt, shareAt]
  grind

/-- Each subscription keeps its pattern, and none moves back. -/
theorem Advances.getElem?_of_getElem? (h : Advances i s e d d') {j : Nat}
    (hs : d.subscriptions[j]? = some s') : ∃ position ≥ s'.position,
      d'.subscriptions[j]? = some { s' with position := position } := by
  rw [h.subscriptions_eq]
  by_cases hij : i = j
  · obtain rfl := hij
    obtain rfl : s = s' := Option.some.inj (h.getElem?.symm.trans hs)
    exact ⟨_, Nat.le_succ _, List.getElem?_set_self (List.getElem?_eq_some_iff.1 hs).1⟩
  · exact ⟨s'.position, Nat.le_refl _, by rwa [List.getElem?_set_ne hij]⟩

theorem Shared.advance (h : Shared capacity topics earlier events d)
    (hd : Advances i s e d d') : Shared capacity topics earlier events d' where
  isOpen := hd.bus_eq ▸ h.isOpen
  hasReaders := hd.bus_eq ▸ h.hasReaders
  capacity_eq := hd.bus_eq ▸ h.capacity_eq
  log_eq := hd.bus_eq ▸ h.log_eq
  patterns := by
    obtain ⟨l₁, l₂, hsplit, hset⟩ :=
      exists_split_set hd.getElem? { s with position := s.position + 1 }
    rw [← h.patterns, hd.subscriptions_eq, hset, hsplit]
    simp
  le_length := by
    rw [hd.subscriptions_eq, hd.bus_eq]
    intro s' hs'
    rcases List.mem_or_eq_of_mem_set hs' with hs' | rfl
    · exact h.le_length s' hs'
    · exact (List.getElem?_eq_some_iff.1 hd.log_getElem?).1
  isClosing := hd.isClosing_eq.trans h.isClosing
  isCancelled := hd.isCancelled_eq.trans h.isCancelled
  goesOn := hd.goesOn
  taken := by
    intro j place e' ht
    rw [hd.taken_eq, List.mem_append] at ht
    rw [hd.bus_eq]
    rcases ht with ht | ht
    · obtain ⟨hget, s', hs', hsel, hlt⟩ := h.taken j place e' ht
      obtain ⟨position, hle, hs'⟩ := hd.getElem?_of_getElem? hs'
      exact ⟨hget, _, hs', hsel, hlt.trans_le hle⟩
    · split at ht
      next hsel =>
        obtain ⟨rfl, rfl, rfl⟩ : j = i ∧ place = s.position ∧ e' = e := by simpa using ht
        rw [hd.subscriptions_eq]
        have hi := (List.getElem?_eq_some_iff.1 hd.getElem?).1
        exact ⟨hd.log_getElem?, _, List.getElem?_set_self hi, hsel, Nat.lt_succ_self _⟩
      next => cases ht
  ordered := by
    rw [hd.taken_eq, List.pairwise_append]
    refine ⟨h.ordered, by split <;> simp, ?_⟩
    rintro ⟨j, place, e'⟩ ht t ht' hj
    obtain ⟨-, s', hs', -, hlt⟩ := h.taken j place e' ht
    split at ht'
    next =>
      obtain rfl := List.mem_singleton.1 ht'
      obtain rfl : j = i := hj
      obtain rfl : s = s' := Option.some.inj (hd.getElem?.symm.trans hs')
      exact hlt
    next => cases ht'
  timesTaken := by
    intro place e' hplace he'
    rw [hd.bus_eq] at he'
    rw [hd.timesTaken_eq, hd.shareAt_eq, h.timesTaken place e' hplace he']
    by_cases hat : place = s.position
    · subst hat
      obtain rfl : e = e' := Option.some.inj (hd.log_getElem?.symm.trans he')
      rfl
    · simp [hat]

/-- Nothing ends a consumer on a calm bus: where it has nothing to ask, it waits. -/
theorem Shared.rest_eq (h : Shared capacity topics earlier events d)
    (hq : d.rest.question? = none) : d.rest = .done true := by
  obtain ⟨p, hp⟩ := h.goesOn
  rw [hp] at hq ⊢
  cases p with
  | done _ => rfl
  | ask q next => cases hq

/-! ### A turn -/

/-- What is published is still to be read by all subscriptions. -/
theorem Shared.append (h : Shared capacity topics earlier events d) {b : MemoryBus}
    {es : List BusEvent} (hopen : b.isClosed = false) (hreaders : b.hasReaders)
    (hcapacity : b.capacity = d.bus.capacity) (hlog : b.log = d.bus.log ++ es) :
    Shared capacity topics earlier (events ++ es) { d with bus := b } where
  isOpen := hopen
  hasReaders := hreaders
  capacity_eq := hcapacity.trans h.capacity_eq
  log_eq := by rw [hlog, h.log_eq, List.append_assoc]
  patterns := h.patterns
  le_length s hs := by
    rw [hlog, List.length_append]
    exact Nat.le_add_right_of_le (h.le_length s hs)
  isClosing := h.isClosing
  isCancelled := h.isCancelled
  goesOn := h.goesOn
  taken i place e ht := by
    obtain ⟨hget, hs⟩ := h.taken i place e ht
    have hlt := (List.getElem?_eq_some_iff.1 hget).1
    refine ⟨?_, hs⟩
    rw [hlog, List.getElem?_append_left hlt]
    exact hget
  ordered := h.ordered
  timesTaken place e hplace he := by
    rcases Nat.lt_or_ge place d.bus.log.length with hlt | hge
    · rw [hlog, List.getElem?_append_left hlt] at he
      exact h.timesTaken place e hplace he
    · have htaken : d.timesTaken place = 0 := by
        refine List.countP_eq_zero.2 ?_
        rintro ⟨i, place', e'⟩ ht
        have hlt := (List.getElem?_eq_some_iff.1 (h.taken i place' e' ht).1).1
        simp only [decide_eq_true_eq]
        omega
      have hshare : d.shareAt place e = 0 := by
        refine List.countP_eq_zero.2 fun s hs => ?_
        have hle := h.le_length s hs
        simp only [Bool.and_eq_true, decide_eq_true_eq]
        omega
      exact htaken.trans hshare.symm

/-- An answer lets the consumer go on, and takes nothing. -/
theorem Shared.answer (h : Shared capacity topics earlier events d) {q : Request}
    {next : q.Answer → Action Bool} (hrest : d.rest = .ask q next) (a : q.Answer) :
    Shared capacity topics earlier events
      { d with rest := next a, trace := d.trace ++ (work [⟨q, a⟩]).map .called } := by
  obtain ⟨p, hp⟩ := h.goesOn
  have hgoesOn : ∃ p' : Action Unit, next a = do p'; return true := by
    rw [hrest] at hp
    cases p with
    | done _ => cases hp
    | ask q' next' =>
      cases hp
      exact ⟨next' a, rfl⟩
  have htaken : (d.trace ++ (work [⟨q, a⟩]).map Entry.called).filterMap Entry.taken? = d.taken := by
    rw [List.filterMap_append, filterMap_taken?_called, List.append_nil]
    rfl
  refine ⟨h.isOpen, h.hasReaders, h.capacity_eq, h.log_eq, h.patterns, h.le_length, h.isClosing,
    h.isCancelled, hgoesOn, ?_, ?_, ?_⟩
  · rw [Duty.taken, htaken]
    exact h.taken
  · rw [Duty.taken, htaken]
    exact h.ordered
  · intro place e
    rw [Duty.timesTaken, Duty.taken, htaken]
    exact h.timesTaken place e

/-- A turn on a calm bus adds what is published, and nothing else ends the consumer. -/
theorem Shared.step (h : Shared capacity topics earlier events d) (htopics : topics ≠ [])
    (hkept : d.KeepsUp capacity) {t : Turn} (ht : t.IsCalm d) :
    Shared capacity topics earlier (events ++ published [t]) (d.step t) := by
  have hquiet (ht : t.published? = none) : events ++ published [t] = events := by
    rw [published, List.filterMap_cons, ht]
    exact List.append_nil events
  refine d.step_elim t fun d' hmoves => ?_
  cases hmoves with
  | stay hpublished => rwa [hquiet hpublished]
  | refuse hclosed =>
    rw [h.isOpen] at hclosed
    cases hclosed
  | @publish e b publication hpublish =>
    rw [MemoryBus.publish_of_isOpen h.isOpen, if_pos h.hasReaders] at hpublish
    cases hpublish
    exact h.append h.isOpen h.hasReaders rfl rfl
  | meanwhile b =>
    obtain ⟨hopen, hreaders, hcapacity, hlog⟩ := ht
    refine h.append ?_ hreaders hcapacity (hlog.trans (List.append_nil _).symm)
    rw [h.isOpen, hopen]
    rfl
  | cancel => exact ht.elim
  | answer hrest reply =>
    rw [hquiet rfl]
    exact h.answer hrest _
  | @pass i s hready hs hread =>
    rw [hquiet rfl]
    rcases h.read hkept (List.mem_of_getElem? hs) with ⟨-, hwaiting⟩ | ⟨e, he, hevent⟩
    · have hset : d.subscriptions.set i s = d.subscriptions := by
        obtain ⟨hi, rfl⟩ := List.getElem?_eq_some_iff.1 hs
        exact List.set_getElem_self hi
      rw [hwaiting, hset]
      exact h
    · have hsel : s.selects e = false := by
        by_contra hsel
        rw [hevent, if_pos (by simpa using hsel)] at hread
        exact hread e rfl
      rw [hevent]
      exact h.advance ⟨hs, he, rfl, rfl, rfl, h.goesOn, rfl, by simp [Duty.taken, hsel]⟩
  | @take i s e hready hs hread =>
    rw [hquiet rfl]
    rcases h.read hkept (List.mem_of_getElem? hs) with ⟨-, hwaiting⟩ | ⟨e', he, hevent⟩
    · rw [hwaiting] at hread
      cases hread
    · rw [hevent] at hread ⊢
      dsimp only at hread
      split at hread
      next hsel =>
        cases hread
        refine h.advance ⟨hs, he, rfl, rfl, rfl, ⟨_, rfl⟩, rfl, ?_⟩
        simp [Duty.taken, hsel, Entry.taken?]
      next => cases hread
  | finish hready hend =>
    rcases hend with hclosed | hnone
    · rw [h.isOpen] at hclosed
      cases hclosed
    · have hpatterns := h.patterns
      rw [hnone] at hpatterns
      exact absurd (List.map_eq_nil_iff.1 hpatterns.symm) htopics
  | stop hrest hclosing hend =>
    rw [h.rest_eq (by rw [hrest]; rfl)] at hrest
    cases hrest
    rw [h.isCancelled] at hend
    simp at hend

/-- What has been taken after a calm sequence of turns. -/
theorem Shared.play (h : Shared capacity topics earlier events d) (htopics : topics ≠ [])
    {turns : List Turn} (hcalm : d.IsCalm capacity turns) :
    Shared capacity topics earlier (events ++ published turns) (d.play turns) := by
  induction turns generalizing d events with
  | nil => rwa [published, List.filterMap_nil, List.append_nil]
  | cons t turns ih =>
    obtain ⟨hkept, ht, hturns⟩ := hcalm
    have hpublished : published (t :: turns) = published [t] ++ published turns :=
      List.filterMap_append (l := [t])
    rw [hpublished, ← List.append_assoc]
    exact ih (h.step htopics hkept ht) hturns

/-! ### Subscribing -/

/-- All topics are subscribed to on an open bus. -/
theorem subscribeAll_spec {bus : MemoryBus} (hbus : bus.Reached capacity)
    (hopen : bus.isClosed = false) (topics : List String) :
    ∃ subscriptions bus', Simulation.subscribeAll bus topics = .ok (subscriptions, bus') ∧
      bus'.Reached capacity ∧ bus'.isClosed = false ∧ bus'.log = bus.log ∧
      bus'.subscribers = bus.subscribers + topics.length ∧
      subscriptions.map (·.pattern) = topics.map Topic.subtree ∧
      ∀ s ∈ subscriptions, s.position ≤ bus.log.length := by
  induction topics generalizing bus with
  | nil => exact ⟨[], bus, rfl, hbus, hopen, rfl, rfl, rfl, fun _ hs => absurd hs List.not_mem_nil⟩
  | cons topic topics ih =>
    have hsubscribe := MemoryBus.subscribe_of_isOpen hopen topic
    obtain ⟨subscriptions, bus', hall, hbus', hopen', hlog, hsubscribers, hpatterns, hle⟩ :=
      ih (hbus.subscribe hsubscribe) hopen
    refine ⟨⟨Topic.subtree topic, bus.start topic⟩ :: subscriptions, bus', ?_, hbus', hopen', hlog,
      ?_, ?_, ?_⟩
    · rw [Simulation.subscribeAll, hsubscribe]
      change (Simulation.subscribeAll _ topics >>= _) = _
      rw [hall]
      rfl
    · rw [hsubscribers, List.length_cons]
      dsimp only
      omega
    · rw [List.map_cons, hpatterns, List.map_cons]
    · exact List.forall_mem_cons.2 ⟨hbus.start_le topic, hle⟩

/-- A consumer that has just subscribed has taken nothing. -/
theorem spawn_spec {bus : MemoryBus} (hbus : bus.Reached capacity) (hopen : bus.isClosed = false)
    (c : Consumer) : ∃ d, spawn c bus = .ok d ∧ Sound c d ∧ d.taken = [] ∧
      (c.topics = [] → d.subscriptions = []) ∧
      (c.topics ≠ [] → Shared capacity.nextPowerOfTwo c.topics bus.log [] d) := by
  obtain ⟨subscriptions, bus', hall, hbus', hopen', hlog, hsubscribers, hpatterns, hle⟩ :=
    subscribeAll_spec hbus hopen c.topics
  refine ⟨start c bus' subscriptions, ?_, .start c bus' subscriptions, rfl, ?_, ?_⟩
  · rw [spawn, hall]
    rfl
  · intro htopics
    rw [htopics] at hpatterns
    exact List.map_eq_nil_iff.1 hpatterns
  · intro htopics
    have hreaders : bus'.hasReaders := by
      have hpos := List.length_pos_iff.2 htopics
      simp only [MemoryBus.hasReaders, hsubscribers, Bool.or_eq_true, decide_eq_true_eq]
      omega
    refine ⟨hopen', hreaders, hbus'.sound.1, hlog.trans (List.append_nil _).symm, hpatterns,
      hlog ▸ hle, rfl, rfl, ⟨_, rfl⟩, fun _ _ _ ht => absurd ht List.not_mem_nil, .nil, ?_⟩
    intro place e hplace he
    have hlt := (List.getElem?_eq_some_iff.1 he).1
    exact absurd (hlog ▸ hlt) (Nat.not_lt.2 hplace)

/-! ### Shares -/

/-- How many topics in a list have words with which the type of an event begins. Each topic counts
    as often as it is there. -/
def share (topics : List String) (e : BusEvent) : Nat :=
  topics.countP fun topic => Topic.words topic <+: Topic.words e.eventType

theorem Shared.countP_selects (h : Shared capacity topics earlier events d)
    (hplain : ∀ topic ∈ topics, Topic.IsPlain topic) (e : BusEvent) :
    d.subscriptions.countP (·.selects e) = share topics e := calc
  d.subscriptions.countP (·.selects e)
    = (d.subscriptions.map (·.pattern)).countP (Topic.isMatch · e.eventType) := by
      rw [List.countP_map]
      rfl
  _ = topics.countP fun topic => Topic.isMatch (Topic.subtree topic) e.eventType := by
      rw [h.patterns, List.countP_map]
      rfl
  _ = share topics e := by
      refine List.countP_congr fun topic htopic => ?_
      rw [Topic.isMatch_subtree (hplain topic htopic), decide_eq_true_iff]

/-- What has been taken of the events that were published before and after the start of a consumer,
    each of them for each topic that selects it. -/
structure Shares (topics : List String) (earlier events : List BusEvent) (d : Duty) : Prop where
  taken : ∀ i place e, (i, place, e) ∈ d.taken → (earlier ++ events)[place]? = some e ∧
    ∃ topic, topics[i]? = some topic ∧ Topic.words topic <+: Topic.words e.eventType
  ordered : d.taken.Pairwise fun t t' => t.1 = t'.1 → t.2.1 < t'.2.1
  timesTaken : ∀ k e, events[k]? = some e → d.timesTaken (earlier.length + k) ≤ share topics e ∧
    (d.IsIdle → d.timesTaken (earlier.length + k) = share topics e)

theorem Shared.shares (h : Shared capacity topics earlier events d)
    (hplain : ∀ topic ∈ topics, Topic.IsPlain topic) : Shares topics earlier events d where
  taken i place e ht := by
    obtain ⟨hget, s, hs, hsel, -⟩ := h.taken i place e ht
    have hpattern := congrArg (·[i]?) h.patterns
    simp only [List.getElem?_map, hs, Option.map_some] at hpattern
    obtain ⟨topic, htopic, hpattern⟩ := Option.map_eq_some_iff.1 hpattern.symm
    refine ⟨h.log_eq ▸ hget, topic, htopic, ?_⟩
    rw [Subscription.selects, ← hpattern] at hsel
    exact (Topic.isMatch_subtree (hplain topic (List.mem_of_getElem? htopic)) _).1 hsel
  ordered := h.ordered
  timesTaken k e he := by
    have hlog : d.bus.log[earlier.length + k]? = some e := by
      rw [h.log_eq, List.getElem?_append_right (Nat.le_add_right _ _), Nat.add_sub_cancel_left]
      exact he
    rw [h.timesTaken _ e (Nat.le_add_right _ _) hlog, ← h.countP_selects hplain]
    refine ⟨List.countP_mono_left fun s _ hs => (Bool.and_eq_true_iff.1 hs).2, fun hidle => ?_⟩
    refine List.countP_congr fun s hs => ?_
    have hlt := (List.getElem?_eq_some_iff.1 hlog).1.trans_le (hidle.2 s hs)
    rw [Bool.and_eq_true, decide_eq_true_iff]
    exact and_iff_right hlt

/-- Without topics nothing is to be taken. -/
theorem shares_of_taken_eq_nil (h : d.taken = []) : Shares [] earlier events d where
  taken i place e ht := absurd (h ▸ ht) List.not_mem_nil
  ordered := h ▸ .nil
  timesTaken k e _ := by
    rw [Duty.timesTaken, h]
    exact ⟨Nat.le_refl _, fun _ => rfl⟩

/-- Where no topic begins with another, at most one selects an event. -/
theorem share_le_one {topics : List String} (hpairs : topics.Pairwise fun topic topic' =>
      ¬Topic.words topic <+: Topic.words topic' ∧ ¬Topic.words topic' <+: Topic.words topic)
    (e : BusEvent) : share topics e ≤ 1 := by
  induction hpairs with
  | nil => exact Nat.zero_le 1
  | @cons topic topics hhead _ ih =>
    rw [share, List.countP_cons]
    split
    next htopic =>
      rw [decide_eq_true_iff] at htopic
      have hnone : topics.countP
          (fun topic => decide (Topic.words topic <+: Topic.words e.eventType)) = 0 := by
        refine List.countP_eq_zero.2 fun topic' htopic' hprefix => ?_
        rw [decide_eq_true_iff] at hprefix
        obtain ⟨hnot, hnot'⟩ := hhead topic' htopic'
        exact (List.prefix_or_prefix_of_prefix htopic hprefix).elim hnot hnot'
      rw [hnone]
    next => exact ih

theorem share_pos_iff {topics : List String} {e : BusEvent} :
    0 < share topics e ↔ ∃ topic ∈ topics, Topic.words topic <+: Topic.words e.eventType := by
  rw [share, List.countP_pos_iff]
  simp only [decide_eq_true_iff]

/-! ### Catching up -/

theorem isCalm_append (d : Duty) (turns turns' : List Turn) :
    d.IsCalm capacity (turns ++ turns') ↔
      d.IsCalm capacity turns ∧ (d.play turns).IsCalm capacity turns' := by
  induction turns generalizing d with
  | nil =>
    refine iff_and_self.2 fun hcalm => ?_
    cases turns' with
    | nil => exact hcalm
    | cons t turns' => exact hcalm.1
  | cons t turns ih =>
    have hplay : d.play (t :: turns) = (d.step t).play turns := rfl
    rw [List.cons_append, IsCalm, IsCalm, ih, hplay, and_assoc, and_assoc]

theorem IsCalm.keepsUp {turns : List Turn} (h : d.IsCalm capacity turns) :
    (d.play turns).KeepsUp capacity := by
  rw [← List.append_nil turns, isCalm_append] at h
  exact h.2

/-- A turn of the consumer itself, in which questions are answered in a given way. -/
def Turn.IsOwn (reply : (q : Request) → q.Answer) (t : Turn) : Prop :=
  t = .answer reply ∨ ∃ i, t = .read i

/-- How much all subscriptions together have still to read. -/
def backlog (d : Duty) : Nat :=
  (d.subscriptions.map fun s => d.bus.log.length - s.position).sum

/-- Answers bring a consumer to the end of what it has begun, and change nothing else. -/
theorem exists_answers (d : Duty) (hkept : d.KeepsUp capacity)
    (reply : (q : Request) → q.Answer) :
    ∃ own : List Turn, (∀ t ∈ own, t.IsOwn reply) ∧ d.IsCalm capacity own ∧
      (d.play own).rest.question? = none ∧ (d.play own).bus = d.bus ∧
      (d.play own).subscriptions = d.subscriptions := by
  generalize hp : d.rest = p
  induction p generalizing d with
  | done goesOn =>
    exact ⟨[], fun _ ht => absurd ht List.not_mem_nil, hkept, congrArg _ hp, rfl, rfl⟩
  | ask q next ih =>
    have hstep : d.step (.answer reply) = { d with
        rest := next (reply q)
        trace := d.trace ++ (work [⟨q, reply q⟩]).map .called } := by
      rw [step, hp]
    obtain ⟨own, hown, hcalm, hrest⟩ :=
      ih (reply q) (d.step (.answer reply)) (hstep ▸ hkept) (by rw [hstep])
    refine ⟨.answer reply :: own, List.forall_mem_cons.2 ⟨.inl rfl, hown⟩,
      ⟨hkept, trivial, hcalm⟩, ?_⟩
    rw [hstep] at hrest
    rw [play, List.foldl_cons, hstep]
    exact hrest

theorem step_read (hready : d.isReady) (hs : d.subscriptions[i]? = some s) :
    (d.step (.read i)).bus = d.bus ∧
      (d.step (.read i)).subscriptions = d.subscriptions.set i (d.bus.read s).2 := by
  simp only [step, hs, hready, if_true]
  split <;> exact ⟨rfl, rfl⟩

/-- A subscription that has something to read goes on. -/
theorem Shared.backlog_lt (h : Shared capacity topics earlier events d)
    (hkept : d.KeepsUp capacity) (hrest : d.rest.question? = none)
    (hs : d.subscriptions[i]? = some s) (hlt : s.position < d.bus.log.length) :
    (d.step (.read i)).KeepsUp capacity ∧ (d.step (.read i)).backlog < d.backlog := by
  have hready : d.isReady := isReady_iff.2 ⟨h.rest_eq hrest, h.isClosing, h.isCancelled⟩
  obtain ⟨hbus, hsubscriptions⟩ := step_read hready hs
  rcases h.read hkept (List.mem_of_getElem? hs) with ⟨hge, -⟩ | ⟨e, -, hread⟩
  · exact absurd hlt (Nat.not_lt.2 hge)
  · rw [hread] at hsubscriptions
    constructor
    · rw [KeepsUp, hbus, hsubscriptions]
      intro s' hs'
      rcases List.mem_or_eq_of_mem_set hs' with hs' | rfl
      · exact hkept s' hs'
      · exact (Nat.sub_le_sub_left (Nat.le_succ _) _).trans
          (hkept s (List.mem_of_getElem? hs))
    · obtain ⟨l₁, l₂, hsplit, hset⟩ := exists_split_set hs { s with position := s.position + 1 }
      rw [backlog, backlog, hbus, hsubscriptions, hset, hsplit]
      simp only [List.map_append, List.map_cons, List.sum_append, List.sum_cons]
      omega

/-- If nothing else happens, a consumer comes to have nothing left to do. -/
theorem Shared.exists_isIdle (h : Shared capacity topics earlier events d) (htopics : topics ≠ [])
    (hkept : d.KeepsUp capacity) (reply : (q : Request) → q.Answer) :
    ∃ own : List Turn, (∀ t ∈ own, t.IsOwn reply) ∧ d.IsCalm capacity own ∧
      (d.play own).IsIdle := by
  -- By induction on the backlog, which every event that is read makes smaller.
  generalize hn : d.backlog = n
  induction n using Nat.strong_induction_on generalizing d events with
  | h n ih =>
    obtain ⟨own, hown, hcalm, hrest, hbus, hsubscriptions⟩ := d.exists_answers hkept reply
    by_cases hidle : (d.play own).IsIdle
    · exact ⟨own, hown, hcalm, hidle⟩
    · obtain ⟨i, s, hs, hlt⟩ : ∃ (i : Nat) (s : Subscription),
          (d.play own).subscriptions[i]? = some s ∧
            s.position < (d.play own).bus.log.length := by
        by_contra hnone
        refine hidle ⟨hrest, fun s hs => ?_⟩
        obtain ⟨i, hi⟩ := List.mem_iff_getElem?.1 hs
        exact Nat.le_of_not_lt fun hlt => hnone ⟨i, s, hi, hlt⟩
      have h := h.play htopics hcalm
      have hbacklog : (d.play own).backlog = n := by
        rw [← hn, backlog, backlog, hbus, hsubscriptions]
      obtain ⟨hkept', hlt⟩ := h.backlog_lt hcalm.keepsUp hrest hs hlt
      rw [hbacklog] at hlt
      have h := h.step htopics hcalm.keepsUp (t := .read i) trivial
      obtain ⟨own', hown', hcalm', hidle⟩ := ih _ hlt h hkept' rfl
      refine ⟨own ++ .read i :: own', ?_, ?_, ?_⟩
      · exact List.forall_mem_append.2 ⟨hown, List.forall_mem_cons.2 ⟨.inr ⟨i, rfl⟩, hown'⟩⟩
      · exact (isCalm_append _ _ _).2 ⟨hcalm, hcalm.keepsUp, trivial, hcalm'⟩
      · rw [play_append]
        exact hidle

/-- A consumer without subscriptions takes nothing. -/
theorem taken_play_of_nil (h : d.subscriptions = []) (turns : List Turn) :
    (d.play turns).subscriptions = [] ∧ (d.play turns).taken = d.taken := by
  induction turns generalizing d with
  | nil => exact ⟨h, rfl⟩
  | cons t turns ih =>
    have hstep : (d.step t).subscriptions = [] ∧ (d.step t).taken = d.taken := by
      refine d.step_elim t fun d' hmoves => ?_
      cases hmoves with
      | answer hrest reply =>
        rw [taken, List.filterMap_append, filterMap_taken?_called, List.append_nil]
        exact ⟨h, rfl⟩
      | pass _ hs _ =>
        rw [h] at hs
        cases hs
      | take _ hs _ =>
        rw [h] at hs
        cases hs
      | _ => exact ⟨h, rfl⟩
    obtain ⟨hnil, htaken⟩ := ih hstep.1
    exact ⟨hnil, htaken.trans hstep.2⟩

theorem exists_isIdle_of_nil (h : d.subscriptions = []) (reply : (q : Request) → q.Answer) :
    ∃ own : List Turn, (∀ t ∈ own, t.IsOwn reply) ∧ d.IsCalm capacity own ∧
      (d.play own).IsIdle := by
  have hkept : d.KeepsUp capacity := by
    rw [KeepsUp, h]
    exact fun _ hs => absurd hs List.not_mem_nil
  obtain ⟨own, hown, hcalm, hrest, -, hsubscriptions⟩ := d.exists_answers hkept reply
  refine ⟨own, hown, hcalm, hrest, ?_⟩
  rw [hsubscriptions, h]
  exact fun _ hs => absurd hs List.not_mem_nil

/-- A consumer subscribes to its topics on an open bus, whatever has been done with that before, and
    nobody cancels it or closes the bus. Questions are answered in any way, and the subscriptions
    are read in any order, but none has ever more to read than the capacity. Then each of them
    yields events whose types begin with the words of its topic, in the order of publication. An
    event that is published is taken at most once for each such topic in the list, and exactly once
    for each when nothing is left to be done, which the consumer can always reach by its own turns;
    all that has been taken is then handled and confirmed. So if no topic begins with another, each
    event is processed at most once, and exactly once if and only if its type begins with one of the
    topics. -/
theorem spawn_shares {bus : MemoryBus} (hbus : bus.Reached capacity) (hopen : bus.isClosed = false)
    (c : Consumer) (hplain : ∀ topic ∈ c.topics, Topic.IsPlain topic) :
    ∃ d₀, spawn c bus = .ok d₀ ∧ ∀ turns, d₀.IsCalm capacity.nextPowerOfTwo turns →
      let d := d₀.play turns
      (∀ i place e, (i, place, e) ∈ d.taken → (bus.log ++ published turns)[place]? = some e ∧
        ∃ topic, c.topics[i]? = some topic ∧ Topic.words topic <+: Topic.words e.eventType) ∧
      d.taken.Pairwise (fun t t' => t.1 = t'.1 → t.2.1 < t'.2.1) ∧
      (∀ k e, (published turns)[k]? = some e →
        let times := d.timesTaken (bus.log.length + k)
        times ≤ share c.topics e ∧ (d.IsIdle → times = share c.topics e) ∧
        (c.topics.Pairwise (fun topic topic' => ¬Topic.words topic <+: Topic.words topic' ∧
            ¬Topic.words topic' <+: Topic.words topic) →
          times ≤ 1 ∧ (d.IsIdle → (times = 1 ↔
            ∃ topic ∈ c.topics, Topic.words topic <+: Topic.words e.eventType)))) ∧
      (d.IsIdle → c.Carried d.trace) ∧
      ∀ reply, ∃ own : List Turn, (∀ t ∈ own, t.IsOwn reply) ∧
        d₀.IsCalm capacity.nextPowerOfTwo (turns ++ own) ∧ (d₀.play (turns ++ own)).IsIdle := by
  obtain ⟨d₀, hspawn, hsound, htaken, hnone, hsome⟩ := spawn_spec hbus hopen c
  refine ⟨d₀, hspawn, fun turns hcalm => ?_⟩
  have hcatchUp (reply : (q : Request) → q.Answer) : ∃ own : List Turn,
      (∀ t ∈ own, t.IsOwn reply) ∧ (d₀.play turns).IsCalm capacity.nextPowerOfTwo own ∧
        ((d₀.play turns).play own).IsIdle := by
    by_cases htopics : c.topics = []
    · exact exists_isIdle_of_nil (taken_play_of_nil (hnone htopics) turns).1 reply
    · exact ((hsome htopics).play htopics hcalm).exists_isIdle htopics hcalm.keepsUp reply
  have hshares : (d₀.play turns).Shares c.topics bus.log (published turns) := by
    by_cases htopics : c.topics = []
    · have hnil := (taken_play_of_nil (hnone htopics) turns).2
      rw [htopics]
      exact shares_of_taken_eq_nil (hnil.trans htaken)
    · exact ((hsome htopics).play htopics hcalm).shares hplain
  refine ⟨hshares.taken, hshares.ordered, fun k e he => ?_, ?_, fun reply => ?_⟩
  · obtain ⟨hle, heq⟩ := hshares.timesTaken k e he
    refine ⟨hle, heq, fun hpairs => ?_⟩
    have hone := share_le_one hpairs e
    refine ⟨hle.trans hone, fun hidle => ?_⟩
    rw [heq hidle, ← share_pos_iff]
    omega
  · exact fun hidle => (hsound.play turns).stands.carried hidle.1
  · obtain ⟨own, hown, hcalm', hidle⟩ := hcatchUp reply
    rw [← play_append] at hidle
    exact ⟨own, hown, (isCalm_append _ _ _).2 ⟨hcalm, hcalm'⟩, hidle⟩

/-- A consumer of a topic and of one below it. -/
def archivist : Consumer := .new ["user", "user.profile"] [.external "archive" .all]

def profileChanged : BusEvent := ⟨"1", "user.profile.changed", []⟩

def userNameChanged : BusEvent := ⟨"2", "username.changed", []⟩

/-- An event that begins with both topics is processed twice, and one whose first word only begins
    like that of the topics is not processed. -/
theorem spawn_shares_archivist :
    ∃ d₀, spawn archivist (.new 2) = .ok d₀ ∧ ∃ turns,
      published turns = [profileChanged, userNameChanged] ∧ (d₀.play turns).IsIdle ∧
        (d₀.play turns).timesTaken 0 = 2 ∧ (d₀.play turns).timesTaken 1 = 0 := by
  have hbus : MemoryBus.Reached 2 (.new 2) := .new
  obtain ⟨d₀, hspawn, hshares⟩ := spawn_shares hbus rfl archivist (by decide +kernel)
  have hcalm : d₀.IsCalm (Nat.nextPowerOfTwo 2)
      [.publish profileChanged, .publish userNameChanged] := by
    have hle := le_nextPowerOfTwo 2
    have hstart : Except.ok (start archivist
        { MemoryBus.new 2 with subscribers := 2 }
        [⟨Topic.subtree "user", 0⟩, ⟨Topic.subtree "user.profile", 0⟩]) = Except.ok d₀ := hspawn
    cases hstart
    have hlog (d : Duty) (hd : d.bus.log.length ≤ 2) : d.KeepsUp (Nat.nextPowerOfTwo 2) :=
      fun s _ => (Nat.sub_le _ _).trans (hd.trans hle)
    exact ⟨hlog _ (by decide), trivial, hlog _ (by decide), trivial, hlog _ (by decide)⟩
  obtain ⟨reply⟩ : Nonempty ((q : Request) → q.Answer) := inferInstance
  obtain ⟨-, -, -, -, hcatchUp⟩ := hshares _ hcalm
  obtain ⟨own, hown, hcalm', hidle⟩ := hcatchUp reply
  have hpublished : published ([.publish profileChanged, .publish userNameChanged] ++ own) =
      [profileChanged, userNameChanged] := by
    have hnone : published own = [] := by
      refine List.filterMap_eq_nil_iff.2 fun t ht => ?_
      obtain rfl | ⟨i, rfl⟩ := hown t ht <;> rfl
    rw [published, List.filterMap_append, ← published, ← published, hnone]
    rfl
  obtain ⟨-, -, htimes, -⟩ := hshares _ hcalm'
  rw [hpublished] at htimes
  refine ⟨d₀, hspawn, _, hpublished, hidle, ?_, ?_⟩
  · exact ((htimes 0 profileChanged rfl).2.1 hidle).trans (by decide +kernel)
  · exact ((htimes 1 userNameChanged rfl).2.1 hidle).trans (by decide +kernel)

end Duty

end Courier
