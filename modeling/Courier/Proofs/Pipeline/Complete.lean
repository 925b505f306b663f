import Courier.Proofs.Pipeline.Settle

/-!
# Everything reaches its user

When enough ticks have begun and everything waits, all that has happened has reached its user, and
nothing has reached anybody twice. It does not matter how worker and consumer took turns, and in
which order the consumer has read its subscriptions.

* `Pipeline.Delivered`: everything has reached its user.
* `Pipeline.Sound.delivered`: it has when enough ticks have begun and everything waits.
* `Pipeline.start_delivered`: that holds of every sequence of turns, and each can be followed by
  others after which everything waits.
-/

namespace Courier

open Notification Outbox Simulation

namespace Pipeline

variable {w : Worker} {service : Service} {batch : List Event} {occurrences : List Occurrence}
  {p : Pipeline}

/-- All that has happened has reached its user, and the outbox and the bus have been told so. -/
structure Delivered (service : Service) (occurrences : List Occurrence) (p : Pipeline) : Prop where
  rows : p.surroundings.stores.outbox.events.map (fun e => (e.eventType, e.payload)) =
    occurrences.map fun o => (o.eventType, o.payload)
  published : ∀ row ∈ p.surroundings.stores.outbox.events, row.status = .published
  confirmed : p.surroundings.bus.confirmed = occurrences.length
  /-- Asked for the number of unread notifications of a user, the inbox answers how often something
      has happened to the user. -/
  unread : ∀ userId, ∃ s, p.surroundings.answer? (.inbox (.unreadCount userId)) =
    some (.ok (occurrences.countP fun o => o.userId = userId), s)
  mailed : p.surroundings.mailed.Perm (occurrences.flatMap (·.mails service))

/-! ### The beginning -/

theorem Upstream.ready {s : Surroundings} {subscriptions : List Subscription}
    (houtbox : s.stores.outbox = .empty) (hlog : s.bus.log = []) :
    Upstream w batch (ready service w s subscriptions batch) (.dealing []) where
  worker := rfl
  follows := rfl
  underway := by
    change Underway _ s.stores.outbox _ s.bus.log
    rw [houtbox, hlog]
    refine ⟨Store.distinct_empty, .nil _, ?_, ?_, .nil⟩
    · rintro e ⟨⟩
    · rintro row ⟨⟩
  unstored := by
    rintro b ⟨⟩
    exact ⟨rfl, congrArg Store.events houtbox, rfl⟩
  stored := by rintro ⟨⟩
  pending := by rintro ⟨⟩

/-- Subscriptions to the topics of the service that have read nothing. -/
def subscriptionsAtStart : List Subscription :=
  [⟨Topic.subtree translationTopic, 0⟩, ⟨Topic.subtree userTopic, 0⟩]

theorem Downstream.ready {s : Surroundings} (hids : s.ids = batch.length)
    (hinbox : s.stores.inbox = .empty)
    (hpreferences : ∀ userId p, s.stores.preferences.get? userId = some p → p.inAppEnabled = true)
    (heffects : s.effects = []) (hconfirmed : s.bus.confirmed = 0) :
    Downstream service batch.length (ready service w s subscriptionsAtStart batch)
      ⟨.empty, none, 0⟩ [] where
  consumer := rfl
  follows := rfl
  agrees := by
    refine ⟨?_, ?_, ?_, hconfirmed, ?_, ?_, hpreferences⟩
    · change s.stores.inbox.values.map _ = []
      rw [hinbox]
      rfl
    · change ∀ n ∈ s.stores.inbox.values, _
      rw [hinbox]
      rintro n ⟨⟩
    · change s.effects.filterMap _ = []
      rw [heffects]
      rfl
    · change ∀ id, s.stores.inbox.get? id ≠ none → _
      rw [hinbox]
      exact fun id hid => absurd (Table.get?_empty id) hid
    · rintro id ⟨⟩
  seen := .nil
  patterns := rfl
  position_le := by
    intro x hx
    have hzero : x.position = 0 := by
      rcases List.mem_pair.1 hx with rfl | rfl
      · rfl
      · rfl
    rw [hzero]
    exact Nat.zero_le _
  ids_le := Nat.le_of_eq hids

/-- The pipeline starts, and what holds after every turn holds then. -/
theorem start_sound (service : Service) (w : Worker) {capacity : Nat}
    {preferences : Preferences.Store}
    (hlen : occurrences.length ≤ capacity) (hcapacity : capacity ≤ MemoryBus.greatestCapacity)
    (hpreferences : ∀ userId p, preferences.get? userId = some p → p.inAppEnabled = true) :
    ∃ p batch, start service w capacity preferences occurrences = some p ∧
      p.Sound service w batch ∧ List.Forall₂ Occurrence.RaisedAs occurrences batch := by
  have hsubscribed : subscribeAll (.new capacity) [translationTopic, userTopic] =
      .ok (subscriptionsAtStart, { MemoryBus.new capacity with subscribers := 2 }) := rfl
  obtain ⟨batch, hrun, hraised, hids⟩ := runToDelay_raiseAll occurrences .empty
    { Surroundings.new { MemoryBus.new capacity with subscribers := 2 } true none with
      stores.preferences := preferences }
  have hlength : batch.length = occurrences.length := hraised.length_eq.symm
  have hroom : 5 * batch.length < Uuid.size := by
    have hsize : 5 * MemoryBus.greatestCapacity < Uuid.size := by decide
    omega
  have hbatch : IsRaised batch := by
    refine Occurrence.isRaised hraised ?_ (by omega)
    rw [hids, hlength, List.range_eq_range']
    rfl
  have hle : batch.length ≤ capacity.nextPowerOfTwo := by
    rw [hlength]
    exact Nat.le_trans hlen (le_nextPowerOfTwo capacity)
  rw [start, hsubscribed]
  dsimp only
  rw [hrun]
  refine ⟨_, batch, rfl, ⟨⟨rfl, rfl, rfl, rfl, rfl, rfl, Nat.zero_lt_two⟩, hbatch, hroom, hle,
    ⟨_, .ready rfl rfl⟩, ⟨.empty, none, 0⟩, [], .ready ?_ rfl hpreferences rfl rfl⟩, hraised⟩
  change 0 + occurrences.length = batch.length
  rw [Nat.zero_add, hlength]

/-! ### The end -/

/-- When enough ticks have begun and the worker rests, everything has been published. -/
theorem Upstream.drained {k : Stage} (h : p.Upstream w batch k) (hquiet : p.IsQuiet)
    (hticks : batch.length ≤ p.ticks * w.limit.toNat) :
    (∀ row ∈ p.surroundings.stores.outbox.events, row.status = .published) ∧
      p.surroundings.bus.log.Perm (batch.map .ofOutbox) := by
  obtain rfl := h.follows.wanted_of_question?_eq_none hquiet.resting
  have hnone : p.surroundings.stores.outbox.pending = [] := by
    have hle := h.pending hquiet.stored
    rw [Nat.sub_eq_zero_of_le hticks] at hle
    exact List.eq_nil_of_length_eq_zero (Nat.le_zero.1 hle)
  have hpublished : ∀ row ∈ p.surroundings.stores.outbox.events, row.status = .published := by
    intro row hr
    rcases (h.underway.rows row hr).2 with hp | hp
    · have hmem : row ∈ p.surroundings.stores.outbox.pending :=
        List.mem_filter.2 ⟨hr, by simpa using hp⟩
      rw [hnone] at hmem
      cases hmem
    · exact hp
  refine ⟨hpublished, ?_⟩
  have hall : p.surroundings.stores.outbox.published = p.surroundings.stores.outbox.events :=
    List.filter_eq_self.2 (by simpa using hpublished)
  -- An event goes out with its facts alone, which are those of the batch.
  have hevents : p.surroundings.stores.outbox.events.map BusEvent.ofOutbox =
      batch.map BusEvent.ofOutbox := by
    have hfacts := congrArg (List.map fun f => (⟨f.1.text, f.2.2.2.1, f.2.2.2.2.1⟩ : BusEvent))
      (h.stored hquiet.stored)
    rwa [List.map_map, List.map_map] at hfacts
  have hlog := h.underway.log
  rw [hall, show (Stage.dealing []).inFlight = [] from rfl, List.append_nil, hevents] at hlog
  exact hlog

/-- When the consumer waits, it has handled every event on the bus once. -/
theorem Downstream.drained {size : Nat} {d : Desk} {handled : List BusEvent}
    (h : p.Downstream service size d handled) (hbus : p.surroundings.bus.IsComplete)
    (hquiet : p.IsQuiet)
    (htopics : ∀ e ∈ p.surroundings.bus.log, Topic.isMatch (Topic.subtree userTopic) e.eventType =
      !Topic.isMatch (Topic.subtree translationTopic) e.eventType) :
    handled.Perm p.surroundings.bus.log := by
  have hseen : ∀ s ∈ p.subscriptions,
      p.surroundings.bus.seen s = p.surroundings.bus.log.filter s.selects := fun s hs =>
    (MemoryBus.next_spec hbus (h.position_le s hs)).seen_eq (hquiet.waiting s hs)
  have hhandled := h.seen
  rw [List.flatMap_congr hseen] at hhandled
  obtain ⟨s, s', hsubs⟩ : ∃ s s', p.subscriptions = [s, s'] := by
    have hlength := congrArg List.length h.patterns
    rw [List.length_map] at hlength
    exact List.length_eq_two.1 hlength
  have hpatterns := h.patterns
  rw [hsubs] at hpatterns hhandled
  simp only [List.map_cons, List.map_nil, List.cons.injEq, and_true] at hpatterns
  obtain ⟨hs, hs'⟩ := hpatterns
  simp only [List.flatMap_cons, List.flatMap_nil, List.append_nil] at hhandled
  -- The two subscriptions share the log between them.
  have hother : p.surroundings.bus.log.filter s'.selects =
      p.surroundings.bus.log.filter fun e => !s.selects e := by
    refine List.filter_congr ?_
    intro e he
    rw [Subscription.selects, Subscription.selects, hs, hs']
    exact htopics e he
  rw [hother] at hhandled
  exact hhandled.trans (List.filter_append_perm _ _)

/-- When enough ticks have begun and everything waits, everything has reached its user. -/
theorem Sound.delivered (h : p.Sound service w batch)
    (hraised : List.Forall₂ Occurrence.RaisedAs occurrences batch) (hquiet : p.IsQuiet)
    (hticks : batch.length ≤ p.ticks * w.limit.toNat) : p.Delivered service occurrences := by
  obtain ⟨k, hup⟩ := h.upstream
  obtain ⟨d, handled, hdown⟩ := h.downstream
  obtain ⟨hpublished, hlog⟩ := hup.drained hquiet hticks
  have hhandled : handled.Perm (batch.map .ofOutbox) := by
    refine (hdown.drained h.isComplete hquiet ?_).trans hlog
    intro e he
    exact Occurrence.selects_topics hraised e (hlog.mem_iff.1 he)
  have hoccurrences : (handled.filterMap Occurrence.ofBusEvent?).Perm occurrences := by
    have hperm := hhandled.filterMap Occurrence.ofBusEvent?
    rwa [Occurrence.filterMap_ofBusEvent? hraised] at hperm
  have htidings : d.tidings = .ofEvents service handled :=
    hdown.follows.wanted_of_question?_eq_none hquiet.idle
  rw [Tidings.ofEvents_eq] at htidings
  refine ⟨?_, hpublished, ?_, ?_, ?_⟩
  · have hfacts := congrArg (List.map fun f => (f.2.2.2.1, f.2.2.2.2.1)) (hup.stored hquiet.stored)
    rw [List.map_map, List.map_map] at hfacts
    exact hfacts.trans (Occurrence.map_eq hraised)
  · have hconfirmed : p.surroundings.bus.confirmed = d.tidings.confirmed := hdown.agrees.confirmed
    rw [hconfirmed, htidings]
    change handled.length = _
    rw [hhandled.length_eq, List.length_map, hraised.length_eq]
  · intro userId
    obtain ⟨s, hanswer⟩ := h.healthy.answer?_unreadCount userId
    have hunread : (p.surroundings.stores.inbox.unread userId).length =
        d.tidings.notified.countP (· = userId) := hdown.agrees.length_unread userId
    rw [hunread, htidings] at hanswer
    dsimp only at hanswer
    rw [List.countP_map, hoccurrences.countP_eq] at hanswer
    exact ⟨s, hanswer⟩
  · have hmailed : p.surroundings.mailed = d.tidings.mailed := hdown.agrees.mailed
    rw [hmailed, htidings]
    exact hoccurrences.flatMap_right _

/-- What has happened is raised, and the bus has room for all of it. However worker and consumer
    take turns then, when enough ticks have begun and everything waits, everything has reached its
    user. And whatever turns they have taken, it can still come to that. -/
theorem start_delivered (service : Service) (hbatch : 0 < w.batchSize) (hm : 0 < w.maxRetries)
    {capacity : Nat} (hlen : occurrences.length ≤ capacity)
    (hcapacity : capacity ≤ MemoryBus.greatestCapacity) {preferences : Preferences.Store}
    (hpreferences : ∀ userId p, preferences.get? userId = some p → p.inAppEnabled = true) :
    ∃ p, start service w capacity preferences occurrences = some p ∧ ∀ turns,
      ((p.play turns).IsQuiet → occurrences.length ≤ (p.play turns).ticks * w.batchSize →
        (p.play turns).Delivered service occurrences) ∧
      ∃ turns', (p.play (turns ++ turns')).IsQuiet ∧
        occurrences.length ≤ (p.play (turns ++ turns')).ticks * w.batchSize := by
  obtain ⟨p, batch, hstart, hsound, hraised⟩ :=
    start_sound service w hlen hcapacity hpreferences
  refine ⟨p, hstart, fun turns => ⟨?_, ?_⟩⟩
  · intro hquiet hticks
    refine (hsound.play hm turns).delivered hraised hquiet ?_
    rw [← hraised.length_eq]
    exact Worker.le_mul_limit (Nat.le_trans hlen hcapacity) hticks
  · obtain ⟨turns', hquiet, hticks⟩ := (hsound.play hm turns).settles hm occurrences.length
    refine ⟨turns', ?_⟩
    rw [play_append]
    exact ⟨hquiet, Nat.le_trans hticks (Nat.le_mul_of_pos_right _ hbatch)⟩

/-- A new user and a translation for the user. -/
def newcomer : List Occurrence :=
  [.user ⟨.ofNat 7, "user@example.org", some "Ada"⟩,
    .translation ⟨.ofNat 8, .ofNat 7, "en", "de", "hello", "hallo"⟩]

/-- Both reach the user, one e-mail goes out, and there is a run in which that happens. -/
theorem start_delivered_newcomer :
    ∃ p turns s, start ⟨some "smtp", none, none⟩ ⟨1000, 1, 3⟩ 2 .empty newcomer = some p ∧
      (p.play turns).IsQuiet ∧ (p.play turns).surroundings.bus.confirmed = 2 ∧
      (p.play turns).surroundings.answer? (.inbox (.unreadCount (.ofNat 7))) = some (.ok 2, s) ∧
      (p.play turns).surroundings.mailed.map (·.recipients) = [["user@example.org"]] := by
  have hpreferences : ∀ userId p,
      (.empty : Preferences.Store).get? userId = some p → p.inAppEnabled = true := by
    rintro userId p ⟨⟩
  obtain ⟨p, hstart, hplay⟩ := start_delivered ⟨some "smtp", none, none⟩ (w := ⟨1000, 1, 3⟩)
    (by decide) (by decide) (show newcomer.length ≤ 2 by decide) (by decide) hpreferences
  obtain ⟨turns, hquiet, hticks⟩ := (hplay []).2
  have hdelivered := (hplay turns).1 hquiet hticks
  obtain ⟨s, hunread⟩ := hdelivered.unread (.ofNat 7)
  refine ⟨p, turns, s, hstart, hquiet, hdelivered.confirmed, ?_, ?_⟩
  · rw [hunread]
    rfl
  · rw [List.perm_singleton.1 hdelivered.mailed]
    rfl

end Pipeline

end Courier
