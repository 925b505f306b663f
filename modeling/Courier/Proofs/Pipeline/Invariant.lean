import Courier.Proofs.Pipeline.System

/-!
# What every turn keeps

Between the outbox and the users lies the log of the bus. Upstream of it, the worker keeps what has
been published in step with the outbox (`Upstream`); downstream, what the consumer has handled is
what its subscriptions have seen of the log, and what has been done for users is what the handled
events ask for (`Downstream`). An answer to one of the two leaves the side of the other as it is.

* `Pipeline.Sound`: both sides, for some stage of the worker and some desk of the consumer.
* `Pipeline.Sound.step`, `Pipeline.Sound.play`: it is kept by every turn, and so by every sequence
  of turns.
-/

namespace Courier

open Notification Outbox Simulation

namespace Pipeline

variable {w : Worker} {service : Service} {batch : List Event} {p : Pipeline}

/-- The side of the worker. -/
structure Upstream (w : Worker) (batch : List Event) (p : Pipeline) (k : Stage) : Prop where
  worker : p.worker = w
  follows : p.work.Follows (Stage.protocol w.maxRetries) (fun k _ => k = .dealing []) k
  underway : Underway w.maxRetries p.surroundings.stores.outbox k p.surroundings.bus.log
  unstored : ∀ b ∈ p.unstored, b = batch ∧ p.surroundings.stores.outbox.events = [] ∧ p.ticks = 0
  stored : p.unstored = none →
    p.surroundings.stores.outbox.events.map (·.facts) = batch.map (·.facts)
  /-- With every tick fewer events are pending, by as many as the worker fetches. -/
  pending : p.unstored = none → p.surroundings.stores.outbox.pending.length ≤
    k.load + (batch.length - p.ticks * w.limit.toNat)

/-- The side of the consumer. -/
structure Downstream (service : Service) (size : Nat) (p : Pipeline) (d : Desk)
    (handled : List BusEvent) : Prop where
  consumer : p.consumer = Notifier.dispatcher service [translationTopic, userTopic]
  follows : p.handling.Follows Desk.protocol
    (fun d' _ => d'.tidings = .ofEvents service handled) d
  agrees : p.surroundings.office.Agrees d
  seen : handled.Perm (p.subscriptions.flatMap p.surroundings.bus.seen)
  patterns : p.subscriptions.map (·.pattern) =
    [Topic.subtree translationTopic, Topic.subtree userTopic]
  position_le : ∀ s ∈ p.subscriptions, s.position ≤ p.surroundings.bus.log.length
  /-- Two identifiers at most are asked for in handling a delivery. -/
  ids_le : p.surroundings.ids + d.budget ≤ size + 2 * handled.length

/-- What holds after every sequence of turns. -/
structure Sound (service : Service) (w : Worker) (batch : List Event) (p : Pipeline) : Prop where
  healthy : p.surroundings.Healthy
  raised : IsRaised batch
  /-- There are identifiers enough for the events and for all that is asked for in handling them. -/
  room : 5 * batch.length < Uuid.size
  capacity : batch.length ≤ p.surroundings.bus.capacity
  upstream : ∃ k, p.Upstream w batch k
  downstream : ∃ d handled, p.Downstream service batch.length d handled

/-! ### The two sides apart -/

/-- No more events are published than there are. -/
theorem Upstream.length_le {k : Stage} (h : p.Upstream w batch k) :
    p.surroundings.bus.log.length ≤ batch.length := by
  refine Nat.le_trans h.underway.length_le ?_
  cases hu : p.unstored with
  | none =>
    have hlength := congrArg List.length (h.stored hu)
    rw [List.length_map, List.length_map] at hlength
    exact Nat.le_of_eq hlength
  | some b =>
    rw [(h.unstored b hu).2.1]
    exact Nat.zero_le _

/-- What the consumer does is no concern of the worker. -/
theorem Upstream.spare {k : Stage} (h : p.Upstream w batch k) {s : Surroundings}
    (hs : p.surroundings.Spares s) (handling : Action Unit) (subscriptions : List Subscription) :
    Upstream w batch
      { p with surroundings := s, handling := handling, subscriptions := subscriptions } k where
  worker := h.worker
  follows := h.follows
  underway := by
    change Underway w.maxRetries s.stores.outbox k s.bus.log
    rw [hs.outbox, hs.log]
    exact h.underway
  unstored := by
    change ∀ b ∈ p.unstored, b = batch ∧ s.stores.outbox.events = [] ∧ p.ticks = 0
    rw [hs.outbox]
    exact h.unstored
  stored := by
    change p.unstored = none → s.stores.outbox.events.map (·.facts) = batch.map (·.facts)
    rw [hs.outbox]
    exact h.stored
  pending := by
    change p.unstored = none → s.stores.outbox.pending.length ≤ _
    rw [hs.outbox]
    exact h.pending

/-- What is published does not change what has been seen, and nothing else that the worker does is a
    concern of the consumer. -/
theorem Downstream.publish {size : Nat} {d : Desk} {handled : List BusEvent}
    (h : p.Downstream service size d handled) {s : Surroundings} (es : List BusEvent)
    (hoffice : s.office = p.surroundings.office)
    (hbus : s.bus = { p.surroundings.bus with log := p.surroundings.bus.log ++ es })
    (work : Action Report) (unstored : Option (List Event)) (ticks : Nat) :
    Downstream service size
      { p with surroundings := s, work := work, unstored := unstored, ticks := ticks } d handled
    where
  consumer := h.consumer
  follows := h.follows
  agrees := by
    change s.office.Agrees d
    rw [hoffice]
    exact h.agrees
  seen := by
    change handled.Perm (p.subscriptions.flatMap s.bus.seen)
    have hseen : p.subscriptions.flatMap s.bus.seen =
        p.subscriptions.flatMap p.surroundings.bus.seen := by
      rw [hbus]
      exact List.flatMap_congr fun x hx => MemoryBus.seen_append (h.position_le x hx) es
    rw [hseen]
    exact h.seen
  patterns := h.patterns
  position_le x hx := by
    change x.position ≤ s.bus.log.length
    rw [hbus]
    have := h.position_le x hx
    simp only [List.length_append]
    omega
  ids_le := by
    have hids : s.ids = p.surroundings.ids := congrArg Office.ids hoffice
    change s.ids + d.budget ≤ _
    rw [hids]
    exact h.ids_le

/-- An answer takes the worker a stride further. -/
theorem Upstream.stride {k k' : Stage} {es : List Event} (h : p.Upstream w batch k)
    (hm : 0 < w.maxRetries) {s : Surroundings}
    (hbus : s.bus = { p.surroundings.bus with log := p.surroundings.bus.log ++ es.map .ofOutbox })
    (hstride : Stride p.surroundings.stores.outbox k k' s.stores.outbox es) {work : Action Report}
    (hfollows : work.Follows (Stage.protocol w.maxRetries) (fun k _ => k = .dealing []) k') :
    Upstream w batch { p with surroundings := s, work := work } k' where
  worker := h.worker
  follows := hfollows
  underway := by
    change Underway _ _ _ s.bus.log
    rw [hbus]
    exact hstride.underway hm h.underway
  unstored := by
    intro b hb
    obtain ⟨hbatch, hempty, hticks⟩ := h.unstored b hb
    have hfacts := hstride.facts_eq
    rw [hempty] at hfacts
    exact ⟨hbatch, List.map_eq_nil_iff.1 hfacts, hticks⟩
  stored hu := hstride.facts_eq.trans (h.stored hu)
  pending hu := hstride.pending_le h.underway (h.pending hu)

/-- A subscription that reads on sees these events more, and the consumer has them to handle. -/
theorem Downstream.read {size i : Nat} {d d' : Desk} {handled : List BusEvent} {s : Subscription}
    (h : p.Downstream service size d handled) (hs : p.subscriptions[i]? = some s) {position : Nat}
    (hle : position ≤ p.surroundings.bus.log.length) {es : List BusEvent}
    (hseen : p.surroundings.bus.seen { s with position := position } =
      p.surroundings.bus.seen s ++ es)
    (handling : Action Unit)
    (hfollows : handling.Follows Desk.protocol
      (fun d' _ => d'.tidings = .ofEvents service (handled ++ es)) d')
    (hagrees : p.surroundings.office.Agrees d') (hbudget : d'.budget ≤ d.budget + 2 * es.length) :
    Downstream service size
      { p with
        handling := handling
        subscriptions := p.subscriptions.set i { s with position := position } }
      d' (handled ++ es) := by
  obtain ⟨l₁, l₂, hsplit, hset⟩ := exists_split_set hs { s with position := position }
  refine ⟨h.consumer, hfollows, hagrees, ?_, ?_, ?_, ?_⟩
  · have hhandled := h.seen
    rw [hsplit, List.flatMap_append, List.flatMap_cons] at hhandled
    change (handled ++ es).Perm (List.flatMap _ (p.subscriptions.set i _))
    rw [hset, List.flatMap_append, List.flatMap_cons, hseen, List.append_assoc]
    -- What has been read comes last in one list, and in the middle of the other.
    refine (hhandled.append_right es).trans ?_
    rw [List.append_assoc, List.append_assoc]
    exact List.Perm.append_left _ (List.Perm.append_left _ List.perm_append_comm)
  · rw [← h.patterns]
    change (p.subscriptions.set i _).map (·.pattern) = _
    rw [hset, hsplit, List.map_append, List.map_append]
    rfl
  · intro x hx
    rcases List.mem_or_eq_of_mem_set hx with hx | rfl
    · exact h.position_le x hx
    · exact hle
  · have hids := h.ids_le
    change p.surroundings.ids + d'.budget ≤ _
    rw [List.length_append]
    omega

/-- An answer takes the consumer on. -/
theorem Downstream.lead {size : Nat} {d d' : Desk} {handled : List BusEvent}
    (h : p.Downstream service size d handled) {s : Surroundings} (hspares : p.surroundings.Spares s)
    {handling : Action Unit}
    (hfollows : handling.Follows Desk.protocol
      (fun d' _ => d'.tidings = .ofEvents service handled) d')
    (hagrees : s.office.Agrees d')
    (hids : s.ids + d'.budget ≤ p.surroundings.ids + d.budget) :
    Downstream service size { p with surroundings := s, handling := handling } d' handled where
  consumer := h.consumer
  follows := hfollows
  agrees := hagrees
  seen := by
    change handled.Perm (p.subscriptions.flatMap s.bus.seen)
    rw [MemoryBus.seen_congr hspares.log]
    exact h.seen
  patterns := h.patterns
  position_le := by
    change ∀ x ∈ p.subscriptions, x.position ≤ s.bus.log.length
    rw [hspares.log]
    exact h.position_le
  ids_le := Nat.le_trans hids h.ids_le

/-- Each event is handled twice at most, once for each of the subscriptions. -/
theorem Downstream.length_le {size : Nat} {d : Desk} {handled : List BusEvent}
    (h : p.Downstream service size d handled) :
    handled.length ≤ 2 * p.surroundings.bus.log.length := by
  have htwo : p.subscriptions.length = 2 := by
    have hlength := congrArg List.length h.patterns
    rwa [List.length_map] at hlength
  have hle (s : Subscription) :
      (p.surroundings.bus.seen s).length ≤ p.surroundings.bus.log.length :=
    Nat.le_trans (List.length_filter_le _ _) (List.length_take_le' _ _)
  obtain ⟨s, s', hsubs⟩ := List.length_eq_two.1 htwo
  have hseen := h.seen.length_eq
  rw [hsubs, List.flatMap_cons, List.flatMap_cons, List.flatMap_nil, List.length_append,
    List.append_nil] at hseen
  have := hle s
  have := hle s'
  omega

/-! ### What a turn does -/

variable (h : p.Sound service w batch)

include h

theorem Sound.isComplete : p.surroundings.bus.IsComplete := by
  obtain ⟨k, hup⟩ := h.upstream
  exact ⟨h.healthy.isOpen, Nat.le_trans hup.length_le h.capacity⟩

/-- There are identifiers left. -/
theorem Sound.ids_lt {d : Desk} {handled : List BusEvent}
    (hdown : p.Downstream service batch.length d handled) :
    p.surroundings.ids + d.budget < Uuid.size := by
  obtain ⟨k, hup⟩ := h.upstream
  have := hdown.ids_le
  have := hdown.length_le
  have := hup.length_le
  have := h.room
  omega

/-- The batch is stored as a whole. -/
theorem Sound.step_store {b : List Event} (hu : p.unstored = some b) :
    ∃ s, p.step .store = { p with surroundings := s, unstored := none } ∧ s.Healthy ∧
      s.office = p.surroundings.office ∧ s.bus = p.surroundings.bus ∧ s.stores.outbox = ⟨b⟩ := by
  obtain ⟨k, hup⟩ := h.upstream
  obtain ⟨rfl, hempty, -⟩ := hup.unstored b hu
  have hstore : p.surroundings.stores.outbox.store b = .ok ⟨b⟩ := by
    refine (Store.store_eq_ok_iff hup.underway.distinct).2 ⟨?_, h.raised.nodup⟩
    rw [hempty, List.nil_append]
  obtain ⟨s, hanswer, hsame⟩ := h.healthy.answer?_store hstore
  refine ⟨s, ?_, hsame⟩
  rw [step, hu]
  dsimp only
  rw [hanswer]

/-- The question of the worker is answered. -/
theorem Sound.step_work (hm : 0 < w.maxRetries) {q : Request} {next : q.Answer → Action Report}
    (hw : p.work = .ask q next) {k : Stage} (hup : p.Upstream w batch k) :
    ∃ a s es, p.step .work = { p with surroundings := s, work := next a } ∧ s.Healthy ∧
      s.office = p.surroundings.office ∧
      s.bus = { p.surroundings.bus with log := p.surroundings.bus.log ++ es.map .ofOutbox } ∧
      Stride p.surroundings.stores.outbox k (k.after w.maxRetries q a) s.stores.outbox es := by
  have hfollows := hup.follows
  rw [hw] at hfollows
  obtain ⟨a, s, es, hanswer, hrest⟩ :=
    h.healthy.answer_worker hm hup.underway.current hup.underway.calm hfollows.1
  refine ⟨a, s, es, ?_, hrest⟩
  rw [step, hw]
  dsimp only
  rw [hanswer]

/-- A subscription is read: it has nothing to read, or its next event is to be handled. -/
theorem Sound.step_receive {u : Unit} (hidle : p.handling = .done u) {i : Nat} {s : Subscription}
    (hs : p.subscriptions[i]? = some s) :
    (∃ position, (p.surroundings.bus.next s).2.1 = .waiting ∧
      position ≤ p.surroundings.bus.log.length ∧
      p.surroundings.bus.seen { s with position := position } = p.surroundings.bus.seen s ∧
      p.step (.receive i) =
        { p with subscriptions := p.subscriptions.set i { s with position := position } }) ∨
    ∃ e position, s.position < position ∧ position ≤ p.surroundings.bus.log.length ∧
      p.surroundings.bus.seen { s with position := position } = p.surroundings.bus.seen s ++ [e] ∧
      p.step (.receive i) =
        { p with
          handling := p.consumer.process ⟨e, some .counted⟩
          subscriptions := p.subscriptions.set i { s with position := position } } := by
  obtain ⟨d, handled, hdown⟩ := h.downstream
  have hreads := MemoryBus.next_spec h.isComplete (hdown.position_le s (List.mem_of_getElem? hs))
  rw [step, hidle, hs]
  dsimp only
  generalize p.surroundings.bus.next s = r at hreads ⊢
  cases hreads with
  | waiting hseen => exact .inl ⟨_, rfl, Nat.le_refl _, hseen, rfl⟩
  | delivery e position hlt hle hseen => exact .inr ⟨e, position, hlt, hle, hseen, rfl⟩

/-- The question of the consumer is answered. -/
theorem Sound.step_handle {q : Request} {next : q.Answer → Action Unit}
    (hhandling : p.handling = .ask q next) {d : Desk} {handled : List BusEvent}
    (hdown : p.Downstream service batch.length d handled) :
    ∃ a s d', p.step .handle = { p with surroundings := s, handling := next a } ∧ s.Healthy ∧
      Desk.Leads d q a d' ∧ s.office.Agrees d' ∧
      s.ids + d'.budget ≤ p.surroundings.ids + d.budget ∧ p.surroundings.Spares s := by
  have hfollows := hdown.follows
  rw [hhandling] at hfollows
  obtain ⟨a, s, d', hanswer, hrest⟩ :=
    h.healthy.answer_consumer hdown.agrees hfollows.1 (h.ids_lt hdown)
  refine ⟨a, s, d', ?_, hrest⟩
  rw [step, hhandling]
  dsimp only
  rw [hanswer]

/-! ### What a turn keeps -/

theorem Sound.store : (p.step .store).Sound service w batch := by
  obtain ⟨k, hup⟩ := h.upstream
  obtain ⟨d, handled, hdown⟩ := h.downstream
  cases hu : p.unstored with
  | none =>
    rw [step, hu]
    exact h
  | some b =>
    obtain ⟨rfl, hempty, hticks⟩ := hup.unstored b hu
    obtain ⟨s, hstep, hhealthy, hoffice, hbus, houtbox⟩ := h.step_store hu
    have hunderway := hup.underway.store hempty h.raised
    rw [hempty, List.nil_append, ← houtbox, ← hbus] at hunderway
    rw [hstep]
    refine ⟨hhealthy, h.raised, h.room, hbus ▸ h.capacity, ⟨k, hup.worker, hup.follows, hunderway,
      ?_, ?_, ?_⟩, d, handled, ?_⟩
    · rintro b' ⟨⟩
    · intro _
      change s.stores.outbox.events.map (·.facts) = _
      rw [houtbox]
    · intro _
      have hle : s.stores.outbox.pending.length ≤ b.length := by
        rw [houtbox]
        exact List.length_filter_le _ _
      change _ ≤ k.load + (b.length - p.ticks * w.limit.toNat)
      rw [hticks, Nat.zero_mul]
      exact Nat.le_add_left_of_le hle
    · exact hdown.publish [] hoffice (by rw [hbus, List.append_nil]) p.work none p.ticks

theorem Sound.tick : (p.step .tick).Sound service w batch := by
  obtain ⟨k, hup⟩ := h.upstream
  obtain ⟨d, handled, hdown⟩ := h.downstream
  rw [step]
  cases hw : p.work with
  | ask q next => exact h
  | done report =>
    -- The last tick has ended with nothing in hand, so all that is pending is yet to be fetched.
    obtain rfl : k = .dealing [] := by
      have hfollows := hup.follows
      rwa [hw] at hfollows
    refine ⟨h.healthy, h.raised, h.room, h.capacity, ⟨.ready w.limit, hup.worker, ?_, ?_, ?_,
      hup.stored, ?_⟩, d, handled, ?_⟩
    · change p.worker.runOnce.Follows _ _ _
      rw [hup.worker]
      exact Worker.runOnce_follows w
    · have hunderway := hup.underway
      exact ⟨hunderway.distinct, trivial, trivial, hunderway.rows, hunderway.log⟩
    · intro b hb
      obtain ⟨hbatch, hempty, hticks⟩ := hup.unstored b hb
      have hb : p.unstored = some b := hb
      exact ⟨hbatch, hempty, by simp [hb, hticks]⟩
    · intro hu
      have hu : p.unstored = none := hu
      have hpending := hup.pending hu
      simp only [hu, Option.isNone_none, if_true, Stage.load, Stage.held, List.length_nil,
        Nat.succ_mul] at hpending ⊢
      omega
    · exact hdown.publish [] rfl (by rw [List.append_nil]) p.worker.runOnce p.unstored _

theorem Sound.work (hm : 0 < w.maxRetries) : (p.step .work).Sound service w batch := by
  obtain ⟨k, hup⟩ := h.upstream
  obtain ⟨d, handled, hdown⟩ := h.downstream
  cases hw : p.work with
  | done report =>
    rw [step, hw]
    exact h
  | ask q next =>
    have hfollows := hup.follows
    rw [hw] at hfollows
    obtain ⟨a, s, es, hstep, hhealthy, hoffice, hbus, hstride⟩ := h.step_work hm hw hup
    rw [hstep]
    refine ⟨hhealthy, h.raised, h.room, ?_,
      ⟨_, hup.stride hm hbus hstride (hfollows.2 a _ rfl)⟩, d, handled, ?_⟩
    · change _ ≤ s.bus.capacity
      rw [hbus]
      exact h.capacity
    · exact hdown.publish _ hoffice hbus (next a) p.unstored p.ticks

theorem Sound.receive (i : Nat) : (p.step (.receive i)).Sound service w batch := by
  obtain ⟨k, hup⟩ := h.upstream
  obtain ⟨d, handled, hdown⟩ := h.downstream
  cases hhandling : p.handling with
  | ask q next =>
    rw [step, hhandling]
    exact h
  | done u =>
    cases hs : p.subscriptions[i]? with
    | none =>
      rw [step, hhandling, hs]
      exact h
    | some s =>
      have hfollows := hdown.follows
      rcases h.step_receive hhandling hs with
        ⟨position, -, hle, hseen, hstep⟩ | ⟨e, position, -, hle, hseen, hstep⟩
      · rw [← List.append_nil handled] at hfollows
        have hread := hdown.read hs hle (hseen.trans (List.append_nil _).symm) p.handling hfollows
          hdown.agrees (Nat.le_refl _)
        rw [hstep]
        exact ⟨h.healthy, h.raised, h.room, h.capacity, ⟨k, hup.spare (.refl _) p.handling _⟩, d, _,
          hread⟩
      · -- The last delivery has been dealt with, so what has been done is what the handled events
        -- ask for.
        have htidings : d.tidings = .ofEvents service handled := by
          rwa [hhandling] at hfollows
        have hprocess := (process_follows service [translationTopic, userTopic] e
          (d := ⟨d.tidings, none, 2⟩) (Nat.le_refl _)).mono fun d' _ hstands => hstands.tidings
        rw [← hdown.consumer, htidings, ← Tidings.ofEvents_append, ← htidings] at hprocess
        have hagrees : p.surroundings.office.Agrees ⟨d.tidings, none, 2⟩ :=
          { hdown.agrees with fresh := by rintro id ⟨⟩ }
        have hread := hdown.read hs hle hseen (p.consumer.process ⟨e, some .counted⟩) hprocess
          hagrees (Nat.le_add_left _ _)
        rw [hstep]
        exact ⟨h.healthy, h.raised, h.room, h.capacity, ⟨k, hup.spare (.refl _) _ _⟩, _, _, hread⟩

theorem Sound.handle : (p.step .handle).Sound service w batch := by
  obtain ⟨k, hup⟩ := h.upstream
  obtain ⟨d, handled, hdown⟩ := h.downstream
  cases hhandling : p.handling with
  | done u =>
    rw [step, hhandling]
    exact h
  | ask q next =>
    have hfollows := hdown.follows
    rw [hhandling] at hfollows
    obtain ⟨a, s, d', hstep, hhealthy, hleads, hagrees, hids, hspares⟩ :=
      h.step_handle hhandling hdown
    rw [hstep]
    exact ⟨hhealthy, h.raised, h.room, hspares.capacity ▸ h.capacity,
      ⟨k, hup.spare hspares (next a) p.subscriptions⟩, d', handled,
      hdown.lead hspares (hfollows.2 a d' hleads) hagrees hids⟩

/-- Every turn keeps the pipeline sound. -/
theorem Sound.step (hm : 0 < w.maxRetries) (turn : Turn) :
    (p.step turn).Sound service w batch := by
  cases turn with
  | store => exact h.store
  | tick => exact h.tick
  | work => exact h.work hm
  | receive i => exact h.receive i
  | handle => exact h.handle

/-- So does every sequence of turns. -/
theorem Sound.play (hm : 0 < w.maxRetries) (turns : List Turn) :
    (p.play turns).Sound service w batch := by
  induction turns generalizing p with
  | nil => exact h
  | cons turn turns ih => exact ih (h.step hm turn)

end Pipeline

end Courier
