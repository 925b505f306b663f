import Courier.Proofs.Consumer.Duty
import Courier.Proofs.Simulation.Life

/-!
# The task of a consumer

A simulated task runs in turns, each of which goes on until the task has to wait. Whatever a turn of
a consumer's task does, a consumer on duty can do in a sequence of turns of its own. So what holds
of every consumer on duty holds of every task: a task reads its subscriptions in an order of its
own, and nothing cancels it in the middle of a turn.

* `Duty.Reaches`: what a consumer on duty can come to.
* `Duty.Shows`: a task stands as a consumer on duty does.
* `Duty.Shows.turn`: a turn of the task.
* `Task.Lives.shows`: a task is a consumer on duty all its life.
-/

namespace Courier

open Simulation

namespace Duty

/-- What a consumer on duty can come to. -/
def Reaches (d d' : Duty) : Prop := ∃ turns, d.play turns = d'

variable {d d' d'' : Duty} {b : MemoryBus} {i : Nat} {s s' : Subscription}

theorem Reaches.refl (d : Duty) : d.Reaches d := ⟨[], rfl⟩

theorem Reaches.trans (h : d.Reaches d') (h' : d'.Reaches d'') : d.Reaches d'' := by
  obtain ⟨turns, rfl⟩ := h
  obtain ⟨turns', rfl⟩ := h'
  exact ⟨turns ++ turns', play_append d turns turns'⟩

theorem reaches_step (d : Duty) (t : Turn) : d.Reaches (d.step t) := ⟨[t], rfl⟩

theorem reaches_meanwhile (d : Duty) (h : d.bus.isClosed → b.isClosed) :
    d.Reaches { d with bus := b } := by
  have hb : { b with isClosed := d.bus.isClosed || b.isClosed } = b := by
    cases hclosed : d.bus.isClosed with
    | false => rfl
    | true =>
      obtain ⟨capacity, log, bindings, subscribers, isClosed, confirmed⟩ := b
      obtain rfl : isClosed = true := h hclosed
      rfl
  have hstep := d.reaches_step (.meanwhile b)
  rw [step, hb] at hstep
  exact hstep

theorem reaches_answer {q : Request} {next : q.Answer → Action Bool} (h : d.rest = .ask q next)
    (a : q.Answer) : ∃ trace, d.Reaches { d with rest := next a, trace := trace } := by
  classical
  let reply := Function.update (fun q : Request => Classical.arbitrary q.Answer) q a
  have hstep := d.reaches_step (.answer reply)
  rw [step, h] at hstep
  simp only [reply, Function.update_self] at hstep
  exact ⟨_, hstep⟩

theorem reaches_pass {reading : MemoryBus.Reading} (hready : d.isReady)
    (hs : d.subscriptions[i]? = some s) (hread : d.bus.read s = (reading, s'))
    (hreading : ∀ e, reading ≠ .event e) :
    d.Reaches { d with subscriptions := d.subscriptions.set i s' } := by
  have hstep := d.reaches_step (.read i)
  rw [step, hs] at hstep
  simp only [hready, if_true, hread] at hstep
  exact hstep

theorem reaches_take {e : BusEvent} (hready : d.isReady) (hs : d.subscriptions[i]? = some s)
    (hread : d.bus.read s = (.event e, s')) :
    ∃ trace, d.Reaches { d with
      subscriptions := d.subscriptions.set i s'
      rest := do d.consumer.process ⟨e, some .counted⟩; return true
      trace := trace } := by
  have hstep := d.reaches_step (.read i)
  rw [step, hs] at hstep
  simp only [hready, if_true, hread] at hstep
  exact ⟨_, hstep⟩

/-! ### Asking -/

/-- A consumer that runs up to the first delay has its questions answered one after the other. -/
theorem reaches_runToDelay {p : Action Bool} {s : Surroundings} (hp : d.rest = p)
    (hbus : d.bus = s.bus) :
    ∃ rest trace, Leaves (runToDelay p s).1 rest ∧
      d.Reaches { d with bus := (runToDelay p s).2.bus, rest := rest, trace := trace } := by
  induction p generalizing d s with
  | done goesOn =>
    refine ⟨.done goesOn, d.trace, rfl, ?_⟩
    change d.Reaches { d with bus := s.bus, rest := .done goesOn }
    rw [← hbus, ← hp]
    exact .refl d
  | ask q next ih =>
    have hclosed : d.bus.isClosed → (s.begin q).2.bus.isClosed := by
      rw [hbus]
      exact s.isClosed_begin q
    have hbegin := d.reaches_meanwhile hclosed
    obtain ⟨s', hrun, hunmoved⟩ | ⟨a, s', hrun, hunmoved⟩ | ⟨delay, resume, hrun, hresume⟩ :=
      runToDelay_ask q next s
    · rw [hrun, hunmoved.bus_eq]
      exact ⟨d.rest, d.trace, trivial, hbegin⟩
    · rw [hrun]
      rw [← hunmoved.bus_eq] at hbegin
      obtain ⟨trace, hanswer⟩ := Duty.reaches_answer (d := { d with bus := s'.bus }) hp a
      obtain ⟨rest, trace, hleaves, hreaches⟩ := ih a
        (d := { d with bus := s'.bus, rest := next a, trace := trace }) rfl rfl
      exact ⟨rest, trace, hleaves, (hbegin.trans hanswer).trans hreaches⟩
    · rw [hrun]
      exact ⟨d.rest, d.trace, hp ▸ hresume, hbegin⟩

/-! ### Reading -/

/-- What a subscription yields leaves the consumer with this to do. -/
def restAfter (d : Duty) : MemoryBus.Yield → Action Bool
  | .delivery delivery => do d.consumer.process delivery; return true
  | _ => d.rest

/-- Whoever reads on takes one step of the subscription after the other. -/
theorem reaches_go (hready : d.isReady) (hs : d.subscriptions[i]? = some s) (steps : Nat) :
    ∃ trace, d.Reaches { d with
      subscriptions := d.subscriptions.set i (MemoryBus.next.go d.bus steps s).2.2
      rest := d.restAfter (MemoryBus.next.go d.bus steps s).2.1
      trace := trace } := by
  have hi := (List.getElem?_eq_some_iff.1 hs).1
  induction steps generalizing d s with
  | zero =>
    rw [MemoryBus.next.go]
    cases hread : d.bus.read s with
    | mk reading s' =>
      cases reading with
      | event e => exact reaches_take hready hs hread
      | _ => exact ⟨d.trace, reaches_pass hready hs hread (by simp)⟩
  | succ steps ih =>
    rw [MemoryBus.next.go]
    cases hread : d.bus.read s with
    | mk reading s' =>
      -- After a step that yields nothing there are fewer steps left to take.
      have hon (hreading : ∀ e, reading ≠ .event e) : ∃ trace, d.Reaches { d with
          subscriptions := d.subscriptions.set i (MemoryBus.next.go d.bus steps s').2.2
          rest := d.restAfter (MemoryBus.next.go d.bus steps s').2.1
          trace := trace } := by
        obtain ⟨trace, hreaches⟩ := ih (d := { d with subscriptions := d.subscriptions.set i s' })
          hready (List.getElem?_set_self hi) (by rwa [List.length_set])
        rw [List.set_set] at hreaches
        exact ⟨trace, (reaches_pass hready hs hread hreading).trans hreaches⟩
      cases reading with
      | event e => exact reaches_take hready hs hread
      | passed => exact hon (by simp)
      | lagged skipped => exact hon (by simp)
      | ended => exact ⟨d.trace, reaches_pass hready hs hread (by simp)⟩
      | waiting => exact ⟨d.trace, reaches_pass hready hs hread (by simp)⟩

theorem isClosed_of_read (h : (b.read s).1 = .ended) : b.isClosed := by
  by_contra hopen
  rw [MemoryBus.read, if_neg hopen] at h
  split at h
  · cases h
  · split at h
    · cases h
    · split at h <;> cases h

/-- Subscriptions end only when their bus is closed. -/
theorem isClosed_of_go {steps : Nat} (h : (MemoryBus.next.go b steps s).2.1 = .ended) :
    b.isClosed := by
  induction steps generalizing s with
  | zero =>
    rw [MemoryBus.next.go] at h
    cases hread : b.read s with
    | mk reading s' =>
      rw [hread] at h
      cases reading with
      | ended => exact isClosed_of_read (congrArg Prod.fst hread)
      | _ => cases h
  | succ steps ih =>
    rw [MemoryBus.next.go] at h
    cases hread : b.read s with
    | mk reading s' =>
      rw [hread] at h
      cases reading with
      | ended => exact isClosed_of_read (congrArg Prod.fst hread)
      | passed => exact ih h
      | lagged skipped => exact ih h
      | _ => cases h

/-- What a task holds of the subscriptions of a consumer: those that have not ended. None ends but
    on a closed bus. -/
structure Holds (live : Table Nat Subscription) (b : MemoryBus)
    (subscriptions : List Subscription) : Prop where
  getElem? : ∀ i s, live.get? i = some s → subscriptions[i]? = some s
  ended : live.entries = [] → b.isClosed ∨ subscriptions = []

section Holds

variable {live : Table Nat Subscription} {subscriptions : List Subscription}

theorem Holds.mono {b' : MemoryBus} (h : Holds live b subscriptions)
    (hclosed : b.isClosed → b'.isClosed) : Holds live b' subscriptions :=
  ⟨h.getElem?, fun hempty => (h.ended hempty).imp_left hclosed⟩

/-- A subscription has been read on. -/
theorem Holds.insert (h : Holds live b subscriptions) (hs : live.get? i = some s)
    (s' : Subscription) : Holds (live.insert i s') b (subscriptions.set i s') := by
  have hi := (List.getElem?_eq_some_iff.1 (h.getElem? i s hs)).1
  refine ⟨fun j s'' hs'' => ?_, fun hempty => ?_⟩
  · rw [Table.get?_insert] at hs''
    split at hs''
    next hij =>
      obtain rfl := hij
      obtain rfl := Option.some.inj hs''
      exact List.getElem?_set_self hi
    next hij =>
      rw [List.getElem?_set_ne hij]
      exact h.getElem? j s'' hs''
  · have hget := Table.get?_insert live i i s'
    rw [Table.get?, hempty, if_pos rfl] at hget
    cases hget

/-- A subscription has ended. -/
theorem Holds.erase (h : Holds live b subscriptions) (hclosed : b.isClosed) (i : Nat)
    (s' : Subscription) : Holds (live.erase i) b (subscriptions.set i s') := by
  refine ⟨fun j s'' hs'' => ?_, fun _ => .inl hclosed⟩
  rw [Table.get?_erase] at hs''
  split at hs''
  next => cases hs''
  next hij =>
    rw [List.getElem?_set_ne hij]
    exact h.getElem? j s'' hs''

end Holds

/-- What comes of reading leaves the consumer with this to do. -/
def restAfterStep (d : Duty) : Streams.Reading → Action Bool
  | .delivery delivery => do d.consumer.process delivery; return true
  | _ => d.rest

/-- A consumer on duty can come to what a task has come to by reading its subscriptions. -/
def Polls (d : Duty) (reading : Streams.Reading) (streams : Streams) : Prop :=
  ∃ subscriptions trace, Holds streams.live d.bus subscriptions ∧
    (reading = .ended → d.bus.isClosed ∨ subscriptions = []) ∧
    d.Reaches { d with
      subscriptions := subscriptions
      rest := d.restAfterStep reading
      trace := trace }

theorem Polls.of_reaches {subscriptions : List Subscription} {trace : List Entry}
    {reading : Streams.Reading} {streams : Streams}
    (hreaches : d.Reaches { d with subscriptions := subscriptions, trace := trace })
    (h : Polls { d with subscriptions := subscriptions, trace := trace } reading streams) :
    d.Polls reading streams := by
  obtain ⟨subscriptions', trace', hholds, hended, hreaches'⟩ := h
  exact ⟨subscriptions', trace', hholds, hended, hreaches.trans hreaches'⟩

/-- Whoever reads several subscriptions reads on in one after the other. -/
theorem polls_pollFrom {streams : Streams} (hready : d.isReady)
    (h : Holds streams.live d.bus d.subscriptions) (count finished rank : Nat)
    (numbers : List Nat) :
    let step := Streams.pollFrom d.bus count finished rank streams numbers
    d.Polls step.reading step.streams := by
  induction numbers generalizing d streams count finished rank with
  | nil =>
    refine ⟨d.subscriptions, d.trace, h, ?_, ?_⟩
    · intro hreading
      rw [Streams.pollFrom] at hreading
      dsimp only at hreading
      split at hreading
      next hempty => exact h.ended (List.isEmpty_iff.1 hempty)
      next => cases hreading
    · rw [Streams.pollFrom]
      dsimp only
      split <;> exact .refl d
  | cons i numbers ih =>
    cases hs : streams.live.get? i with
    | none =>
      simp only [Streams.pollFrom, hs]
      exact ih hready h count finished rank
    | some s =>
      obtain ⟨trace, hreaches⟩ :=
        reaches_go hready (h.getElem? i s hs) (d.bus.log.length + 1 - s.position)
      change d.Reaches { d with
        subscriptions := d.subscriptions.set i (d.bus.next s).2.2
        rest := d.restAfter (d.bus.next s).2.1
        trace := trace } at hreaches
      cases hnext : d.bus.next s with
      | mk lost p =>
        obtain ⟨yield, s'⟩ := p
        rw [hnext] at hreaches
        simp only [Streams.pollFrom, hs, hnext]
        cases yield with
        | delivery delivery => exact ⟨_, trace, h.insert hs s', nofun, hreaches⟩
        | ended =>
          have hclosed : d.bus.isClosed := isClosed_of_go (congrArg (·.2.1) hnext)
          refine .of_reaches hreaches ?_
          exact ih (d := { d with subscriptions := d.subscriptions.set i s', trace := trace })
            hready (h.erase hclosed i s') 0 (finished + 1) rank
        | waiting =>
          dsimp only
          split
          next => exact ⟨_, trace, h.insert hs s', nofun, hreaches⟩
          next =>
            refine .of_reaches hreaches ?_
            exact ih (d := { d with subscriptions := d.subscriptions.set i s', trace := trace })
              hready (h.insert hs s') (count + 1) finished (rank + 1)

/-! ### A turn -/

theorem reaches_finish (hready : d.isReady) (hend : d.bus.isClosed ∨ d.subscriptions = []) :
    d.Reaches { d with rest := d.consumer.routine.round none } := by
  have hstep := d.reaches_step .finish
  have hguard : (d.isReady && (d.bus.isClosed || d.subscriptions.isEmpty)) = true := by
    simpa [hready] using hend
  rw [step, if_pos hguard] at hstep
  exact hstep

theorem reaches_stop {goesOn : Bool} (hrest : d.rest = .done goesOn)
    (hclosing : d.isClosing = false) (hend : (!goesOn || d.isCancelled) = true) :
    d.Reaches
      { d with rest := do d.consumer.routine.closing; return false, isClosing := true } := by
  have hstep := d.reaches_step .stop
  rw [step, hrest] at hstep
  simp only [hclosing, hend] at hstep
  exact hstep

/-- What comes of asking for the next event leaves the consumer with this to do. -/
def restAfterPoll (d : Duty) : Polled (Option Delivery) → Action Bool
  | .event e => d.consumer.routine.round e
  | _ => d.rest

theorem restAfterPoll_poll (d : Duty) (streams : Streams) (rank : Nat) (s : Surroundings) :
    (Streams.poll s.bus rank streams).reading = .ended ∧
        d.restAfterPoll (Source.poll .delivery streams rank s).1 =
          d.consumer.routine.round none ∨
      d.restAfterPoll (Source.poll .delivery streams rank s).1 =
        d.restAfterStep (Streams.poll s.bus rank streams).reading := by
  rw [Source.poll]
  dsimp only
  cases (Streams.poll s.bus rank streams).reading with
  | ended => exact .inl ⟨rfl, rfl⟩
  | delivery | waiting | yielded => exact .inr rfl

/-- Whoever asks for the next event reads the subscriptions, and may find that all have ended. -/
theorem reaches_poll {streams : Streams} {s : Surroundings} (hready : d.isReady)
    (hbus : d.bus = s.bus) (h : Holds streams.live s.bus d.subscriptions) (rank : Nat) :
    let polled := Source.poll .delivery streams rank s
    polled.2.2.2.bus.isClosed = s.bus.isClosed ∧
      ∃ subscriptions trace, Holds (Streams.live polled.2.1) polled.2.2.2.bus subscriptions ∧
        d.Reaches { d with
          bus := polled.2.2.2.bus
          subscriptions := subscriptions
          rest := d.restAfterPoll polled.1
          trace := trace } := by
  intro polled
  let step := Streams.poll s.bus rank streams
  have hpolled : polled.2.2.2.bus = s.bus.unsubscribe step.finished :=
    congrArg (MemoryBus.unsubscribe · step.finished) (Surroundings.unmoved_foldl
      (f := fun s skipped => s.report (.lagged skipped)) (fun _ _ => ⟨rfl, rfl⟩) step.lost s).bus_eq
  rw [← hbus] at h
  obtain ⟨subscriptions, trace, hholds, hended, hreaches⟩ :=
    polls_pollFrom hready h 0 0 rank streams.ready
  have hstep : Streams.pollFrom d.bus 0 0 rank streams streams.ready = step := by
    rw [hbus]
    rfl
  rw [hstep] at hholds hended hreaches
  -- In the end the bus hears how many subscriptions have ended.
  have hgiveUp {rest : Action Bool} (hreaches : d.Reaches
        { d with subscriptions := subscriptions, rest := rest, trace := trace }) :
      d.Reaches { d with
        bus := polled.2.2.2.bus
        subscriptions := subscriptions
        rest := rest
        trace := trace } := by
    refine hreaches.trans (reaches_meanwhile _ ?_)
    rw [hpolled, ← hbus]
    exact id
  have hopen : polled.2.2.2.bus.isClosed = s.bus.isClosed := by
    rw [hpolled]
    rfl
  refine ⟨hopen, subscriptions, trace, hholds.mono (by rw [hopen, hbus]; exact id), hgiveUp ?_⟩
  obtain ⟨hreading, hrest⟩ | hrest : step.reading = .ended ∧
      d.restAfterPoll polled.1 = d.consumer.routine.round none ∨
        d.restAfterPoll polled.1 = d.restAfterStep step.reading :=
    d.restAfterPoll_poll streams rank s
  · rw [hreading] at hreaches
    rw [hrest]
    exact hreaches.trans (reaches_finish hready (hended hreading))
  · rw [hrest]
    exact hreaches

/-- What a task is about, against a consumer on duty. -/
def ActsAs (d : Duty) (c : Consumer) : Activity → Prop
  | .fresh => d.isClosing = false ∧ d.rest = do c.routine.opening; return true
  | .waiting => d.isClosing = false ∧ d.rest = .done true
  | .paused isClosing resume => d.isClosing = isClosing ∧ Resumes resume d.rest
  | .over isTornDown => isTornDown = false ∧ d.isClosing = true ∧ d.rest.question? = none

/-- A task of a consumer stands as a consumer on duty does. -/
structure Shows (c : Consumer) (t : Task) (s : Surroundings) (d : Duty) : Prop where
  consumer_eq : d.consumer = c
  isClosed : d.bus.isClosed → s.bus.isClosed
  exists_eq : ∃ streams activity alarm yields, t = ⟨c.routine, streams, activity, alarm, yields⟩ ∧
    Holds streams.live s.bus d.subscriptions ∧ d.ActsAs c activity

/-- What a turn of a task comes to, the consumer on duty can come to as well, unless the task is
    torn down. -/
def Follows (c : Consumer) (d : Duty) (turn : Task.Turn) : Prop :=
  turn.1.isTornDown ∨
    ∃ d', d.Reaches d' ∧ d'.isCancelled = d.isCancelled ∧ d'.Shows c turn.1 turn.2.2

theorem Follows.of_reaches {c : Consumer} {turn : Task.Turn} (h : d.Reaches d')
    (hcancelled : d'.isCancelled = d.isCancelled) (h' : d'.Follows c turn) : d.Follows c turn := by
  obtain htorn | ⟨d'', hreaches, hcancelled', hshows⟩ := h'
  · exact .inl htorn
  · exact .inr ⟨d'', h.trans hreaches, hcancelled'.trans hcancelled, hshows⟩

theorem Reaches.isClosed (h : d.Reaches d') (hclosed : d.bus.isClosed) : d'.bus.isClosed := by
  obtain ⟨turns, rfl⟩ := h
  induction turns generalizing d with
  | nil => exact hclosed
  | cons t turns ih => exact ih (isClosed_step hclosed t)

section Turn

variable {c : Consumer} {streams : Streams} {activity : Activity} {alarm : Option Nat}
  {yields : Bool} {action : Action Bool} {s : Surroundings}

theorem follows_close (hc : d.consumer = c) (hrest : d.rest = action)
    (hclosing : d.isClosing = true) (hbus : d.bus = s.bus)
    (h : Holds streams.live s.bus d.subscriptions) (rank : Nat) :
    d.Follows c (Task.close ⟨c.routine, streams, activity, alarm, yields⟩ action rank s) := by
  obtain ⟨rest, trace, hleaves, hreaches⟩ := reaches_runToDelay hrest hbus
  have hclosed := hreaches.isClosed
  rw [hbus] at hclosed
  rw [Task.close]
  cases hrun : runToDelay action s with
  | mk progress s' =>
    rw [hrun] at hleaves hreaches hclosed
    have h : Holds streams.live s'.bus d.subscriptions := h.mono hclosed
    cases progress with
    | done goesOn =>
      refine .inr ⟨_, hreaches, rfl, hc, id, streams, _, _, _, rfl, ⟨h.getElem?, h.ended⟩, rfl,
        hclosing, ?_⟩
      rw [show rest = .done goesOn from hleaves]
      rfl
    | broken => exact .inl rfl
    | paused delay resume =>
      exact .inr ⟨_, hreaches, rfl, hc, id, streams, _, _, _, rfl, h, hclosing, hleaves⟩

/-- A round of a task, and the rounds that follow it in the same turn. -/
theorem follows_carryOn (rounds : Nat) (hc : d.consumer = c) (hrest : d.rest = action)
    (hclosing : d.isClosing = false) (hbus : d.bus = s.bus)
    (h : Holds streams.live s.bus d.subscriptions) (rank : Nat) :
    d.Follows c (Task.carryOn d.isCancelled rounds ⟨c.routine, streams, activity, alarm, yields⟩
      action rank s) := by
  induction rounds using Nat.strong_induction_on generalizing d action s streams rank with
  | h rounds ih =>
    obtain ⟨rest, trace, hleaves, hreaches⟩ := reaches_runToDelay hrest hbus
    have hclosed := hreaches.isClosed
    rw [hbus] at hclosed
    unfold Task.carryOn
    cases hrun : runToDelay action s with
    | mk progress s' =>
      rw [hrun] at hleaves hreaches hclosed
      have h : Holds streams.live s'.bus d.subscriptions := h.mono hclosed
      cases progress with
      | broken => exact .inl rfl
      | paused delay resume =>
        exact .inr ⟨_, hreaches, rfl, hc, id, streams, _, _, _, rfl, h, hclosing, hleaves⟩
      | done goesOn =>
        obtain rfl : rest = .done goesOn := hleaves
        refine .of_reaches hreaches rfl ?_
        dsimp only
        split
        next hend =>
          refine .of_reaches (reaches_stop rfl hclosing hend) rfl ?_
          subst hc
          exact follows_close (d := ⟨d.consumer, s'.bus, d.subscriptions,
            do d.consumer.routine.closing; return false, true, d.isCancelled, trace⟩)
            rfl rfl rfl rfl h rank
        next hend =>
          have hready : goesOn = true ∧ d.isCancelled = false := by simpa using hend
          obtain ⟨rfl, hcancelled⟩ := hready
          have hready : Duty.isReady { d with bus := s'.bus, rest := .done true, trace := trace } :=
            isReady_iff.2 ⟨rfl, hclosing, hcancelled⟩
          obtain ⟨hopen, subscriptions, trace', hholds, hreaches'⟩ := reaches_poll hready rfl h rank
          subst hc
          generalize hpoll : Source.poll d.consumer.routine.wait streams rank s' = polled
          change Source.poll .delivery streams rank s' = polled at hpoll
          obtain ⟨reading, source, rank', s''⟩ := polled
          rw [hpoll] at hopen hholds hreaches'
          dsimp only at hopen hholds hreaches' ⊢
          cases reading with
          | nothing until? =>
            exact .inr ⟨_, hreaches', rfl, rfl, id, source, _, _, _, rfl, hholds, hclosing, rfl⟩
          | yielded =>
            exact .inr ⟨_, hreaches', rfl, rfl, id, source, _, _, _, rfl, hholds, hclosing, rfl⟩
          | event e =>
            cases rounds with
            | zero =>
              -- The subscriptions are left as they were, to be read in another turn.
              have hmeanwhile := reaches_meanwhile (b := s''.bus)
                { d with bus := s'.bus, rest := .done true, trace := trace } hopen.trans
              exact .inr ⟨_, hmeanwhile, rfl, rfl, id, streams, _, _, _, rfl, h.mono hopen.trans,
                hclosing, rfl⟩
            | succ rounds =>
              refine .of_reaches hreaches' rfl ?_
              exact ih rounds (Nat.lt_succ_self _) (d := ⟨d.consumer, s''.bus, subscriptions,
                d.consumer.routine.round e, d.isClosing, d.isCancelled, trace'⟩)
                rfl rfl hclosing rfl hholds rank'

/-- A consumer on duty hears what has happened before the turn of its task. -/
theorem reaches_heard (hclosed : d.bus.isClosed → b.isClosed) {isCancelled : Bool}
    (hcancelled : d.isCancelled → isCancelled) :
    d.Reaches { d with bus := b, isCancelled := isCancelled } := by
  refine (d.reaches_meanwhile hclosed).trans ?_
  cases isCancelled with
  | true => exact reaches_step _ .cancel
  | false =>
    have hnot : d.isCancelled = false := by simpa using hcancelled
    rw [← hnot]
    exact .refl _

/-- A turn of a task does what the consumer on duty can do, or the task is torn down. -/
theorem Shows.turn {t : Task} (h : d.Shows c t s) {isCancelled : Bool}
    (hcancelled : d.isCancelled → isCancelled) (rank : Nat) :
    (t.turn isCancelled rank s).1.isTornDown ∨
      ∃ d', d.Reaches d' ∧ (d'.isCancelled → isCancelled) ∧
        d'.Shows c (t.turn isCancelled rank s).1 (t.turn isCancelled rank s).2.2 := by
  obtain ⟨rfl, hclosed, streams, activity, alarm, yields, rfl, hholds, hacts⟩ := h
  have hheard := reaches_heard hclosed hcancelled
  suffices hfollows : Follows d.consumer { d with bus := s.bus, isCancelled := isCancelled }
      (Task.turn ⟨d.consumer.routine, streams, activity, alarm, yields⟩ isCancelled rank s) by
    refine hfollows.imp_right ?_
    rintro ⟨d', hreaches, hcancelled, hshows⟩
    exact ⟨d', hheard.trans hreaches, hcancelled.symm.trans, hshows⟩
  cases activity with
  | fresh =>
    exact follows_carryOn (d := { d with bus := s.bus, isCancelled := isCancelled }) _ rfl hacts.2
      hacts.1 rfl hholds rank
  | waiting =>
    exact follows_carryOn (d := { d with bus := s.bus, isCancelled := isCancelled }) _ rfl hacts.2
      hacts.1 rfl hholds rank
  | paused isClosing resume =>
    obtain ⟨hclosing, q, next, hrest, hresume⟩ := hacts
    obtain ⟨⟨hbus, -⟩, hanswer⟩ := hresume s
    rw [Task.turn]
    dsimp only
    cases hr : resume s with
    | mk action? s' =>
      rw [hr] at hbus hanswer
      cases action? with
      | none => exact .inl rfl
      | some action =>
        obtain ⟨a, rfl⟩ := hanswer action rfl
        obtain ⟨trace, hreaches⟩ := reaches_answer
          (d := { d with bus := s.bus, isCancelled := isCancelled }) hrest a
        rw [← hbus] at hholds
        refine .of_reaches hreaches rfl ?_
        cases isClosing with
        | true =>
          exact follows_close (d := { d with
            bus := s.bus, isCancelled := isCancelled, rest := next a, trace := trace })
            rfl rfl hclosing hbus.symm hholds rank
        | false =>
          exact follows_carryOn (d := { d with
            bus := s.bus, isCancelled := isCancelled, rest := next a, trace := trace })
            _ rfl rfl hclosing hbus.symm hholds rank
  | _ => exact .inr ⟨_, .refl _, rfl, rfl, id, streams, _, _, _, rfl, hholds, hacts⟩

end Turn

end Duty

/-! ### A life -/

namespace Simulation

/-- The subscriptions of a task that has not begun are numbered in their order. -/
theorem getElem?_of_get?_new {subscriptions : List Subscription} {i : Nat} {s : Subscription}
    (h : (Streams.new subscriptions).live.get? i = some s) : subscriptions[i]? = some s := by
  have hzip (subscriptions : List Subscription) (k : Nat)
      (hget : Table.lookup i ((List.range' k subscriptions.length).zip subscriptions) = some s) :
      k ≤ i ∧ subscriptions[i - k]? = some s := by
    induction subscriptions generalizing k with
    | nil => cases hget
    | cons s' subscriptions ih =>
      rw [List.length_cons, List.range'_succ, List.zip_cons_cons, Table.lookup] at hget
      split at hget
      next hk =>
        obtain rfl : k = i := hk
        rw [Nat.sub_self]
        exact ⟨Nat.le_refl _, hget⟩
      next hk =>
        obtain ⟨hle, hget⟩ := ih (k + 1) hget
        have hi : i - k = i - (k + 1) + 1 := by omega
        exact ⟨Nat.le_of_succ_le hle, by rw [hi]; exact hget⟩
  rw [Streams.new, Table.get?, List.range_eq_range'] at h
  exact (hzip subscriptions 0 h).2

/-- Whatever happens to the task of a consumer, it stands as a consumer on duty can, or it has been
    torn down. -/
theorem Task.Lives.shows {c : Consumer} {subscriptions : List Subscription}
    {s₀ s : Surroundings} {t : Task} {isCancelled : Bool}
    (h : Task.Lives (.ofConsumer c subscriptions) s₀ t s isCancelled) :
    t.isTornDown ∨ ∃ d, (Duty.start c s₀.bus subscriptions).Reaches d ∧
      (d.isCancelled → isCancelled) ∧ d.Shows c t s := by
  induction h with
  | start =>
    refine .inr ⟨_, .refl _, nofun, rfl, id, .new subscriptions, .fresh, none, false, rfl, ?_, rfl,
      rfl⟩
    refine ⟨fun i s hs => getElem?_of_get?_new hs, fun hempty => .inr ?_⟩
    have hlength : subscriptions.length = 0 := by
      simpa [Streams.new] using congrArg List.length hempty
    exact List.length_eq_zero_iff.1 hlength
  | @turn t s isCancelled _ rank ih =>
    obtain htorn | ⟨d, hreaches, hcancelled, hshows⟩ := ih
    · exact .inl (isTornDown_turn htorn isCancelled rank _)
    · obtain htorn | ⟨d', hreaches', hcancelled', hshows'⟩ := hshows.turn hcancelled rank
      · exact .inl htorn
      · exact .inr ⟨d', hreaches.trans hreaches', hcancelled', hshows'⟩
  | wake _ i ih =>
    refine ih.imp_right ?_
    rintro ⟨d, hreaches, hcancelled, rfl, hclosed, streams, _, _, _, rfl, hholds, hacts⟩
    exact ⟨d, hreaches, hcancelled, rfl, hclosed, streams.wake i, _, _, _, rfl, hholds, hacts⟩
  | cancel _ ih =>
    refine ih.imp_right ?_
    rintro ⟨d, hreaches, -, hshows⟩
    exact ⟨d, hreaches, fun _ => rfl, hshows⟩
  | meanwhile _ s' hs ih =>
    refine ih.imp_right ?_
    rintro ⟨d, hreaches, hcancelled, hc, hclosed, streams, _, _, _, ht, hholds, hacts⟩
    exact ⟨d, hreaches, hcancelled, hc, hs ∘ hclosed, streams, _, _, _, ht, hholds.mono hs, hacts⟩

end Simulation

end Courier
