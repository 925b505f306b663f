import Courier.Bus.Memory
import Courier.Proofs.Consumer.Block
import Courier.Proofs.Fairness
import Mathlib.Data.List.Infix

/-!
# A consumer on duty

A consumer reads its subscriptions of a bus in memory. While it waits, any of them may be read next;
while it handles an event, it asks one question at a time and goes on when that is answered. In
between somebody else may publish, do anything else to the bus, or cancel the consumer. A sequence
of turns says what happens in one run. The trace of a run lists the events that were taken, and the
calls that were made, apart from reports to the log. The task of a consumer in a simulation goes
through such turns all its life (`Simulation.Task.Lives.shows`).

* `Duty.play`: a consumer after a sequence of turns.
* `Duty.Moves`: all that a turn can do.
* `Duty.play_blocks`: the trace is made up of blocks, one for each event that was taken; a block
  that has begun is completed, and none begins any more on a closed bus or after cancellation.
-/

namespace Courier

/-- What a consumer does. -/
inductive Entry
  /-- It takes the event at a place in the log from the subscription with the given number. -/
  | took (stream place : Nat) (e : BusEvent)
  | called (call : Σ q : Request, q.Answer)

/-- A consumer in the background, with the bus to which it has subscribed. -/
structure Duty where
  consumer : Consumer
  bus : MemoryBus
  subscriptions : List Subscription
  /-- What is left to do until it waits again. -/
  rest : Action Bool
  /-- Whether nothing but its closing is left. -/
  isClosing : Bool
  isCancelled : Bool
  trace : List Entry

/-- The event that was taken, with the number of its subscription and its place in the log. -/
def Entry.taken? : Entry → Option (Nat × Nat × BusEvent)
  | took stream place e => some (stream, place, e)
  | called _ => none

namespace Duty

/-- What can happen next. -/
inductive Turn
  /-- Somebody publishes an event. -/
  | publish (e : BusEvent)
  /-- Something else is done to the bus. A closed bus stays closed. -/
  | meanwhile (bus : MemoryBus)
  | cancel
  /-- The question of the consumer is answered. -/
  | answer (reply : (q : Request) → q.Answer)
  /-- A step of the subscription with the given number. -/
  | read (i : Nat)
  /-- The consumer finds that all its subscriptions have ended. -/
  | finish
  /-- The consumer begins its closing. -/
  | stop

/-- Whether a question is answered. -/
def Turn.answers : Turn → Bool
  | answer _ => true
  | _ => false

/-- The event that somebody publishes. -/
def Turn.published? : Turn → Option BusEvent
  | publish e => some e
  | _ => none

/-- A consumer that has subscribed and does nothing yet. -/
def start (c : Consumer) (bus : MemoryBus) (subscriptions : List Subscription) : Duty :=
  ⟨c, bus, subscriptions, do c.routine.opening; return true, false, false, []⟩

/-- Whether the consumer waits for a delivery. -/
def isReady (d : Duty) : Bool :=
  match d.rest with
  | .done goesOn => goesOn && !d.isClosing && !d.isCancelled
  | .ask _ _ => false

/-- The consumer after a turn. A turn for which it is not the time changes nothing. -/
def step (d : Duty) : Turn → Duty
  | .publish e =>
    match d.bus.publish e with
    | .error _ => d
    | .ok (_, bus) => { d with bus := bus }
  | .meanwhile bus => { d with bus := { bus with isClosed := d.bus.isClosed || bus.isClosed } }
  | .cancel => { d with isCancelled := true }
  | .answer reply =>
    match d.rest with
    | .done _ => d
    | .ask q next =>
      { d with rest := next (reply q), trace := d.trace ++ (work [⟨q, reply q⟩]).map .called }
  | .read i =>
    match d.subscriptions[i]? with
    | none => d
    | some s =>
      if d.isReady then
        let d := { d with subscriptions := d.subscriptions.set i (d.bus.read s).2 }
        match (d.bus.read s).1 with
        | .event e =>
          { d with
            rest := d.consumer.routine.round (some ⟨e, some .counted⟩)
            trace := d.trace ++ [.took i s.position e] }
        | _ => d
      else d
  | .finish =>
    if d.isReady && (d.bus.isClosed || d.subscriptions.isEmpty) then
      { d with rest := d.consumer.routine.round none }
    else d
  | .stop =>
    match d.rest with
    | .done goesOn =>
      if !d.isClosing && (!goesOn || d.isCancelled) then
        { d with rest := do d.consumer.routine.closing; return false, isClosing := true }
      else d
    | .ask _ _ => d

/-- The consumer after a sequence of turns. -/
def play (d : Duty) (turns : List Turn) : Duty := turns.foldl step d

/-- The consumer after so many turns of an endless sequence. -/
def after (d : Duty) (schedule : Nat → Turn) (n : Nat) : Duty :=
  d.play ((List.range n).map schedule)

/-- The events that were taken. -/
def taken (d : Duty) : List (Nat × Nat × BusEvent) := d.trace.filterMap Entry.taken?

theorem play_append (d : Duty) (turns turns' : List Turn) :
    d.play (turns ++ turns') = (d.play turns).play turns' := List.foldl_append

/-! ### A turn -/

/-- All that a turn can do. -/
inductive Moves (d : Duty) : Turn → Duty → Prop
  | stay {t : Turn} (h : t.published? = none) : Moves d t d
  | refuse {e : BusEvent} (h : d.bus.isClosed) : Moves d (.publish e) d
  | publish {e : BusEvent} {b : MemoryBus} {publication : MemoryBus.Publication}
      (h : d.bus.publish e = .ok (publication, b)) : Moves d (.publish e) { d with bus := b }
  | meanwhile (b : MemoryBus) :
      Moves d (.meanwhile b) { d with bus := { b with isClosed := d.bus.isClosed || b.isClosed } }
  | cancel : Moves d .cancel { d with isCancelled := true }
  | answer {q : Request} {next : q.Answer → Action Bool} (h : d.rest = .ask q next)
      (reply : (q : Request) → q.Answer) :
      Moves d (.answer reply) { d with
        rest := next (reply q)
        trace := d.trace ++ (work [⟨q, reply q⟩]).map .called }
  | pass {i : Nat} {s : Subscription} (hready : d.isReady) (hs : d.subscriptions[i]? = some s)
      (hread : ∀ e, (d.bus.read s).1 ≠ .event e) :
      Moves d (.read i) { d with subscriptions := d.subscriptions.set i (d.bus.read s).2 }
  | take {i : Nat} {s : Subscription} {e : BusEvent} (hready : d.isReady)
      (hs : d.subscriptions[i]? = some s) (hread : (d.bus.read s).1 = .event e) :
      Moves d (.read i) { d with
        subscriptions := d.subscriptions.set i (d.bus.read s).2
        rest := do d.consumer.process ⟨e, some .counted⟩; return true
        trace := d.trace ++ [.took i s.position e] }
  | finish (hready : d.isReady) (hend : d.bus.isClosed ∨ d.subscriptions = []) :
      Moves d .finish { d with rest := do note .subscriptionsEnded; return false }
  | stop {goesOn : Bool} (h : d.rest = .done goesOn) (hclosing : d.isClosing = false)
      (hend : goesOn = false ∨ d.isCancelled) :
      Moves d .stop { d with rest := do note .consumerStopped; return false, isClosing := true }

variable {d d' : Duty} {t : Turn}

theorem isReady_iff :
    d.isReady ↔ d.rest = .done true ∧ d.isClosing = false ∧ d.isCancelled = false := by
  rw [isReady]
  cases hrest : d.rest with
  | done goesOn => simp [and_assoc]
  | ask q next => simp

theorem step_moves (d : Duty) (t : Turn) : d.Moves t (d.step t) := by
  cases t with
  | publish e =>
    rw [step]
    cases hpublish : d.bus.publish e with
    | error error =>
      refine .refuse (by_contra fun hopen => ?_)
      rw [MemoryBus.publish, if_neg hopen] at hpublish
      split at hpublish <;> cases hpublish
    | ok p => exact .publish hpublish
  | meanwhile b => exact .meanwhile b
  | cancel => exact .cancel
  | answer reply =>
    rw [step]
    cases hrest : d.rest with
    | done goesOn => exact .stay rfl
    | ask q next => exact .answer hrest reply
  | read i =>
    rw [step]
    cases hs : d.subscriptions[i]? with
    | none => exact .stay rfl
    | some s =>
      by_cases hready : d.isReady
      · simp only [hready, if_true]
        split
        next e hread => exact .take hready hs hread
        next hread => exact .pass hready hs hread
      · simp only [hready]
        exact .stay rfl
  | finish =>
    rw [step]
    split
    next h =>
      rw [Bool.and_eq_true, Bool.or_eq_true, List.isEmpty_iff] at h
      exact .finish h.1 h.2
    next => exact .stay rfl
  | stop =>
    rw [step]
    cases hrest : d.rest with
    | done goesOn =>
      dsimp only
      split
      next h =>
        rw [Bool.and_eq_true, Bool.or_eq_true, Bool.not_eq_true', Bool.not_eq_true'] at h
        exact .stop hrest h.1 h.2
      next => exact .stay rfl
    | ask q next => exact .stay rfl

/-- What holds after all that a turn can do holds after the turn. -/
@[elab_as_elim]
theorem step_elim {motive : Duty → Prop} (d : Duty) (t : Turn)
    (h : ∀ d', d.Moves t d' → motive d') : motive (d.step t) :=
  h _ (d.step_moves t)

end Duty

/-! ### Blocks -/

/-- An event that was taken, and all calls that were made for it. -/
structure Block where
  stream : Nat
  place : Nat
  event : BusEvent
  calls : Calls

def Block.entries (b : Block) : List Entry :=
  .took b.stream b.place b.event :: b.calls.map .called

/-- A trace is a sequence of complete blocks. -/
def Consumer.Carried (c : Consumer) (trace : List Entry) : Prop :=
  ∃ blocks : List Block, trace = blocks.flatMap Block.entries ∧
    ∀ b ∈ blocks, c.IsBlock b.event b.calls

/-- A program does nothing but report to the log. -/
def Program.IsSilent {α : Type} : Program Request Request.Answer α → Prop
  | .done _ => True
  | .ask q next => q.isNote ∧ ∀ a, (next a).IsSilent

/-- What a consumer has done, against what is left to do: nothing to speak of, or the rest of the
    last block. -/
inductive Consumer.Stands (c : Consumer) : Action Bool → Bool → List Entry → Prop
  | resting {p : Action Bool} {isClosing : Bool} {done : List Entry} (hp : p.IsSilent)
      (hdone : c.Carried done) : Stands c p isClosing done
  | handling {p : Action Unit} {done : List Entry} {calls : Calls} (stream place : Nat)
      (e : BusEvent) (hp : (c.process ⟨e, some .counted⟩).Runs calls p) (hdone : c.Carried done) :
      Stands c (do p; return true) false
        (done ++ Block.entries ⟨stream, place, e, work calls⟩)

variable {c : Consumer} {done trace : List Entry}

theorem Consumer.carried_nil (c : Consumer) : c.Carried [] := ⟨[], rfl, by simp⟩

theorem Consumer.Carried.concat (h : c.Carried done) {b : Block} (hb : c.IsBlock b.event b.calls) :
    c.Carried (done ++ b.entries) := by
  obtain ⟨blocks, rfl, hblocks⟩ := h
  refine ⟨blocks ++ [b], by simp, ?_⟩
  simpa [or_imp, forall_and] using ⟨hblocks, hb⟩

/-- Where nothing is left to be asked, every block is complete. -/
theorem Consumer.Stands.carried {p : Action Bool} {isClosing : Bool}
    (h : c.Stands p isClosing trace) (hp : p.question? = none) : c.Carried trace := by
  cases h with
  | resting _ hdone => exact hdone
  | @handling p done calls stream place e hruns hdone =>
    cases p with
    | done _ => exact hdone.concat (Consumer.isBlock_of_runs hruns)
    | ask q next => cases hp

/-- Where something is left to be asked, the last block may be incomplete. -/
theorem Consumer.Stands.exists_carried {p : Action Bool} {isClosing : Bool}
    (h : c.Stands p isClosing trace) :
    ∃ done rest, trace = done ++ rest ∧ c.Carried done ∧
      (rest = [] ∨ p.question? ≠ none ∧ ∃ b : Block, rest = b.entries ∧
        ∃ more, c.IsBlock b.event (b.calls ++ more)) := by
  by_cases hp : p.question? = none
  · exact ⟨trace, [], (List.append_nil _).symm, h.carried hp, .inl rfl⟩
  · cases h with
    | resting _ hdone => exact ⟨trace, [], (List.append_nil _).symm, hdone, .inl rfl⟩
    | handling stream place e hruns hdone =>
      exact ⟨_, _, rfl, hdone, .inr ⟨hp, _, rfl, Consumer.exists_isBlock hruns⟩⟩

/-- An answer adds to the last block, or is not to be spoken of. -/
theorem Consumer.Stands.answer {q : Request} {next : q.Answer → Action Bool} {isClosing : Bool}
    (h : c.Stands (.ask q next) isClosing trace) (a : q.Answer) :
    c.Stands (next a) isClosing (trace ++ (work [⟨q, a⟩]).map .called) := by
  generalize hp : Program.ask q next = p at h
  cases h with
  | resting hsilent hdone =>
    subst hp
    have hwork : work [⟨q, a⟩] = [] := by simp [work, hsilent.1]
    rw [hwork, List.map_nil, List.append_nil]
    exact .resting (hsilent.2 a) hdone
  | @handling p done calls stream place e hruns hdone =>
    cases p with
    | done _ => cases hp
    | ask q' next' =>
      cases hp
      have hentries : done ++ Block.entries ⟨stream, place, e, work (calls ++ [⟨q, a⟩])⟩ =
          done ++ Block.entries ⟨stream, place, e, work calls⟩ ++ (work [⟨q, a⟩]).map .called := by
        simp [Block.entries]
      rw [← hentries]
      exact .handling stream place e (hruns.concat a) hdone

namespace Duty

variable {d d' : Duty} {t : Turn} {turns : List Turn}

/-- What holds of a consumer on duty. -/
structure Sound (c : Consumer) (d : Duty) : Prop where
  consumer_eq : d.consumer = c
  stands : c.Stands d.rest d.isClosing d.trace

theorem Sound.start (c : Consumer) (bus : MemoryBus) (subscriptions : List Subscription) :
    Sound c (start c bus subscriptions) :=
  ⟨rfl, .resting ⟨rfl, fun _ => trivial⟩ c.carried_nil⟩

theorem Sound.step (h : Sound c d) (t : Turn) : Sound c (d.step t) := by
  obtain ⟨rfl, hstands⟩ := h
  have hsilent (notice : Notice) (goesOn : Bool) :
      (do note notice; return goesOn : Action Bool).IsSilent := ⟨rfl, fun _ => trivial⟩
  refine d.step_elim t fun d' hmoves => ?_
  cases hmoves with
  | stay _ => exact ⟨rfl, hstands⟩
  | refuse _ => exact ⟨rfl, hstands⟩
  | publish _ => exact ⟨rfl, hstands⟩
  | meanwhile _ => exact ⟨rfl, hstands⟩
  | cancel => exact ⟨rfl, hstands⟩
  | pass _ _ _ => exact ⟨rfl, hstands⟩
  | answer hrest reply =>
    rw [hrest] at hstands
    exact ⟨rfl, hstands.answer _⟩
  | @take i s e hready hs hread =>
    obtain ⟨hrest, hclosing, -⟩ := isReady_iff.1 hready
    refine ⟨rfl, ?_⟩
    have hcarried := hstands.carried (by rw [hrest]; rfl)
    have hstands := Consumer.Stands.handling i s.position e (.refl _) hcarried
    rw [← hclosing] at hstands
    exact hstands
  | finish hready _ =>
    obtain ⟨hrest, -⟩ := isReady_iff.1 hready
    exact ⟨rfl, .resting (hsilent _ _) (hstands.carried (by rw [hrest]; rfl))⟩
  | stop hrest _ _ => exact ⟨rfl, .resting (hsilent _ _) (hstands.carried (by rw [hrest]; rfl))⟩

theorem Sound.play (h : Sound c d) (turns : List Turn) : Sound c (d.play turns) := by
  induction turns generalizing d with
  | nil => exact h
  | cons t turns ih => exact ih (h.step t)

theorem trace_prefix_step (d : Duty) (t : Turn) : d.trace <+: (d.step t).trace := by
  refine d.step_elim t fun d' hmoves => ?_
  cases hmoves with
  | answer _ _ => exact List.prefix_append _ _
  | take _ _ _ => exact List.prefix_append _ _
  | _ => exact List.prefix_rfl

theorem trace_prefix_play (d : Duty) (turns : List Turn) : d.trace <+: (d.play turns).trace := by
  induction turns generalizing d with
  | nil => exact List.prefix_rfl
  | cons t turns ih => exact (d.trace_prefix_step t).trans (ih (d.step t))

/-! ### No more blocks -/

/-- The consumer is cancelled, or its bus is closed. -/
def IsOver (d : Duty) : Prop := d.isCancelled ∨ d.bus.isClosed

theorem isClosed_step (h : d.bus.isClosed) (t : Turn) : (d.step t).bus.isClosed := by
  refine d.step_elim t fun d' hmoves => ?_
  cases hmoves with
  | publish hpublish =>
    rw [MemoryBus.publish, if_pos h] at hpublish
    cases hpublish
  | meanwhile b => simp [h]
  | _ => exact h

theorem isCancelled_step (h : d.isCancelled) (t : Turn) : (d.step t).isCancelled := by
  refine d.step_elim t fun d' hmoves => ?_
  cases hmoves with
  | cancel => rfl
  | _ => exact h

theorem IsOver.step (h : d.IsOver) (t : Turn) : (d.step t).IsOver :=
  h.imp (isCancelled_step · t) (isClosed_step · t)

theorem filterMap_taken?_called (calls : Calls) :
    (calls.map Entry.called).filterMap Entry.taken? = [] := by
  rw [List.filterMap_map]
  exact List.filterMap_eq_nil_iff.2 fun _ _ => rfl

/-- On a closed bus there is nothing to take, and whoever is cancelled takes nothing. -/
theorem IsOver.taken_step (h : d.IsOver) (t : Turn) : (d.step t).taken = d.taken := by
  refine d.step_elim t fun d' hmoves => ?_
  cases hmoves with
  | answer hrest reply =>
    rw [taken, taken, List.filterMap_append, filterMap_taken?_called, List.append_nil]
  | take hready hs hread =>
    rcases h with hcancelled | hclosed
    · rw [(isReady_iff.1 hready).2.2] at hcancelled
      cases hcancelled
    · rw [MemoryBus.read, if_pos hclosed] at hread
      cases hread
  | _ => rfl

theorem IsOver.taken_play (h : d.IsOver) (turns : List Turn) : (d.play turns).taken = d.taken := by
  induction turns generalizing d with
  | nil => rfl
  | cons t turns ih => exact (ih (h.step t)).trans (h.taken_step t)

/-! ### Completion -/

/-- Only an answer lets a consumer go on that asks something. -/
theorem rest_step (d : Duty) (ht : t.answers = false) (hq : d.rest.question? ≠ none) :
    (d.step t).rest = d.rest := by
  have hdone (goesOn : Bool) : d.rest ≠ .done goesOn := fun h => hq (by rw [h]; rfl)
  refine d.step_elim t fun d' hmoves => ?_
  cases hmoves with
  | answer _ _ => cases ht
  | take hready _ _ => exact absurd (isReady_iff.1 hready).1 (hdone true)
  | finish hready _ => exact absurd (isReady_iff.1 hready).1 (hdone true)
  | stop hrest _ _ => exact absurd hrest (hdone _)
  | _ => rfl

/-- A consumer goes on with every answer. -/
theorem driven : Program.Driven step rest Turn.answers fun _ => True where
  keeps _ _ _ := trivial
  waits d _ _ ht hq := d.rest_step ht hq
  goesOn d t q next _ ht hrest := by
    cases t with
    | answer reply => exact ⟨reply q, by rw [step, hrest]⟩
    | _ => cases ht

/-- If answers come again and again, the consumer is done with what it has begun at some time. -/
theorem exists_question?_eq_none (d : Duty) {schedule : Nat → Turn}
    (hfair : ∀ n, ∃ k ≥ n, (schedule k).answers) :
    ∃ n, (d.after schedule n).rest.question? = none :=
  driven.exists_question?_eq_none trivial hfair

/-- A consumer reads its subscriptions and handles what it takes, while anything may be done to the
    bus and the consumer may be cancelled. All that it has done is a sequence of complete blocks,
    one for each event that it has taken, but for the last block, which may be incomplete while a
    question is pending. If answers come again and again, then at some time every block that has
    begun is complete. Once the consumer is cancelled or the bus is closed, no block begins. -/
theorem play_blocks (c : Consumer) (bus : MemoryBus) (subscriptions : List Subscription)
    (turns : List Turn) :
    let d := (start c bus subscriptions).play turns
    (∃ done rest, d.trace = done ++ rest ∧ c.Carried done ∧
      (rest = [] ∨ d.rest.question? ≠ none ∧ ∃ b : Block, rest = b.entries ∧
        ∃ more, c.IsBlock b.event (b.calls ++ more))) ∧
      (∀ schedule : Nat → Turn, (∀ n, ∃ k ≥ n, (schedule k).answers) →
        ∃ n, c.Carried (d.after schedule n).trace ∧ d.trace <+: (d.after schedule n).trace) ∧
      (d.isCancelled ∨ d.bus.isClosed → ∀ more, (d.play more).taken = d.taken) := by
  intro d
  have h : Sound c d := (Sound.start c bus subscriptions).play turns
  refine ⟨h.stands.exists_carried, ?_, fun hover more => IsOver.taken_play hover more⟩
  intro schedule hfair
  obtain ⟨n, hn⟩ := d.exists_question?_eq_none hfair
  exact ⟨n, (h.play _).stands.carried hn, d.trace_prefix_play _⟩

end Duty

end Courier
