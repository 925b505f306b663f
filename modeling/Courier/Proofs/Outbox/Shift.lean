import Courier.Proofs.Consumer.Duty
import Courier.Proofs.Outbox.Tick
import Courier.Time.Ticker
import Mathlib.Data.List.Infix

/-!
# A worker on its shift

A worker in the background waits for its ticker. When a tick is due, it goes through the tick and
asks one question at a time, and goes on when that is answered, however long it takes. In between
time passes, and the worker may be cancelled. A sequence of turns says what happens in one run.
The trace of a run lists the ticks that began, each with the time when it was due and the time when
it began, and the calls that were made, apart from reports to the log.

* `Shift.play`: a worker after a sequence of turns.
* `Shift.Moves`: all that a turn can do.
* `Worker.Carried`: a trace is made up of complete ticks.
* `Worker.Attends`: the last tick may be incomplete while a question is pending.
* `Shift.Sound.fetches_eq`: every tick that began has its fetch, and there is no other fetch.
* `Shift.ticks_play`: no tick begins after cancellation.
* `Shift.Sound.exists_carried`: a tick that has begun is complete at some time.
-/

namespace Courier.Outbox

/-- What a worker does. -/
inductive Shift.Entry
  /-- It begins a tick that was due at the first of the times at the second. -/
  | began (due now : Nat)
  | called (call : Σ q : Request, q.Answer)

/-- A worker in the background. -/
structure Shift where
  worker : Worker
  now : Nat
  /-- Its ticker, once it has taken its first step. -/
  ticker : Option Ticker
  /-- What is left to do until it waits again. -/
  rest : Action Bool
  /-- Whether nothing but its closing is left. -/
  isClosing : Bool
  isCancelled : Bool
  trace : List Shift.Entry

namespace Shift

/-- What can happen next. -/
inductive Turn
  /-- The clock comes to show this time. -/
  | pass (time : Nat)
  | cancel
  /-- The worker takes its first step, in which it starts its ticker. -/
  | begin
  /-- The question of the worker is answered. -/
  | answer (reply : (q : Request) → q.Answer)
  /-- The worker looks whether a tick is due. -/
  | tick
  /-- The worker begins its closing. -/
  | stop

/-- Whether a question is answered. -/
def Turn.answers : Turn → Bool
  | answer _ => true
  | _ => false

/-- The time when a tick was due and the time when it began. -/
def Entry.began? : Entry → Option (Nat × Nat)
  | began due now => some (due, now)
  | called _ => none

/-- The call that was made. -/
def Entry.called? : Entry → Option (Σ q : Request, q.Answer)
  | began _ _ => none
  | called call => some call

/-- A worker that has been started and has not taken a step yet. -/
def start (w : Worker) (now : Nat) : Shift :=
  ⟨w, now, none, do w.routine.opening; return true, false, false, []⟩

/-- Whether the worker waits for its ticker. -/
def isReady (d : Shift) : Bool :=
  match d.rest with
  | .done goesOn => goesOn && !d.isClosing && !d.isCancelled
  | .ask _ _ => false

/-- The worker after a turn. A turn for which it is not the time changes nothing. -/
def step (d : Shift) : Turn → Shift
  | .pass time => { d with now := time }
  | .cancel => { d with isCancelled := true }
  | .begin =>
    match d.ticker with
    | none => { d with ticker := some (.start d.worker.period d.now) }
    | some _ => d
  | .answer reply =>
    match d.ticker, d.rest with
    | some _, .ask q next =>
      { d with rest := next (reply q), trace := d.trace ++ (work [⟨q, reply q⟩]).map .called }
    | _, _ => d
  | .tick =>
    match d.ticker with
    | some ticker =>
      if d.isReady && ticker.isDue d.now then
        { d with
          ticker := some (ticker.tick d.now)
          rest := d.worker.routine.round ()
          trace := d.trace ++ [.began ticker.due d.now] }
      else d
    | none => d
  | .stop =>
    match d.rest with
    | .done goesOn =>
      if !d.isClosing && (!goesOn || d.isCancelled) then
        { d with rest := do d.worker.routine.closing; return false, isClosing := true }
      else d
    | .ask _ _ => d

/-- The worker after a sequence of turns. -/
def play (d : Shift) (turns : List Turn) : Shift := turns.foldl step d

/-- The worker after so many turns of an endless sequence. -/
def after (d : Shift) (schedule : Nat → Turn) (n : Nat) : Shift :=
  d.play ((List.range n).map schedule)

/-- The ticks that began, each with the time when it was due and the time when it began. -/
def ticks (d : Shift) : List (Nat × Nat) := d.trace.filterMap Entry.began?

/-- How many fetches have been started. -/
def fetches (d : Shift) : Nat := fetchesOf (d.trace.filterMap Entry.called?) + pendingFetches d.rest

theorem play_append (d : Shift) (turns turns' : List Turn) :
    d.play (turns ++ turns') = (d.play turns).play turns' := List.foldl_append

/-- What every turn keeps holds after all of them. -/
theorem play_keeps {P : Shift → Prop} (h : ∀ d t, P d → P (d.step t)) {d : Shift} (hd : P d)
    (turns : List Turn) : P (d.play turns) :=
  List.foldlRecOn turns step hd fun d hd t _ => h d t hd

/-! ### A turn -/

/-- All that a turn can do. -/
inductive Moves (d : Shift) : Turn → Shift → Prop
  | stay {t : Turn} : Moves d t d
  | pass (time : Nat) : Moves d (.pass time) { d with now := time }
  | cancel : Moves d .cancel { d with isCancelled := true }
  | begin (h : d.ticker = none) :
      Moves d .begin { d with ticker := some (.start d.worker.period d.now) }
  | answer {ticker : Ticker} {q : Request} {next : q.Answer → Action Bool}
      (hticker : d.ticker = some ticker) (h : d.rest = .ask q next)
      (reply : (q : Request) → q.Answer) :
      Moves d (.answer reply) { d with
        rest := next (reply q)
        trace := d.trace ++ (work [⟨q, reply q⟩]).map .called }
  | tick {ticker : Ticker} (hready : d.isReady) (hticker : d.ticker = some ticker)
      (hdue : ticker.isDue d.now) :
      Moves d .tick { d with
        ticker := some (ticker.tick d.now)
        rest := do let _ ← d.worker.runOnce; return true
        trace := d.trace ++ [.began ticker.due d.now] }
  | stop {goesOn : Bool} (h : d.rest = .done goesOn) (hclosing : d.isClosing = false)
      (hend : goesOn = false ∨ d.isCancelled) :
      Moves d .stop { d with rest := do note .workerStopped; return false, isClosing := true }

variable {d d' : Shift} {t : Turn}

theorem isReady_iff :
    d.isReady ↔ d.rest = .done true ∧ d.isClosing = false ∧ d.isCancelled = false := by
  rw [isReady]
  cases hrest : d.rest with
  | done goesOn => simp [and_assoc]
  | ask q next => simp

theorem step_moves (d : Shift) (t : Turn) : d.Moves t (d.step t) := by
  cases t with
  | pass time => exact .pass time
  | cancel => exact .cancel
  | begin =>
    rw [step]
    split
    next h => exact .begin h
    next => exact .stay
  | answer reply =>
    rw [step]
    split
    next hticker hrest => exact .answer hticker hrest reply
    next => exact .stay
  | tick =>
    rw [step]
    split
    next ticker hticker =>
      split
      next h =>
        rw [Bool.and_eq_true] at h
        exact .tick h.1 hticker h.2
      next => exact .stay
    next => exact .stay
  | stop =>
    rw [step]
    split
    next goesOn hrest =>
      split
      next h =>
        rw [Bool.and_eq_true, Bool.or_eq_true, Bool.not_eq_true', Bool.not_eq_true'] at h
        exact .stop hrest h.1 h.2
      next => exact .stay
    next => exact .stay

/-- What holds after all that a turn can do holds after the turn. -/
@[elab_as_elim]
theorem step_elim {motive : Shift → Prop} (d : Shift) (t : Turn)
    (h : ∀ d', d.Moves t d' → motive d') : motive (d.step t) :=
  h _ (d.step_moves t)

end Shift

/-! ### Ticks -/

/-- A tick with all calls that were made in it. -/
structure Tick where
  due : Nat
  now : Nat
  calls : Calls

def Tick.entries (t : Tick) : List Shift.Entry := .began t.due t.now :: t.calls.map .called

/-- A trace is a sequence of complete ticks. -/
def Worker.Carried (w : Worker) (trace : List Shift.Entry) : Prop :=
  ∃ ticks : List Tick, trace = ticks.flatMap Tick.entries ∧ ∀ t ∈ ticks, w.IsTick t.calls

/-- What a worker has done, against what is left to do: nothing to speak of, or the rest of the last
    tick. -/
inductive Worker.Attends (w : Worker) : Action Bool → Bool → List Shift.Entry → Prop
  | resting {p : Action Bool} {isClosing : Bool} {done : List Shift.Entry} (hp : p.IsSilent)
      (hdone : w.Carried done) : Attends w p isClosing done
  | working {p : Action Report} {done : List Shift.Entry} {calls : Calls} (due now : Nat)
      (hp : w.runOnce.Runs calls p) (hdone : w.Carried done) :
      Attends w (do let _ ← p; return true) false (done ++ Tick.entries ⟨due, now, work calls⟩)

section Attends

variable {w : Worker} {done trace : List Shift.Entry} {p : Action Bool} {isClosing : Bool}

theorem Worker.carried_nil (w : Worker) : w.Carried [] := ⟨[], rfl, by simp⟩

theorem Worker.Carried.concat (h : w.Carried done) {t : Tick} (ht : w.IsTick t.calls) :
    w.Carried (done ++ t.entries) := by
  obtain ⟨ticks, rfl, hticks⟩ := h
  refine ⟨ticks ++ [t], by simp, ?_⟩
  simpa [or_imp, forall_and] using ⟨hticks, ht⟩

/-- Where nothing is left to be asked, or nothing but the closing, every tick is complete. -/
theorem Worker.Attends.carried (h : w.Attends p isClosing trace)
    (hp : p.question? = none ∨ isClosing = true) : w.Carried trace := by
  cases h with
  | resting _ hdone => exact hdone
  | @working p done calls due now hruns hdone =>
    cases p with
    | done _ => exact hdone.concat (Worker.isTick_of_runs hruns)
    | ask q next => rcases hp with hp | hp <;> cases hp

/-- Where something is left to be asked, the last tick may be incomplete. -/
theorem Worker.Attends.exists_carried (h : w.Attends p isClosing trace) :
    ∃ done rest, trace = done ++ rest ∧ w.Carried done ∧
      (rest = [] ∨ p.question? ≠ none ∧ ∃ t : Tick, rest = t.entries ∧
        ∃ more, w.IsTick (t.calls ++ more)) := by
  by_cases hp : p.question? = none
  · exact ⟨trace, [], (List.append_nil _).symm, h.carried (.inl hp), .inl rfl⟩
  · cases h with
    | resting _ hdone => exact ⟨trace, [], (List.append_nil _).symm, hdone, .inl rfl⟩
    | working due now hruns hdone =>
      exact ⟨_, _, rfl, hdone, .inr ⟨hp, _, rfl, Worker.exists_isTick hruns⟩⟩

/-- An answer adds to the last tick, or is not to be spoken of. -/
theorem Worker.Attends.answer {q : Request} {next : q.Answer → Action Bool}
    (h : w.Attends (.ask q next) isClosing trace) (a : q.Answer) :
    w.Attends (next a) isClosing (trace ++ (work [⟨q, a⟩]).map .called) := by
  generalize hp : Program.ask q next = p at h
  cases h with
  | resting hsilent hdone =>
    subst hp
    have hwork : work [⟨q, a⟩] = [] := by simp [work, hsilent.1]
    rw [hwork, List.map_nil, List.append_nil]
    exact .resting (hsilent.2 a) hdone
  | @working p done calls due now hp' hdone =>
    cases p with
    | done _ => cases hp
    | ask q' next' =>
      cases hp
      have hentries : done ++ Tick.entries ⟨due, now, work (calls ++ [⟨q, a⟩])⟩ =
          done ++ Tick.entries ⟨due, now, work calls⟩ ++ (work [⟨q, a⟩]).map .called := by
        simp [Tick.entries]
      rw [← hentries]
      exact .working due now (hp'.concat a) hdone

/-! ### Fetches -/

theorem Tick.filterMap_called? (t : Tick) : t.entries.filterMap Shift.Entry.called? = t.calls := by
  rw [entries, List.filterMap_cons_none rfl, List.filterMap_map]
  exact List.filterMap_some

theorem Shift.filterMap_began?_map_called (calls : Calls) :
    (calls.map Entry.called).filterMap Entry.began? = [] := by
  rw [List.filterMap_map]
  exact List.filterMap_eq_nil_iff.2 fun _ _ => rfl

theorem Tick.filterMap_began? (t : Tick) :
    t.entries.filterMap Shift.Entry.began? = [(t.due, t.now)] := by
  rw [← Shift.filterMap_began?_map_called t.calls]
  rfl

theorem Worker.Carried.fetchesOf_eq (h : w.Carried trace) :
    fetchesOf (trace.filterMap Shift.Entry.called?) =
      (trace.filterMap Shift.Entry.began?).length := by
  obtain ⟨ticks, rfl, hticks⟩ := h
  induction ticks with
  | nil => rfl
  | cons t ticks ih =>
    rw [List.forall_mem_cons] at hticks
    rw [List.flatMap_cons, List.filterMap_append, List.filterMap_append, fetchesOf_append,
      Tick.filterMap_called?, Tick.filterMap_began?, hticks.1.fetchesOf_eq, ih hticks.2,
      List.length_append]
    rfl

/-- Every tick that began has its fetch, which is pending or has been answered. -/
theorem Worker.Attends.fetchesOf_eq (h : w.Attends p isClosing trace) :
    fetchesOf (trace.filterMap Shift.Entry.called?) + pendingFetches p =
      (trace.filterMap Shift.Entry.began?).length := by
  cases h with
  | resting hsilent hdone =>
    have hpending : pendingFetches p = 0 := by
      cases p with
      | done _ => rfl
      | ask q next =>
        refine if_neg fun hfetch => ?_
        have hnote := hsilent.1
        cases q <;> simp_all [isFetch, Request.isNote, Program.question?]
    rw [hdone.fetchesOf_eq, hpending]
    rfl
  | @working p done calls due now hruns hdone =>
    have hpending :
        pendingFetches (do let _ ← p; return true : Action Bool) = pendingFetches p := by
      cases p <;> rfl
    have hone := Worker.fetchesOf_of_runs hruns
    rw [hpending, List.filterMap_append, List.filterMap_append, fetchesOf_append,
      Tick.filterMap_called?, Tick.filterMap_began?, Worker.fetchesOf_work, hdone.fetchesOf_eq,
      List.length_append, Nat.add_assoc, hone]
    rfl

end Attends

namespace Shift

variable {w : Worker} {d d' : Shift} {t : Turn} {turns : List Turn}

/-- What holds of a worker on its shift. -/
structure Sound (w : Worker) (d : Shift) : Prop where
  worker_eq : d.worker = w
  attends : w.Attends d.rest d.isClosing d.trace
  /-- Before its first step it does nothing. -/
  fresh : d.ticker = none → d.rest.IsSilent ∧ d.trace = []

theorem isSilent_note (notice : Notice) (goesOn : Bool) :
    (do note notice; return goesOn : Action Bool).IsSilent := ⟨rfl, fun _ => trivial⟩

theorem Sound.start (w : Worker) (now : Nat) : Sound w (start w now) :=
  ⟨rfl, .resting (isSilent_note _ _) w.carried_nil, fun _ => ⟨isSilent_note _ _, rfl⟩⟩

theorem Sound.step (h : Sound w d) (t : Turn) : Sound w (d.step t) := by
  obtain ⟨rfl, hattends, hfresh⟩ := h
  refine d.step_elim t fun d' hmoves => ?_
  cases hmoves with
  | stay => exact ⟨rfl, hattends, hfresh⟩
  | pass _ => exact ⟨rfl, hattends, hfresh⟩
  | cancel => exact ⟨rfl, hattends, hfresh⟩
  | begin _ => exact ⟨rfl, hattends, nofun⟩
  | answer hticker hrest reply =>
    rw [hrest] at hattends
    exact ⟨rfl, hattends.answer _, fun hnone => absurd (hnone.symm.trans hticker) nofun⟩
  | @tick ticker hready hticker _ =>
    -- Whoever is ready has nothing left to ask, so that the last tick is complete.
    obtain ⟨hrest, hclosing, -⟩ := isReady_iff.1 hready
    have hcarried := hattends.carried (.inl (by rw [hrest]; rfl))
    refine ⟨rfl, ?_, nofun⟩
    have hattends := Worker.Attends.working ticker.due d.now (.refl _) hcarried
    rw [← hclosing] at hattends
    exact hattends
  | stop hrest _ _ =>
    exact ⟨rfl, .resting (isSilent_note _ _) (hattends.carried (.inl (by rw [hrest]; rfl))),
      fun hnone => ⟨isSilent_note _ _, (hfresh hnone).2⟩⟩

theorem Sound.play (h : Sound w d) (turns : List Turn) : Sound w (d.play turns) :=
  play_keeps (fun _ t h => h.step t) h turns

/-- Every tick that began has its fetch, and there is no other fetch. -/
theorem Sound.fetches_eq (h : Sound w d) : d.fetches = d.ticks.length := h.attends.fetchesOf_eq

theorem trace_prefix_step (d : Shift) (t : Turn) : d.trace <+: (d.step t).trace := by
  refine d.step_elim t fun d' hmoves => ?_
  cases hmoves with
  | answer _ _ _ => exact List.prefix_append _ _
  | tick _ _ _ => exact List.prefix_append _ _
  | _ => exact List.prefix_rfl

theorem trace_prefix_play (d : Shift) (turns : List Turn) : d.trace <+: (d.play turns).trace :=
  play_keeps (P := fun d' => d.trace <+: d'.trace) (fun d' t h => h.trans (d'.trace_prefix_step t))
    List.prefix_rfl turns

/-- No tick has begun before its time. -/
def IsTimely (d : Shift) : Prop := ∀ tick ∈ d.ticks, tick.1 ≤ tick.2

/-! ### Cancellation -/

theorem isCancelled_step (h : d.isCancelled) (t : Turn) : (d.step t).isCancelled := by
  refine d.step_elim t fun d' hmoves => ?_
  cases hmoves with
  | cancel => rfl
  | _ => exact h

/-- Whoever is cancelled begins no tick, be it due or not. -/
theorem ticks_step (h : d.isCancelled) (t : Turn) : (d.step t).ticks = d.ticks := by
  refine d.step_elim t fun d' hmoves => ?_
  cases hmoves with
  | answer _ _ _ =>
    rw [ticks, ticks, List.filterMap_append, filterMap_began?_map_called, List.append_nil]
  | tick hready _ _ =>
    rw [(isReady_iff.1 hready).2.2] at h
    cases h
  | _ => rfl

theorem ticks_play (h : d.isCancelled) (turns : List Turn) : (d.play turns).ticks = d.ticks := by
  have hkeeps (d' : Shift) (t : Turn) (h' : d'.isCancelled ∧ d'.ticks = d.ticks) :
      (d'.step t).isCancelled ∧ (d'.step t).ticks = d.ticks :=
    ⟨isCancelled_step h'.1 t, (ticks_step h'.1 t).trans h'.2⟩
  exact (play_keeps hkeeps ⟨h, rfl⟩ turns).2

/-- A worker that is cancelled and has done nothing goes on to do nothing but to report. -/
structure IsQuiet (d : Shift) : Prop where
  isCancelled : d.isCancelled
  isSilent : d.rest.IsSilent
  trace_eq : d.trace = []

theorem IsQuiet.step (h : d.IsQuiet) (t : Turn) : (d.step t).IsQuiet := by
  obtain ⟨hcancelled, hsilent, htrace⟩ := h
  refine d.step_elim t fun d' hmoves => ?_
  cases hmoves with
  | stay => exact ⟨hcancelled, hsilent, htrace⟩
  | pass _ => exact ⟨hcancelled, hsilent, htrace⟩
  | cancel => exact ⟨rfl, hsilent, htrace⟩
  | begin _ => exact ⟨hcancelled, hsilent, htrace⟩
  | @answer _ q next _ hrest reply =>
    rw [hrest] at hsilent
    have hwork : work [⟨q, reply q⟩] = [] := by simp [work, hsilent.1]
    exact ⟨hcancelled, hsilent.2 _, by rw [hwork, htrace]; rfl⟩
  | tick hready _ _ =>
    rw [(isReady_iff.1 hready).2.2] at hcancelled
    cases hcancelled
  | stop _ _ _ => exact ⟨hcancelled, isSilent_note _ _, htrace⟩

theorem IsQuiet.play (h : d.IsQuiet) (turns : List Turn) : (d.play turns).IsQuiet :=
  play_keeps (fun _ t h => h.step t) h turns

/-! ### Completion -/

/-- A worker that has taken its first step goes on with every answer. -/
theorem driven : Program.Driven step rest Turn.answers fun d => d.ticker ≠ none where
  keeps d t hticker := by
    refine d.step_elim t fun d' hmoves => ?_
    cases hmoves with
    | begin _ => nofun
    | tick _ _ _ => nofun
    | _ => exact hticker
  waits d t _ ht hq := by
    have hdone (goesOn : Bool) : d.rest ≠ .done goesOn := fun h => hq (by rw [h]; rfl)
    refine d.step_elim t fun d' hmoves => ?_
    cases hmoves with
    | answer _ _ _ => cases ht
    | tick hready _ _ => exact absurd (isReady_iff.1 hready).1 (hdone true)
    | stop hrest _ _ => exact absurd hrest (hdone _)
    | _ => rfl
  goesOn d t q next hticker ht hrest := by
    obtain ⟨ticker, hticker⟩ := Option.ne_none_iff_exists'.1 hticker
    cases t with
    | answer reply => exact ⟨reply q, by rw [step, hticker, hrest]⟩
    | _ => cases ht

/-- If answers come again and again, every tick that has begun is complete at some time. -/
theorem Sound.exists_carried (h : Sound w d) {schedule : Nat → Turn}
    (hfair : ∀ n, ∃ k ≥ n, (schedule k).answers) :
    ∃ n, w.Carried (d.after schedule n).trace ∧ d.trace <+: (d.after schedule n).trace := by
  by_cases hticker : d.ticker = none
  · -- Before the first step no answer is heard, but there is nothing to complete either.
    refine ⟨0, ?_, List.prefix_rfl⟩
    change w.Carried d.trace
    rw [(h.fresh hticker).2]
    exact w.carried_nil
  · obtain ⟨n, hn⟩ := driven.exists_question?_eq_none hticker hfair
    exact ⟨n, (h.play _).attends.carried (.inl hn), d.trace_prefix_play _⟩

end Shift

end Courier.Outbox
