import Courier.Proofs.Outbox.Shift
import Courier.Proofs.Simulation.Life

/-!
# The task of a worker

Whatever the turns of a worker's task do, a worker on its shift can do in a sequence of turns of its
own. So what holds of every worker on its shift holds of every task, until the task ends or is torn
down.

* `Shift.Reaches`: what a worker on its shift can come to.
* `Shift.Shows`: a task stands as a worker on its shift does.
* `Shift.Shows.turn`: a turn of the task.
* `Shift.exists_shows`: a task is a worker on its shift all its life.
* `Shift.spawn_ticks`: what its ticks are, whenever it is cancelled.
-/

namespace Courier.Outbox

open Simulation

namespace Shift

/-- What a worker on its shift can come to. -/
def Reaches (d d' : Shift) : Prop := ∃ turns, d.play turns = d'

variable {w : Worker} {d d' d'' : Shift} {p : Action Bool} {s : Surroundings}

theorem Reaches.refl (d : Shift) : d.Reaches d := ⟨[], rfl⟩

theorem Reaches.trans (h : d.Reaches d') (h' : d'.Reaches d'') : d.Reaches d'' := by
  obtain ⟨turns, rfl⟩ := h
  obtain ⟨turns', rfl⟩ := h'
  exact ⟨turns ++ turns', play_append d turns turns'⟩

theorem reaches_step (d : Shift) (t : Turn) : d.Reaches (d.step t) := ⟨[t], rfl⟩

theorem reaches_begin (h : d.ticker = none) :
    d.Reaches { d with ticker := some (.start d.worker.period d.now) } := by
  have hstep := d.reaches_step .begin
  rw [step, h] at hstep
  exact hstep

theorem reaches_answer {q : Request} {next : q.Answer → Action Bool} (hticker : d.ticker ≠ none)
    (h : d.rest = .ask q next) (a : q.Answer) :
    ∃ trace, d.Reaches { d with rest := next a, trace := trace } := by
  classical
  obtain ⟨ticker, hticker⟩ := Option.ne_none_iff_exists'.1 hticker
  let reply := Function.update (fun q : Request => Classical.arbitrary q.Answer) q a
  have hstep := d.reaches_step (.answer reply)
  rw [step, hticker, h] at hstep
  simp only [reply, Function.update_self] at hstep
  exact ⟨_, hticker ▸ hstep⟩

theorem reaches_tick {ticker : Ticker} (hready : d.isReady) (hticker : d.ticker = some ticker)
    (hdue : ticker.isDue d.now) :
    ∃ trace, d.Reaches { d with
      ticker := some (ticker.tick d.now)
      rest := d.worker.routine.round ()
      trace := trace } := by
  have hstep := d.reaches_step .tick
  rw [step, hticker] at hstep
  simp only [hready, hdue, Bool.and_self, if_true] at hstep
  exact ⟨_, hstep⟩

theorem reaches_stop {goesOn : Bool} (hrest : d.rest = .done goesOn)
    (hclosing : d.isClosing = false) (hend : (!goesOn || d.isCancelled) = true) :
    d.Reaches { d with rest := do d.worker.routine.closing; return false, isClosing := true } := by
  have hstep := d.reaches_step .stop
  rw [step, hrest] at hstep
  simp only [hclosing, hend] at hstep
  exact hstep

/-- A worker that runs up to the first delay has its questions answered one after the other, while
    the clock stands still. -/
theorem reaches_runToDelay (hticker : d.ticker ≠ none) (hp : d.rest = p) (s : Surroundings) :
    (runToDelay p s).2.now = s.now ∧ ∃ rest trace, Leaves (runToDelay p s).1 rest ∧
      d.Reaches { d with rest := rest, trace := trace } := by
  induction p generalizing d s with
  | done goesOn =>
    refine ⟨rfl, .done goesOn, d.trace, rfl, ?_⟩
    rw [← hp]
    exact .refl d
  | ask q next ih =>
    have hbegin := s.now_begin q
    obtain ⟨s', hrun, hunmoved⟩ | ⟨a, s', hrun, hunmoved⟩ | ⟨delay, resume, hrun, hresume⟩ :=
      runToDelay_ask q next s
    · rw [hrun]
      exact ⟨hunmoved.now_eq.trans hbegin, d.rest, d.trace, trivial, .refl d⟩
    · rw [hrun]
      obtain ⟨trace, hanswer⟩ := reaches_answer hticker hp a
      obtain ⟨hnow, rest, trace, hleaves, hreaches⟩ :=
        ih a (d := { d with rest := next a, trace := trace }) hticker rfl s'
      exact ⟨hnow.trans (hunmoved.now_eq.trans hbegin), rest, trace, hleaves,
        hanswer.trans hreaches⟩
    · rw [hrun]
      exact ⟨hbegin, d.rest, d.trace, hp ▸ hresume, .refl d⟩

/-! ### A turn -/

/-- The ticker of its task. Before the first step there is one that is not in use yet. -/
def source (d : Shift) : Ticker := d.ticker.getD ⟨d.worker.period, 0⟩

/-- What a task is about, against a worker on its shift. -/
def ActsAs (d : Shift) : Activity → Prop
  | .fresh =>
    d.ticker = none ∧ d.isClosing = false ∧ d.rest = do d.worker.routine.opening; return true
  | .waiting => d.ticker ≠ none ∧ d.isClosing = false ∧ d.rest = .done true
  | .paused isClosing resume =>
    d.ticker ≠ none ∧ d.isClosing = isClosing ∧ Resumes resume d.rest
  | .over isTornDown => isTornDown = false ∧ d.isClosing = true ∧ d.rest.question? = none

/-- A task stands as a worker on its shift does. -/
structure Shows (d : Shift) (t : Task) (s : Surroundings) (isCancelled : Bool) : Prop where
  now_eq : d.now = s.now
  isCancelled_eq : d.isCancelled = isCancelled
  exists_eq : ∃ activity alarm yields,
    t = ⟨d.worker.routine, d.source, activity, alarm, yields⟩ ∧ d.ActsAs activity

/-- What a turn of a task comes to, the worker on its shift can come to as well, unless the task is
    torn down. -/
def Follows (d : Shift) (turn : Task.Turn) : Prop :=
  turn.1.isTornDown ∨ ∃ d', d.Reaches d' ∧ d'.Shows turn.1 turn.2.2 d.isCancelled

theorem Follows.of_reaches {turn : Task.Turn} (h : d.Reaches d')
    (hcancelled : d'.isCancelled = d.isCancelled) (h' : d'.Follows turn) : d.Follows turn := by
  obtain htorn | ⟨d'', hreaches, hshows⟩ := h'
  · exact .inl htorn
  · exact .inr ⟨d'', h.trans hreaches, hcancelled ▸ hshows⟩

section Turn

variable {activity : Activity} {alarm : Option Nat} {yields : Bool}

theorem follows_close (hticker : d.ticker ≠ none) (hrest : d.rest = p)
    (hclosing : d.isClosing = true) (hnow : d.now = s.now) (rank : Nat) :
    d.Follows (Task.close ⟨d.worker.routine, d.source, activity, alarm, yields⟩ p rank s) := by
  obtain ⟨hnow', rest, trace, hleaves, hreaches⟩ := reaches_runToDelay hticker hrest s
  rw [Task.close]
  cases hrun : runToDelay p s with
  | mk progress s' =>
    rw [hrun] at hleaves hnow'
    cases progress with
    | done goesOn =>
      obtain rfl : rest = .done goesOn := hleaves
      exact .inr ⟨_, hreaches, hnow.trans hnow'.symm, rfl, .over false, _, _, rfl, rfl, hclosing,
        rfl⟩
    | broken => exact .inl rfl
    | paused delay resume =>
      exact .inr ⟨_, hreaches, hnow.trans hnow'.symm, rfl, .paused true resume, _, _, rfl, hticker,
        hclosing, hleaves⟩

/-- A tick of a task, and the ticks that follow it in the same turn. -/
theorem follows_carryOn (rounds : Nat) (hticker : d.ticker ≠ none) (hrest : d.rest = p)
    (hclosing : d.isClosing = false) (hnow : d.now = s.now) (rank : Nat) :
    d.Follows (Task.carryOn d.isCancelled rounds
      ⟨d.worker.routine, d.source, activity, alarm, yields⟩ p rank s) := by
  -- By induction on how many ticks may still follow. The clock stands still all the time, so that
  -- the task and the worker on its shift agree on whether the next one is due.
  induction rounds using Nat.strong_induction_on generalizing d p s rank with
  | h rounds ih =>
    obtain ⟨hnow', rest, trace, hleaves, hreaches⟩ := reaches_runToDelay hticker hrest s
    unfold Task.carryOn
    cases hrun : runToDelay p s with
    | mk progress s' =>
      rw [hrun] at hleaves hnow'
      replace hnow := hnow.trans hnow'.symm
      cases progress with
      | broken => exact .inl rfl
      | paused delay resume =>
        exact .inr ⟨_, hreaches, hnow, rfl, .paused false resume, _, _, rfl, hticker, hclosing,
          hleaves⟩
      | done goesOn =>
        obtain rfl : rest = .done goesOn := hleaves
        refine .of_reaches hreaches rfl ?_
        dsimp only
        split
        next hend =>
          refine .of_reaches (reaches_stop rfl hclosing hend) rfl ?_
          exact follows_close (d := ⟨d.worker, d.now, d.ticker,
            do d.worker.routine.closing; return false, true, d.isCancelled, trace⟩)
            hticker rfl rfl hnow rank
        next hend =>
          have hready : goesOn = true ∧ d.isCancelled = false := by simpa using hend
          obtain ⟨rfl, hcancelled⟩ := hready
          have hready : Shift.isReady { d with rest := .done true, trace := trace } :=
            isReady_iff.2 ⟨rfl, hclosing, hcancelled⟩
          generalize hpoll : Source.poll d.worker.routine.wait d.source rank s' = polled
          change Source.poll .tick d.source rank s' = polled at hpoll
          rw [Source.poll] at hpoll
          split at hpoll
          next hdue =>
            subst hpoll
            obtain ⟨ticker, hsome⟩ := Option.ne_none_iff_exists'.1 hticker
            have hsource : d.source = ticker := by rw [source, hsome]; rfl
            rw [hsource, ← hnow] at hdue
            cases rounds with
            | zero =>
              -- The ticker is left as it was, to be asked in another turn.
              exact .inr ⟨_, .refl _, hnow, rfl, .waiting, _, _, rfl, hticker, hclosing, rfl⟩
            | succ rounds =>
              obtain ⟨trace, hreaches⟩ := reaches_tick hready hsome hdue
              refine .of_reaches hreaches rfl ?_
              rw [hsource, ← hnow]
              exact ih rounds (Nat.lt_succ_self _) (d := ⟨d.worker, d.now, some (ticker.tick d.now),
                d.worker.routine.round (), d.isClosing, d.isCancelled, trace⟩)
                nofun rfl hclosing hnow rank
          next =>
            subst hpoll
            exact .inr ⟨_, .refl _, hnow, rfl, .waiting, _, _, rfl, hticker, hclosing, rfl⟩

/-- A turn of a task does what the worker on its shift can do, or the task is torn down. -/
theorem Shows.turn {t : Task} {isCancelled : Bool} (h : d.Shows t s isCancelled) (rank : Nat) :
    (t.turn isCancelled rank s).1.isTornDown ∨
      ∃ d', d.Reaches d' ∧
        d'.Shows (t.turn isCancelled rank s).1 (t.turn isCancelled rank s).2.2 isCancelled := by
  obtain ⟨hnow, rfl, activity, alarm, yields, rfl, hacts⟩ := h
  change d.Follows (Task.turn _ d.isCancelled rank s)
  cases activity with
  | fresh =>
    obtain ⟨hticker, hclosing, hrest⟩ := hacts
    -- The first turn of a task starts its ticker, which has been idle until then.
    refine .of_reaches (reaches_begin hticker) rfl ?_
    have hsource : Source.start .tick d.source s.now = Ticker.start d.worker.period d.now := by
      rw [Source.start, source, hticker, hnow]
      rfl
    rw [Task.turn]
    change Follows _ (Task.proceed ⟨d.worker.routine, Source.start .tick d.source s.now, .fresh,
      alarm, yields⟩ d.isCancelled (do d.worker.routine.opening; return true) rank s)
    rw [hsource]
    exact follows_carryOn (d := { d with ticker := some (.start d.worker.period d.now) }) _
      nofun hrest hclosing hnow rank
  | waiting =>
    obtain ⟨hticker, hclosing, hrest⟩ := hacts
    exact follows_carryOn _ hticker hrest hclosing hnow rank
  | paused isClosing resume =>
    obtain ⟨hticker, hclosing, q, next, hrest, hresume⟩ := hacts
    obtain ⟨⟨-, hnow'⟩, hanswer⟩ := hresume s
    rw [Task.turn]
    dsimp only
    cases hr : resume s with
    | mk action? s' =>
      rw [hr] at hnow' hanswer
      cases action? with
      | none => exact .inl rfl
      | some action =>
        obtain ⟨a, rfl⟩ := hanswer action rfl
        obtain ⟨trace, hreaches⟩ := reaches_answer hticker hrest a
        refine .of_reaches hreaches rfl ?_
        cases isClosing with
        | true =>
          exact follows_close (d := { d with rest := next a, trace := trace }) hticker rfl hclosing
            (hnow.trans hnow'.symm) rank
        | false =>
          exact follows_carryOn (d := { d with rest := next a, trace := trace }) _ hticker rfl
            hclosing (hnow.trans hnow'.symm) rank
  | _ => exact .inr ⟨d, .refl d, hnow, rfl, _, _, _, rfl, hacts⟩

end Turn

/-- Whatever happens to the task of a worker, it stands as a worker on its shift can, or it has been
    torn down. -/
theorem exists_shows {s₀ : Surroundings} {t : Task} {isCancelled : Bool}
    (h : Task.Lives (.ofWorker w) s₀ t s isCancelled) :
    t.isTornDown ∨ ∃ d, (start w s₀.now).Reaches d ∧ d.Shows t s isCancelled := by
  induction h with
  | start => exact .inr ⟨_, .refl _, rfl, rfl, .fresh, none, false, rfl, rfl, rfl, rfl⟩
  | @turn t s isCancelled _ rank ih =>
    obtain htorn | ⟨d, hreaches, hshows⟩ := ih
    · exact .inl (Task.isTornDown_turn htorn isCancelled rank _)
    · refine (hshows.turn rank).imp_right ?_
      rintro ⟨d', hreaches', hshows'⟩
      exact ⟨d', hreaches.trans hreaches', hshows'⟩
  | wake _ i ih =>
    refine ih.imp_right ?_
    rintro ⟨d, hreaches, hnow, hcancelled, activity, alarm, yields, rfl, hacts⟩
    exact ⟨d, hreaches, hnow, hcancelled, activity, alarm, yields, rfl, hacts⟩
  | cancel _ ih =>
    refine ih.imp_right ?_
    rintro ⟨d, hreaches, hnow, -, activity, alarm, yields, rfl, hacts⟩
    refine ⟨_, hreaches.trans (reaches_step d .cancel), hnow, rfl, activity, alarm, yields, rfl, ?_⟩
    cases activity <;> exact hacts
  | meanwhile _ s' _ ih =>
    refine ih.imp_right ?_
    rintro ⟨d, hreaches, -, hcancelled, activity, alarm, yields, rfl, hacts⟩
    refine ⟨_, hreaches.trans (reaches_step d (.pass s'.now)), rfl, hcancelled, activity, alarm,
      yields, rfl, ?_⟩
    cases activity <;> exact hacts

/-! ### Ticks and cancellation -/

/-- The ticks of a worker in the background, however long its calls take and whenever it is
    cancelled: its task stands as a worker on its shift. There, only the last tick may be
    incomplete, while a question is pending, and it is complete at some time if answers come again
    and again. When nothing but the closing is left, every tick is complete. After cancellation no
    tick begins and nothing is fetched, be the ticker due or not. A worker that is cancelled before
    its first step asks nothing at all, apart from reports to the log. -/
theorem spawn_ticks (w : Worker) :
    (∀ s₀ t s isCancelled, Task.Lives (.ofWorker w) s₀ t s isCancelled →
      t.isTornDown ∨ ∃ d, (start w s₀.now).Reaches d ∧ d.Shows t s isCancelled) ∧
    ∀ now turns, let d := (start w now).play turns
      (∃ done rest, d.trace = done ++ rest ∧ w.Carried done ∧
        (rest = [] ∨ d.rest.question? ≠ none ∧ ∃ t : Tick, rest = t.entries ∧
          ∃ more, w.IsTick (t.calls ++ more))) ∧
      (∀ schedule : Nat → Turn, (∀ n, ∃ k ≥ n, (schedule k).answers) →
        ∃ n, w.Carried (d.after schedule n).trace ∧ d.trace <+: (d.after schedule n).trace) ∧
      (d.isClosing → w.Carried d.trace) ∧
      (d.isCancelled → ∀ more,
        (d.play more).ticks = d.ticks ∧ (d.play more).fetches = d.fetches) ∧
      (d.ticker = none → d.isCancelled → ∀ more,
        (d.play more).trace = [] ∧ (d.play more).rest.IsSilent) := by
  refine ⟨fun _ _ _ _ hlives => exists_shows hlives, fun now turns => ?_⟩
  intro d
  have hsound : Sound w d := (Sound.start w now).play turns
  refine ⟨hsound.attends.exists_carried, fun schedule hfair => hsound.exists_carried hfair,
    fun hclosing => hsound.attends.carried (.inr hclosing), fun hcancelled more => ?_,
    fun hticker hcancelled more => ?_⟩
  · -- Every tick has its fetch, so that without new ticks there are no new fetches.
    have hticks := ticks_play hcancelled more
    have hfetches := (hsound.play more).fetches_eq
    rw [hticks, ← hsound.fetches_eq] at hfetches
    exact ⟨hticks, hfetches⟩
  · obtain ⟨hsilent, htrace⟩ := hsound.fresh hticker
    have hquiet := IsQuiet.play ⟨hcancelled, hsilent, htrace⟩ more
    exact ⟨hquiet.trace_eq, hquiet.isSilent⟩

/-- A worker is cancelled in the middle of its first tick, and goes through this one only. Another
    one is cancelled before it has begun. -/
theorem spawn_ticks_interruption : ∃ turns schedule,
    let d := (start default 0).play turns
    d.isCancelled ∧ d.rest.question? ≠ none ∧
      (∀ more, (d.play more).ticks = [(0, 0)] ∧ (d.play more).fetches = 1) ∧
      (∃ n, Worker.Carried default (d.after schedule n).trace ∧
        d.trace <+: (d.after schedule n).trace) ∧
      ∀ more, ((start default 0).play (.cancel :: more)).trace = [] := by
  obtain ⟨reply⟩ : Nonempty ((q : Request) → q.Answer) := inferInstance
  let turns : List Turn := [.begin, .answer reply, .tick, .cancel]
  obtain ⟨-, hplay⟩ := spawn_ticks default
  obtain ⟨-, hfair, -, hcancelled, -⟩ := hplay 0 turns
  obtain ⟨-, -, -, -, hfresh⟩ := hplay 0 [.cancel]
  exact ⟨turns, fun _ => .answer reply, rfl, nofun, hcancelled rfl,
    hfair _ fun n => ⟨n, le_rfl, rfl⟩, fun more => (hfresh rfl rfl more).1⟩

end Shift

end Courier.Outbox
