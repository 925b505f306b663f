import Courier.Proofs.Outbox.Task
import Mathlib.Data.List.Infix
import Mathlib.Data.List.Perm.Subperm

/-!
# The pace of a worker

However long its ticks take, a worker keeps to the grid of its period. A tick is due on a point of
the grid that has not been used before, and begins when the one before it is complete and its own
time has come. So a worker never makes up for the ticks that it has missed by more of them later.

How fine the clock is makes no difference. It may count several units in a millisecond, in which
case the worker may also wait for other times than whole milliseconds.

* `Ticker.tickWithin`: a ticker by a clock of any kind.
* `Shift.stepBy`, `Shift.playBy`: a worker by a clock of any kind.
* `Shift.Paced`: how the ticks of a worker follow each other.
* `Shift.Underway.stepBy`: every turn keeps the pace.
* `Shift.Paced.countP_le`: how many ticks have begun by a given time, at most.
* `Shift.spawn_paced`: the ticks of a worker in the background.
-/

namespace Courier

namespace Ticker

/-- The ticker after a tick at the given time, if a tick counts as late only when it comes later
    than the given tolerance allows. -/
def tickWithin (tolerance : Nat) (t : Ticker) (now : Nat) : Ticker :=
  { t with
    due := if t.due + tolerance < now then now + t.period - (now - t.due) % t.period
      else t.due + t.period }

theorem tickWithin_tolerance (t : Ticker) (now : Nat) : t.tickWithin tolerance now = t.tick now :=
  rfl

/-- The next tick is due some periods after this one. -/
theorem exists_tickWithin {t : Ticker} {now : Nat} (hdue : t.due ≤ now) (tolerance : Nat) :
    ∃ k, t.tickWithin tolerance now = ⟨t.period, t.due + (k + 1) * t.period⟩ := by
  rw [tickWithin]
  split
  next =>
    have hsplit := Nat.div_add_mod (now - t.due) t.period
    have hmul : ((now - t.due) / t.period + 1) * t.period =
        t.period * ((now - t.due) / t.period) + t.period := by
      rw [Nat.add_mul, Nat.one_mul, Nat.mul_comm]
    refine ⟨(now - t.due) / t.period, ?_⟩
    rw [mk.injEq, hmul]
    omega
  next => exact ⟨0, by rw [Nat.zero_add, Nat.one_mul]⟩

end Ticker

namespace Outbox.Shift

open Simulation

/-! ### Clocks -/

section Clock

variable (unit interval : Nat) {d : Shift} {w : Worker}

/-- The ticker of a worker after a turn, by a clock with so many units in a millisecond and with so
    many of them between two polls. -/
def tickerBy (d : Shift) : Turn → Option Ticker
  | .begin => d.ticker.or (some (.start (max interval unit) d.now))
  | .tick => d.ticker.map fun ticker =>
      if d.isReady && ticker.isDue d.now then ticker.tickWithin (Ticker.tolerance * unit) d.now
      else ticker
  | _ => d.ticker

/-- A worker after a turn by such a clock, on which only its ticker depends. -/
def stepBy (d : Shift) (t : Turn) : Shift :=
  { d.step t with ticker := d.tickerBy unit interval t }

/-- A worker after a sequence of turns by such a clock. -/
def playBy (d : Shift) (turns : List Turn) : Shift := turns.foldl (stepBy unit interval) d

/-- What every turn keeps holds after all of them. -/
theorem playBy_keeps {P : Shift → Prop} (h : ∀ d t, P d → P (d.stepBy unit interval t)) (hd : P d)
    (turns : List Turn) : P (d.playBy unit interval turns) :=
  List.foldlRecOn turns _ hd fun d hd t _ => h d t hd

theorem ticker_step (h : d.worker = w) (t : Turn) :
    (d.step t).ticker = d.tickerBy 1 w.pollInterval t := by
  subst h
  cases t with
  | begin =>
    rw [step, tickerBy]
    cases hticker : d.ticker with
    | none => rfl
    | some ticker => exact hticker
  | tick =>
    rw [step, tickerBy]
    cases hticker : d.ticker with
    | none => exact hticker
    | some ticker =>
      rw [Option.map_some, Nat.mul_one, Ticker.tickWithin_tolerance]
      dsimp only
      split
      · rfl
      · exact hticker
  | _ => exact d.step_elim _ fun d' hmoves => by cases hmoves <;> rfl

/-- By a clock of milliseconds, a worker does what it does. -/
theorem stepBy_one (h : d.worker = w) (t : Turn) : d.stepBy 1 w.pollInterval t = d.step t := by
  rw [stepBy, ← ticker_step h]

theorem worker_step (d : Shift) (t : Turn) : (d.step t).worker = d.worker :=
  d.step_elim t fun d' hmoves => by cases hmoves <;> rfl

theorem playBy_one (h : d.worker = w) (turns : List Turn) :
    d.playBy 1 w.pollInterval turns = d.play turns := by
  induction turns generalizing d with
  | nil => rfl
  | cons t turns ih =>
    change (d.stepBy 1 w.pollInterval t).playBy 1 w.pollInterval turns = (d.step t).play turns
    rw [stepBy_one h]
    exact ih ((d.worker_step t).trans h)

/-- By every clock, the ticker starts in the same turn. -/
theorem tickerBy_eq_none {t : Turn} (h : d.tickerBy unit interval t = none)
    (unit' interval' : Nat) : d.tickerBy unit' interval' t = none := by
  cases t with
  | begin => exact absurd h (by cases hticker : d.ticker <;> simp [tickerBy, hticker])
  | tick => exact Option.map_eq_none_iff.2 (Option.map_eq_none_iff.1 h)
  | _ => exact h

/-- What holds of a worker on its shift holds by every clock. -/
theorem Sound.stepBy (h : Sound w d) (t : Turn) : Sound w (d.stepBy unit interval t) := by
  have hstep := h.step t
  refine ⟨hstep.worker_eq, hstep.attends, fun hnone => hstep.fresh ?_⟩
  rw [ticker_step h.worker_eq]
  exact tickerBy_eq_none unit interval hnone _ _

/-- A turn adds some calls at most to what a worker has done, unless it begins a tick. -/
theorem exists_trace_step (d : Shift) (t : Turn) (ht : t ≠ .tick) :
    ∃ calls : Calls, (d.step t).trace = d.trace ++ calls.map .called := by
  refine d.step_elim t fun d' hmoves => ?_
  cases hmoves with
  | answer _ _ _ => exact ⟨_, rfl⟩
  | tick _ _ _ => exact absurd rfl ht
  | _ => exact ⟨[], (List.append_nil _).symm⟩

theorem trace_begin (d : Shift) : (d.step .begin).trace = d.trace :=
  d.step_elim .begin fun d' hmoves => by cases hmoves <;> rfl

theorem trace_tick {ticker : Ticker} (hticker : d.ticker = some ticker) :
    (d.step .tick).trace = if d.isReady && ticker.isDue d.now then
      d.trace ++ [.began ticker.due d.now] else d.trace := by
  rw [step, hticker]
  dsimp only
  split <;> rfl

theorem tickerBy_tick {ticker : Ticker} (hticker : d.ticker = some ticker) :
    d.tickerBy unit interval .tick = some (if d.isReady && ticker.isDue d.now then
      ticker.tickWithin (Ticker.tolerance * unit) d.now else ticker) := by
  rw [tickerBy, hticker]
  rfl

/-- A turn of a worker whose ticker is running begins a tick, or it makes some calls at most. -/
theorem stepBy_cases {ticker : Ticker} (hticker : d.ticker = some ticker) (t : Turn) :
    (∃ calls : Calls, (d.stepBy unit interval t).trace = d.trace ++ calls.map .called) ∧
        (d.stepBy unit interval t).ticker = some ticker ∨
      d.isReady ∧ ticker.isDue d.now ∧
        (d.stepBy unit interval t).trace = d.trace ++ [.began ticker.due d.now] ∧
        (d.stepBy unit interval t).ticker =
          some (ticker.tickWithin (Ticker.tolerance * unit) d.now) := by
  cases t with
  | begin => exact .inl ⟨d.exists_trace_step .begin nofun, by simp [stepBy, tickerBy, hticker]⟩
  | tick =>
    have htrace := trace_tick hticker
    have hticker' := tickerBy_tick unit interval hticker
    cases h : d.isReady && ticker.isDue d.now with
    | false =>
      rw [h] at htrace hticker'
      exact .inl ⟨⟨[], htrace.trans (List.append_nil _).symm⟩, hticker'⟩
    | true =>
      rw [h] at htrace hticker'
      rw [Bool.and_eq_true] at h
      exact .inr ⟨h.1, h.2, htrace, hticker'⟩
  | _ => exact .inl ⟨d.exists_trace_step _ nofun, hticker⟩

end Clock

/-! ### Pace -/

/-- How the ticks of a worker follow each other, with the given period from the given start on. -/
structure Paced (period start : Nat) (d : Shift) : Prop where
  /-- The first tick is due at the start. -/
  first : ∀ tick ∈ d.ticks.head?, tick.1 = start
  /-- Each tick is due later than the one before it. -/
  increasing : d.ticks.Pairwise fun tick tick' => tick.1 < tick'.1
  /-- Each tick is due some periods after the start. -/
  onGrid : ∀ tick ∈ d.ticks, ∃ k, tick.1 = start + k * period
  /-- No tick begins before it is due. -/
  timely : d.IsTimely
  /-- When a tick begins, all ticks before it are complete. -/
  apart : ∀ before due now, before ++ [.began due now] <+: d.trace → d.worker.Carried before

/-- A worker keeps its pace, and its ticker is set to a point of the grid that has not been used
    yet. -/
structure Underway (w : Worker) (period start : Nat) (d : Shift) : Prop where
  sound : Sound w d
  paced : d.Paced period start
  exists_ticker : ∃ k, d.ticker = some ⟨period, start + k * period⟩ ∧
    (∀ tick ∈ d.ticks, tick.1 < start + k * period) ∧ (d.ticks = [] → k = 0)

section Pace

variable {unit interval period start : Nat} {d d' : Shift} {w : Worker}

theorem ticks_of_calls {calls : Calls} (h : d'.trace = d.trace ++ calls.map .called) :
    d'.ticks = d.ticks := by
  rw [ticks, h, List.filterMap_append, filterMap_began?_map_called, List.append_nil]
  rfl

theorem ticks_of_began {due now : Nat} (h : d'.trace = d.trace ++ [.began due now]) :
    d'.ticks = d.ticks ++ [(due, now)] := by
  rw [ticks, h, List.filterMap_append]
  rfl

/-- Calls begin no tick. -/
theorem prefix_of_prefix_calls {trace before : List Entry} {due now : Nat} {calls : Calls}
    (h : before ++ [.began due now] <+: trace ++ calls.map .called) :
    before ++ [.began due now] <+: trace := by
  induction calls using List.reverseRecOn with
  | nil => rwa [List.map_nil, List.append_nil] at h
  | append_singleton calls call ih =>
    rw [List.map_append, ← List.append_assoc, List.map_singleton, List.prefix_concat_iff] at h
    rcases h with h | h
    · cases (List.append_inj' h rfl).2
    · exact ih h

theorem Paced.calls (h : d.Paced period start) (hworker : d'.worker = d.worker) {calls : Calls}
    (htrace : d'.trace = d.trace ++ calls.map .called) : d'.Paced period start := by
  have hticks := ticks_of_calls htrace
  constructor
  case first => exact hticks ▸ h.first
  case increasing => exact hticks ▸ h.increasing
  case onGrid => exact hticks ▸ h.onGrid
  case timely =>
    rw [IsTimely, hticks]
    exact h.timely
  case apart =>
    intro before due now hprefix
    rw [htrace] at hprefix
    rw [hworker]
    exact h.apart before due now (prefix_of_prefix_calls hprefix)

/-- A tick keeps the pace that begins when those before it are complete and its time has come, which
    is a later point of the grid. -/
theorem Paced.began (h : d.Paced period start) (hworker : d'.worker = d.worker) {k now : Nat}
    (htrace : d'.trace = d.trace ++ [.began (start + k * period) now])
    (hcarried : d.worker.Carried d.trace) (hdue : start + k * period ≤ now)
    (hlater : ∀ tick ∈ d.ticks, tick.1 < start + k * period) (hfirst : d.ticks = [] → k = 0) :
    d'.Paced period start := by
  have hticks := ticks_of_began htrace
  constructor
  case first =>
    rw [hticks]
    cases hnil : d.ticks with
    | nil =>
      rintro tick ⟨⟩
      rw [hfirst hnil, Nat.zero_mul, Nat.add_zero]
    | cons tick ticks =>
      have hhead := h.first
      rwa [hnil] at hhead
  case increasing =>
    rw [hticks, List.pairwise_append]
    refine ⟨h.increasing, List.pairwise_singleton _ _, fun tick htick tick' htick' => ?_⟩
    obtain rfl := List.mem_singleton.1 htick'
    exact hlater tick htick
  case onGrid =>
    rw [hticks, List.forall_mem_append]
    exact ⟨h.onGrid, List.forall_mem_singleton.2 ⟨k, rfl⟩⟩
  case timely =>
    rw [IsTimely, hticks, List.forall_mem_append]
    exact ⟨h.timely, List.forall_mem_singleton.2 hdue⟩
  case apart =>
    intro before due now' hprefix
    rw [htrace, List.prefix_concat_iff] at hprefix
    rw [hworker]
    rcases hprefix with heq | hprefix
    · rwa [(List.append_inj' heq rfl).1]
    · exact h.apart before due now' hprefix

/-- Every turn keeps the pace. -/
theorem Underway.stepBy (h : Underway w period start d) (hperiod : 0 < period) (t : Turn) :
    Underway w period start (d.stepBy unit interval t) := by
  have hsound := h.sound.stepBy unit interval t
  obtain ⟨⟨rfl, hattends, -⟩, hpaced, k, hticker, hlater, hfirst⟩ := h
  have hworker := hsound.worker_eq
  obtain ⟨⟨calls, htrace⟩, hticker'⟩ | ⟨hready, hdue, htrace, hticker'⟩ :=
    stepBy_cases unit interval hticker t
  · have hticks := ticks_of_calls htrace
    exact ⟨hsound, hpaced.calls hworker htrace, k, hticker', hticks ▸ hlater, hticks ▸ hfirst⟩
  · -- Whoever is ready has nothing left to ask, so that the last tick is complete. The ticker is
    -- set to a later point of the grid.
    have hcarried := hattends.carried (.inl (by rw [(isReady_iff.1 hready).1]; rfl))
    have hdue : start + k * period ≤ d.now := of_decide_eq_true hdue
    obtain ⟨more, hmore⟩ := Ticker.exists_tickWithin (t := ⟨period, start + k * period⟩) hdue
      (Ticker.tolerance * unit)
    have hgrid : start + k * period + (more + 1) * period = start + (k + (more + 1)) * period := by
      rw [Nat.add_mul k, Nat.add_assoc]
    have hlt : start + k * period < start + (k + (more + 1)) * period := by
      rw [← hgrid]
      exact Nat.lt_add_of_pos_right (Nat.mul_pos more.succ_pos hperiod)
    rw [hmore, hgrid] at hticker'
    refine ⟨hsound, hpaced.began hworker htrace hcarried hdue hlater hfirst, _, hticker', ?_, ?_⟩
    · rw [ticks_of_began htrace, List.forall_mem_append]
      exact ⟨fun tick htick => (hlater tick htick).trans hlt, List.forall_mem_singleton.2 hlt⟩
    · rw [ticks_of_began htrace]
      exact fun hnil => absurd hnil (List.concat_ne_nil _ _)

/-- A worker that has done nothing keeps every pace. -/
theorem Paced.of_trace_eq_nil (h : d.trace = []) (period start : Nat) : d.Paced period start := by
  have hticks : d.ticks = [] := by
    rw [ticks, h]
    rfl
  constructor
  case first =>
    rw [hticks]
    rintro tick ⟨⟩
  case increasing =>
    rw [hticks]
    exact .nil
  case onGrid =>
    rw [hticks]
    exact List.forall_mem_nil _
  case timely =>
    rw [IsTimely, hticks]
    exact List.forall_mem_nil _
  case apart =>
    intro before due now hprefix
    rw [h, List.prefix_nil] at hprefix
    exact absurd hprefix (List.concat_ne_nil _ _)

/-- With the first step of a worker its pace begins. -/
theorem Underway.begin (h : Sound w d) (hticker : d.ticker = none) :
    Underway w (max interval unit) d.now (d.stepBy unit interval .begin) := by
  have htrace : (d.stepBy unit interval .begin).trace = [] := by
    rw [← (h.fresh hticker).2]
    exact d.trace_begin
  have hticks : (d.stepBy unit interval .begin).ticks = [] := by
    rw [ticks, htrace]
    rfl
  refine ⟨h.stepBy unit interval .begin, .of_trace_eq_nil htrace _ _, 0, ?_, ?_, fun _ => rfl⟩
  · simp only [Shift.stepBy, tickerBy, hticker, Option.none_or, Ticker.start, Nat.zero_mul,
      Nat.add_zero]
  · rw [hticks]
    exact List.forall_mem_nil _

/-- At most so many ticks have begun by a given time. -/
theorem Paced.countP_le (h : d.Paced period start) (hperiod : 0 < period) (time : Nat) :
    d.ticks.countP (fun tick => tick.2 ≤ start + time) ≤ time / period + 1 := by
  -- The ticks that have begun are due at different points of the grid, and there are no more points
  -- than that.
  let begun := d.ticks.filter fun tick => tick.2 ≤ start + time
  let points := (List.range (time / period + 1)).map fun k => start + k * period
  have hnodup : (begun.map (·.1)).Nodup :=
    List.pairwise_map.2 ((h.increasing.filter _).imp fun hlt => Nat.ne_of_lt hlt)
  have hsubset : begun.map (·.1) ⊆ points := by
    intro due hdue
    obtain ⟨tick, htick, rfl⟩ := List.mem_map.1 hdue
    obtain ⟨hmem, hbegun⟩ := List.mem_filter.1 htick
    obtain ⟨k, hk⟩ := h.onGrid tick hmem
    have hle : start + k * period ≤ start + time :=
      hk ▸ (h.timely tick hmem).trans (of_decide_eq_true hbegun)
    have hk' : k ≤ time / period :=
      (Nat.le_div_iff_mul_le hperiod).2 (Nat.add_le_add_iff_left.1 hle)
    exact List.mem_map.2 ⟨k, List.mem_range.2 (Nat.lt_succ_of_le hk'), hk.symm⟩
  calc d.ticks.countP (fun tick => tick.2 ≤ start + time)
      = (begun.map (·.1)).length := by rw [List.countP_eq_length_filter, List.length_map]
    _ ≤ points.length := (List.subperm_of_subset hnodup hsubset).length_le
    _ = time / period + 1 := by rw [List.length_map, List.length_range]

end Pace

/-- The ticks of a worker in the background, however long its calls take. Its task stands as a
    worker on its shift, by a clock of milliseconds. By every clock, be it as fine as it may, the
    first tick is due when the worker takes its first step. Each tick is due some whole periods
    after that and later than the one before it, and does not begin before it is due, nor before all
    ticks before it are complete. So no more ticks have begun by a given time than there are points
    of the grid up to then. -/
theorem spawn_paced (w : Worker) :
    (∀ s₀ t s isCancelled, Task.Lives (.ofWorker w) s₀ t s isCancelled →
      t.isTornDown ∨ ∃ d, (start w s₀.now).Reaches d ∧ d.Shows t s isCancelled) ∧
    (∀ now turns, (start w now).playBy 1 w.pollInterval turns = (start w now).play turns) ∧
    ∀ unit interval now waiting, 0 < unit →
      let d₀ := (start w now).playBy unit interval waiting
      let period := max interval unit
      d₀.ticker = none → ∀ turns,
        let d := (d₀.stepBy unit interval .begin).playBy unit interval turns
        d₀.ticks = [] ∧ (d₀.stepBy unit interval .begin).ticker = some (.start period d₀.now) ∧
          d.Paced period d₀.now ∧
          ∀ time, d.ticks.countP (fun tick => tick.2 ≤ d₀.now + time) ≤ time / period + 1 := by
  refine ⟨fun _ _ _ _ hlives => exists_shows hlives,
    fun now turns => playBy_one (d := start w now) rfl turns, ?_⟩
  intro unit interval now waiting hunit d₀ period hticker turns d
  have hperiod : 0 < period := hunit.trans_le (le_max_right _ _)
  have hsound : Sound w d₀ :=
    playBy_keeps unit interval (fun _ t h => h.stepBy unit interval t) (Sound.start w now) waiting
  have hunderway : Underway w period d₀.now d :=
    playBy_keeps unit interval (fun _ t h => h.stepBy hperiod t) (.begin hsound hticker) turns
  refine ⟨?_, ?_, hunderway.paced, hunderway.paced.countP_le hperiod⟩
  · rw [ticks, (hsound.fresh hticker).2]
    rfl
  · simp only [stepBy, tickerBy, hticker, Option.none_or]
    rfl

/-- There is nothing to publish, and nothing else matters. -/
noncomputable def lull : (q : Request) → q.Answer
  | .outbox (.fetchUnpublished _) => (.ok [] : Except DeliveryError (List Event))
  | q => Classical.arbitrary q.Answer

/-- A worker looks for events, and again after a long time, and from then on whenever it can. -/
noncomputable def delay : List Turn :=
  [.answer lull, .tick, .answer lull, .pass 222, .tick, .answer lull, .tick, .pass 231, .tick,
    .pass 232, .tick]

/-- A worker that polls every one and a half milliseconds, by a clock of tenths of a millisecond.
    Its second tick comes twenty milliseconds late, and the third one on the next point of the
    grid. -/
theorem spawn_paced_delay :
    let d := ((start default 7).stepBy 10 15 .begin).playBy 10 15 delay
    d.ticks = [(7, 7), (22, 222), (232, 232)] ∧ d.Paced 15 7 ∧
      d.ticks.countP (fun tick => tick.2 ≤ 7 + 215) ≤ 15 := by
  obtain ⟨-, -, hclock⟩ := spawn_paced default
  obtain ⟨-, -, hpaced, hcount⟩ := hclock 10 15 7 [] (by decide) rfl delay
  exact ⟨rfl, hpaced, hcount 215⟩

end Outbox.Shift

end Courier
