import Courier.Proofs.Pipeline.Invariant

/-!
# Everything comes to rest

Whatever has happened, turns can follow after which everything waits. The worker ends its tick and
begins as many ticks more as are wanted, and the consumer reads its subscriptions to their ends:
with every delivery there is less left to read.

* `Pipeline.backlog`: how much there is left to read.
* `Pipeline.Sound.settles`: turns after which everything waits.
-/

namespace Courier

open Notification Outbox Simulation

namespace Pipeline

variable {w : Worker} {service : Service} {batch : List Event} {p p' p'' : Pipeline}

/-! ### The worker -/

/-- The worker can end its tick. -/
theorem Sound.rests (h : p.Sound service w batch) (hm : 0 < w.maxRetries) :
    ∃ turns, (p.play turns).work.question? = none ∧ (p.play turns).unstored = p.unstored ∧
      (p.play turns).ticks = p.ticks := by
  generalize hw : p.work = work
  induction work generalizing p with
  | done report => exact ⟨[], by rw [Pipeline.play, List.foldl_nil, hw]; rfl, rfl, rfl⟩
  | ask q next ih =>
    obtain ⟨k, hup⟩ := h.upstream
    obtain ⟨a, s, es, hstep, -⟩ := h.step_work hm hw hup
    obtain ⟨turns, hrest, hunstored, hticks⟩ := ih a (h.work hm) (by rw [hstep])
    have hsame : (p.step .work).unstored = p.unstored ∧ (p.step .work).ticks = p.ticks := by
      rw [hstep]
      exact ⟨rfl, rfl⟩
    exact ⟨.work :: turns, hrest, hunstored.trans hsame.1, hticks.trans hsame.2⟩

/-- The worker can begin and end so many ticks. -/
theorem Sound.works (h : p.Sound service w batch) (hm : 0 < w.maxRetries)
    (hstored : p.unstored = none) (hrest : p.work.question? = none) (n : Nat) :
    ∃ turns, (p.play turns).work.question? = none ∧ (p.play turns).unstored = none ∧
      (p.play turns).ticks = p.ticks + n := by
  induction n generalizing p with
  | zero => exact ⟨[], hrest, hstored, rfl⟩
  | succ n ih =>
    have htick : (p.step .tick).unstored = none ∧ (p.step .tick).ticks = p.ticks + 1 := by
      rw [Pipeline.step]
      cases hw : p.work with
      | ask q next =>
        rw [hw] at hrest
        cases hrest
      | done report => simp [hstored]
    obtain ⟨turns, hrest₁, hstored₁, hticks₁⟩ := h.tick.rests hm
    obtain ⟨turns', hrest₂, hstored₂, hticks₂⟩ :=
      ih (h.tick.play hm turns) (hstored₁.trans htick.1) hrest₁
    refine ⟨.tick :: turns ++ turns', ?_⟩
    rw [play_append]
    refine ⟨hrest₂, hstored₂, hticks₂.trans ?_⟩
    rw [hticks₁, htick.2, Nat.add_assoc, Nat.add_comm 1]

/-! ### The consumer -/

/-- The consumer has taken its turns, and the worker none. -/
structure Spares (p p' : Pipeline) : Prop where
  unstored : p'.unstored = p.unstored
  work : p'.work = p.work
  ticks : p'.ticks = p.ticks
  log : p'.surroundings.bus.log = p.surroundings.bus.log

theorem Spares.refl (p : Pipeline) : p.Spares p := ⟨rfl, rfl, rfl, rfl⟩

theorem Spares.trans (h : p.Spares p') (h' : p'.Spares p'') : p.Spares p'' where
  unstored := h'.unstored.trans h.unstored
  work := h'.work.trans h.work
  ticks := h'.ticks.trans h.ticks
  log := h'.log.trans h.log

/-- How much there is left to read. -/
def backlog (p : Pipeline) : Nat :=
  (p.subscriptions.map fun s => p.surroundings.bus.log.length - s.position).sum

/-- The consumer can end what it does for a delivery. -/
theorem Sound.idles (h : p.Sound service w batch) :
    ∃ turns, (p.play turns).handling.question? = none ∧ p.Spares (p.play turns) ∧
      (p.play turns).subscriptions = p.subscriptions := by
  generalize hhandling : p.handling = handling
  induction handling generalizing p with
  | done u => exact ⟨[], by rw [Pipeline.play, List.foldl_nil, hhandling]; rfl, .refl p, rfl⟩
  | ask q next ih =>
    obtain ⟨d, handled, hdown⟩ := h.downstream
    obtain ⟨a, s, d', hstep, -, -, -, -, hspares⟩ := h.step_handle hhandling hdown
    obtain ⟨turns, hidle, hspares₁, hsubs⟩ := ih a h.handle (by rw [hstep])
    have hspares' : p.Spares (p.step .handle) := by
      rw [hstep]
      exact ⟨rfl, rfl, rfl, hspares.log⟩
    have hsubs' : (p.step .handle).subscriptions = p.subscriptions := by rw [hstep]
    exact ⟨.handle :: turns, hidle, hspares'.trans hspares₁, hsubs.trans hsubs'⟩

/-- A delivery that is read leaves less to read. -/
theorem Sound.backlog_lt (h : p.Sound service w batch) (hidle : p.handling.question? = none)
    {i : Nat} {s : Subscription} (hs : p.subscriptions[i]? = some s)
    (hnext : (p.surroundings.bus.next s).2.1 ≠ .waiting) :
    p.Spares (p.step (.receive i)) ∧ (p.step (.receive i)).backlog < p.backlog := by
  cases hhandling : p.handling with
  | ask q next =>
    rw [hhandling] at hidle
    cases hidle
  | done u =>
    rcases h.step_receive hhandling hs with
      ⟨position, hwaiting, -⟩ | ⟨e, position, hlt, hle, -, hstep⟩
    · exact absurd hwaiting hnext
    · obtain ⟨l₁, l₂, hsplit, hset⟩ := exists_split_set hs { s with position := position }
      rw [hstep]
      refine ⟨⟨rfl, rfl, rfl, rfl⟩, ?_⟩
      rw [backlog, backlog]
      dsimp only
      rw [hset, hsplit]
      simp only [List.map_append, List.map_cons, List.sum_append, List.sum_cons]
      omega

/-- The consumer can read everything. -/
theorem Sound.reads (h : p.Sound service w batch) (hm : 0 < w.maxRetries)
    (hidle : p.handling.question? = none) :
    ∃ turns, (p.play turns).handling.question? = none ∧ p.Spares (p.play turns) ∧
      ∀ s ∈ (p.play turns).subscriptions, ((p.play turns).surroundings.bus.next s).2.1 = .waiting :=
    by
  induction hn : p.backlog using Nat.strong_induction_on generalizing p with
  | _ n ih =>
    by_cases hwaiting : ∀ s ∈ p.subscriptions, (p.surroundings.bus.next s).2.1 = .waiting
    · exact ⟨[], hidle, .refl p, hwaiting⟩
    · push Not at hwaiting
      obtain ⟨s, hs, hnext⟩ := hwaiting
      obtain ⟨i, hs⟩ := List.getElem?_of_mem hs
      obtain ⟨hspares, hlt⟩ := h.backlog_lt hidle hs hnext
      obtain ⟨turns, hidle₁, hspares₁, hsubs₁⟩ := (h.receive i).idles
      have hbacklog : ((p.step (.receive i)).play turns).backlog < n := by
        rw [backlog, hsubs₁, hspares₁.log, ← hn]
        exact hlt
      obtain ⟨turns', hidle₂, hspares₂, hwaiting⟩ :=
        ih _ hbacklog ((h.receive i).play hm turns) hidle₁ rfl
      refine ⟨.receive i :: turns ++ turns', ?_⟩
      rw [play_append]
      exact ⟨hidle₂, (hspares.trans hspares₁).trans hspares₂, hwaiting⟩

/-! ### Both -/

theorem Sound.unstored_eq_none (h : p.Sound service w batch) : (p.step .store).unstored = none := by
  cases hu : p.unstored with
  | none =>
    rw [Pipeline.step, hu]
    exact hu
  | some b =>
    obtain ⟨s, hstep, -⟩ := h.step_store hu
    rw [hstep]

/-- Everything can come to rest, after as many ticks as are wanted. -/
theorem Sound.settles (h : p.Sound service w batch) (hm : 0 < w.maxRetries) (n : Nat) :
    ∃ turns, (p.play turns).IsQuiet ∧ n ≤ (p.play turns).ticks := by
  -- First the worker has all its ticks, so that the log does not grow while it is read.
  obtain ⟨turns₁, hrest₁, hstored₁, -⟩ := h.store.rests hm
  have h₁ := h.store.play hm turns₁
  obtain ⟨turns₂, hrest₂, hstored₂, hticks₂⟩ :=
    h₁.works hm (hstored₁.trans h.unstored_eq_none) hrest₁ n
  have h₂ := h₁.play hm turns₂
  obtain ⟨turns₃, hidle₃, hspares₃, -⟩ := h₂.idles
  obtain ⟨turns₄, hidle₄, hspares₄, hwaiting⟩ := (h₂.play hm turns₃).reads hm hidle₃
  have hspares := hspares₃.trans hspares₄
  refine ⟨.store :: turns₁ ++ turns₂ ++ turns₃ ++ turns₄, ?_⟩
  rw [play_append, play_append, play_append]
  refine ⟨⟨hspares.unstored.trans hstored₂, ?_, hidle₄, hwaiting⟩, ?_⟩
  · exact hspares.work ▸ hrest₂
  · exact hspares.ticks ▸ hticks₂ ▸ Nat.le_add_left _ _

end Pipeline

end Courier
