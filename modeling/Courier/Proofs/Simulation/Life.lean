import Courier.Proofs.Simulation.Closed

/-!
# The life of a task

In its turn a task asks one question after the other, until the answer to one of them takes its
time. Each question is answered, or the task is torn down. Between two turns all kinds of things can
happen to a task and to its surroundings.

* `runToDelay_ask`: what comes of a question.
* `Leaves`: what is left of a program after a turn.
* `Task.Lives`: all that can happen to a task.
-/

namespace Courier.Simulation

/-- Whatever makes a program go on answers its question, and leaves the bus and the clock alone. -/
def Resumes (resume : Surroundings → Option (Action Bool) × Surroundings)
    (rest : Action Bool) : Prop :=
  ∃ q next, rest = .ask q next ∧ ∀ s, s.Unmoved (resume s).2 ∧
    ∀ action, (resume s).1 = some action → ∃ a, action = next a

/-- How far a program has come, and what is left of it then. -/
def Leaves : Progress Bool → Action Bool → Prop
  | .done goesOn, rest => rest = .done goesOn
  | .broken, _ => True
  | .paused _ resume, rest => Resumes resume rest

/-- A question is answered at once, or after a delay, or whoever asks is torn down. None of this
    reaches the bus or the clock any more once the question has been asked. -/
theorem runToDelay_ask (q : Request) (next : q.Answer → Action Bool) (s : Surroundings) :
    (∃ s', runToDelay (.ask q next) s = (.broken, s') ∧ (s.begin q).2.Unmoved s') ∨
      (∃ a s', runToDelay (.ask q next) s = runToDelay (next a) s' ∧
        (s.begin q).2.Unmoved s') ∨
      ∃ delay resume, runToDelay (.ask q next) s = (.paused delay resume, (s.begin q).2) ∧
        Resumes resume (.ask q next) := by
  have hunmoved := Surroundings.unmoved_finish_begin q s
  by_cases hdelay : (s.begin q).1.delay = 0
  · cases hfinish : (s.begin q).1.finish (s.begin q).2 with
    | mk answer s' =>
      have hunmoved := hunmoved (s.begin q).2
      rw [hfinish] at hunmoved
      cases answer with
      | none =>
        refine .inl ⟨s', ?_, hunmoved⟩
        rw [runToDelay]
        simp only [hdelay, if_true, hfinish]
      | some a =>
        refine .inr (.inl ⟨a, s', ?_, hunmoved⟩)
        rw [runToDelay]
        simp only [hdelay, if_true, hfinish]
  · refine .inr (.inr ?_)
    rw [runToDelay]
    simp only [hdelay, if_false]
    refine ⟨_, _, rfl, q, next, rfl, fun s' => ?_⟩
    have hunmoved := hunmoved s'
    dsimp only
    split
    next s'' hfinish =>
      rw [hfinish] at hunmoved
      exact ⟨hunmoved, fun action haction => by cases haction⟩
    next a s'' hfinish =>
      rw [hfinish] at hunmoved
      exact ⟨hunmoved, fun action haction => ⟨a, (Option.some.inj haction).symm⟩⟩

/-- All that can happen to a task, from its start: turns, its being woken and cancelled, and what is
    done to its surroundings. The end of it says whether the task is cancelled. -/
inductive Task.Lives (t₀ : Task) (s₀ : Surroundings) : Task → Surroundings → Bool → Prop
  | start : Lives t₀ s₀ t₀ s₀ false
  | turn {t s isCancelled} (h : Lives t₀ s₀ t s isCancelled) (rank : Nat) :
      Lives t₀ s₀ (t.turn isCancelled rank s).1 (t.turn isCancelled rank s).2.2 isCancelled
  | wake {t s isCancelled} (h : Lives t₀ s₀ t s isCancelled) (i : Nat) :
      Lives t₀ s₀ { t with source := Source.wake i t.routine.wait t.source } s isCancelled
  | cancel {t s isCancelled} (h : Lives t₀ s₀ t s isCancelled) : Lives t₀ s₀ t s true
  | meanwhile {t s isCancelled} (h : Lives t₀ s₀ t s isCancelled) (s' : Surroundings)
      (hs : s.bus.isClosed → s'.bus.isClosed) : Lives t₀ s₀ t s' isCancelled

theorem Task.isTornDown_turn {t : Task} (h : t.isTornDown) (isCancelled : Bool) (rank : Nat)
    (s : Surroundings) : (t.turn isCancelled rank s).1.isTornDown := by
  obtain ⟨routine, source, activity, alarm, yields⟩ := t
  cases activity with
  | fresh | waiting | paused => cases h
  | _ => exact h

end Courier.Simulation
