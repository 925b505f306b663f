import Courier.Proofs.Protocol
import Mathlib.Data.List.Basic
import Mathlib.Data.Nat.Find

/-!
# Answers that come again and again

A program takes turns with whatever else happens. Its question waits until a turn answers it, and no
other turn does anything to what the program still has to do. If turns that answer come again and
again, then at some time the program does not wait for an answer any more.

* `Program.Driven`: what turns do to a program.
* `Program.Driven.exists_question?_eq_none`: at some time nothing is left to be asked.
-/

namespace Courier.Program

variable {Q : Type} {R : Q → Type} {α D T : Type}

/-- In states for which `P` holds, the question of the program `rest` is answered by the turns that
    answer, and left alone by all others. -/
structure Driven (step : D → T → D) (rest : D → Program Q R α) (answers : T → Bool)
    (P : D → Prop) : Prop where
  keeps : ∀ d t, P d → P (step d t)
  waits : ∀ d t, P d → answers t = false → (rest d).question? ≠ none → rest (step d t) = rest d
  goesOn : ∀ d t q next, P d → answers t = true → rest d = ask q next →
    ∃ a, rest (step d t) = next a

namespace Driven

variable {step : D → T → D} {rest : D → Program Q R α} {answers : T → Bool} {P : D → Prop} {d : D}

theorem keeps_foldl (h : Driven step rest answers P) (turns : List T) (hd : P d) :
    P (turns.foldl step d) := by
  induction turns generalizing d with
  | nil => exact hd
  | cons t turns ih => exact ih (h.keeps d t hd)

theorem waits_foldl (h : Driven step rest answers P) {turns : List T} (hd : P d)
    (ht : ∀ t ∈ turns, answers t = false) (hq : (rest d).question? ≠ none) :
    rest (turns.foldl step d) = rest d := by
  induction turns generalizing d with
  | nil => rfl
  | cons t turns ih =>
    rw [List.forall_mem_cons] at ht
    have hrest := h.waits d t hd ht.1 hq
    exact (ih (h.keeps d t hd) ht.2 (by rwa [hrest])).trans hrest

/-- If answers come again and again, then at some time nothing is left to be asked. -/
theorem exists_question?_eq_none (h : Driven step rest answers P) (hd : P d) {schedule : ℕ → T}
    (hfair : ∀ n, ∃ k ≥ n, answers (schedule k)) :
    ∃ n, (rest (((List.range n).map schedule).foldl step d)).question? = none := by
  -- By induction on what is left to do, from one answer to the next.
  generalize hp : rest d = p
  induction p generalizing d schedule with
  | done a => exact ⟨0, congrArg _ hp⟩
  | ask q next ih =>
    obtain ⟨m, hanswers, hmin⟩ : ∃ m, answers (schedule m) ∧
        ∀ k < m, answers (schedule k) = false := by
      have hexists : ∃ k, answers (schedule k) := (hfair 0).imp fun _ h => h.2
      exact ⟨Nat.find hexists, Nat.find_spec hexists, fun k hk => by
        simpa using Nat.find_min hexists hk⟩
    have hbefore : rest (((List.range m).map schedule).foldl step d) = ask q next := by
      rw [← hp]
      refine h.waits_foldl hd (List.forall_mem_map.2 fun k hk => hmin k (List.mem_range.1 hk)) ?_
      rw [hp]
      rintro ⟨⟩
    have hd' := h.keeps_foldl ((List.range m).map schedule) hd
    obtain ⟨a, hrest⟩ := h.goesOn _ _ q next hd' hanswers hbefore
    have hfair' : ∀ n, ∃ k ≥ n, answers (schedule (m + 1 + k)) := by
      intro n
      obtain ⟨k, hk, hanswers⟩ := hfair (m + 1 + n)
      exact ⟨k - (m + 1), by omega, by rwa [Nat.add_sub_cancel' (by omega)]⟩
    obtain ⟨n, hn⟩ := ih a (h.keeps _ (schedule m) hd') hfair' hrest
    refine ⟨m + 1 + n, ?_⟩
    rw [List.range_add, List.range_succ, List.map_append, List.foldl_append, List.map_append,
      List.foldl_append, List.map_map]
    exact hn

end Driven

end Courier.Program
