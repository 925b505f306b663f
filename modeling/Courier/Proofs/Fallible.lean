import Mathlib.Data.List.Forall2

/-!
# Computations that can fail

What can be told of the parts of a computation from what has come of the whole.

* `exists_of_bind_eq_ok`, `exists_of_map_eq_ok`: if the whole succeeds, the part has succeeded.
* `eq_error_of_map`: if the whole fails, the part has failed.
* `mapM_eq_ok_iff`, `exists_of_mapM_eq_error`: the same of one part after the other.
-/

namespace Courier

variable {ε α β : Type}

/-- When a part has succeeded, it goes on. -/
theorem ok_bind (a : α) (f : α → Except ε β) : (Except.ok a >>= f) = f a :=
  rfl

theorem exists_of_bind_eq_ok {x : Except ε α} {f : α → Except ε β} {b : β}
    (h : (x >>= f) = .ok b) : ∃ a, x = .ok a ∧ f a = .ok b := by
  rcases x with error | a
  · cases h
  · exact ⟨a, rfl, h⟩

theorem exists_of_map_eq_ok {x : Except ε α} {f : α → β} {b : β} (h : x.map f = .ok b) :
    ∃ a, x = .ok a ∧ f a = b := by
  rcases x with error | a
  · cases h
  · exact ⟨a, rfl, Except.ok.inj h⟩

theorem eq_error_of_map {x : Except ε α} {f : α → β} {error : ε} (h : x.map f = .error error) :
    x = .error error := by
  rcases x with error' | a
  · exact congrArg _ (Except.error.inj h)
  · cases h

variable {f : α → Except ε β} {as : List α}

theorem mapM_eq_ok_iff {bs : List β} :
    as.mapM f = .ok bs ↔ List.Forall₂ (fun a b => f a = .ok b) as bs := by
  induction as generalizing bs with
  | nil => cases bs <;> simp [pure, Except.pure]
  | cons a as ih =>
    rw [List.mapM_cons]
    rcases ha : f a with error | b
    · cases bs <;> simp [bind, Except.bind, ha]
    rcases has : as.mapM f with error | bs'
    · cases bs <;> simp [bind, Except.bind, ha, has, ← ih]
    · cases bs <;> simp [bind, Except.bind, pure, Except.pure, ha, has, ← ih]

/-- One after the other, the first part that fails is where the whole fails. -/
theorem exists_of_mapM_eq_error {error : ε} (h : as.mapM f = .error error) :
    ∃ before a after, as = before ++ a :: after ∧ (∀ a' ∈ before, ∃ b, f a' = .ok b) ∧
      f a = .error error := by
  induction as with
  | nil => cases h
  | cons a as ih =>
    rw [List.mapM_cons] at h
    rcases ha : f a with error' | b
    · rw [ha] at h
      cases h
      exact ⟨[], a, as, rfl, nofun, ha⟩
    rcases has : as.mapM f with error' | bs
    · rw [ha, has] at h
      cases h
      obtain ⟨before, a', after, rfl, hbefore, ha'⟩ := ih has
      exact ⟨a :: before, a', after, rfl, List.forall_mem_cons.2 ⟨⟨b, ha⟩, hbefore⟩, ha'⟩
    · rw [ha, has] at h
      cases h

end Courier
