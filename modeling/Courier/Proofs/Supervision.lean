import Courier.Supervision

/-!
# What cancels a task

What has been done under a supervisor tells which of its tasks are cancelled, and the order matters
only for the handle of a task: once somebody has begun to wait for the end of the task, it does no
harm any more if the handle is dropped.

* `Supervisor.Deed`: what is done under a supervisor.
* `Supervisor.Forsakes`: the handle of a task is dropped too early.
* `Supervisor.Tells`: what deeds tell about the tasks, and `Tells.after` for one deed more.
* `Supervisor.Tells.isCancelled_iff`: which tasks are cancelled.
-/

namespace Courier.Supervisor

/-- What is done under a supervisor. -/
inductive Deed
  | started
  | cancelled
  | shutDown (task : Nat)
  /-- The handle of a task is dropped. -/
  | dropped (task : Nat)
  /-- Somebody begins to wait for the end of a task. -/
  | joined (task : Nat)
  deriving DecidableEq

/-- The task that a deed is about, unless it is about all of them. -/
def Deed.task? : Deed → Option Nat
  | shutDown task | dropped task | joined task => some task
  | started | cancelled => none

/-- The supervisor after a deed. -/
def after (s : Supervisor) : Deed → Supervisor
  | .started => s.start
  | .cancelled => s.cancel
  | .shutDown task => s.shutDown task
  | .dropped task => s.drop task
  | .joined task => s.beginJoin task

/-- The handle of a task has been dropped, and nobody had begun to wait for the end of the task. -/
def Forsakes (deeds : List Deed) (task : Nat) : Prop :=
  ∃ before after, deeds = before ++ .dropped task :: after ∧ .joined task ∉ before

/-- How a task stands is told by what has been done. -/
structure Tells (deeds : List Deed) (s : Supervisor) : Prop where
  root : s.cancelled ↔ .cancelled ∈ deeds
  joined : ∀ i t, s.tasks[i]? = some t → (t.joined ↔ .joined i ∈ deeds)
  cancelled : ∀ i t, s.tasks[i]? = some t → (t.cancelled ↔ .shutDown i ∈ deeds ∨ Forsakes deeds i)
  /-- Only tasks that have been started have handles. -/
  started : ∀ deed ∈ deeds, ∀ i, deed.task? = some i → i < s.tasks.length

variable {s : Supervisor} {deeds : List Deed} {deed : Deed} {i : Nat}

theorem forsakes_concat :
    Forsakes (deeds ++ [deed]) i ↔ Forsakes deeds i ∨ deed = .dropped i ∧ .joined i ∉ deeds := by
  constructor
  · -- The handle is dropped by the last deed, or by one before it.
    rintro ⟨before, after, h, hj⟩
    rcases List.eq_nil_or_concat after with rfl | ⟨after, last, rfl⟩
    · obtain ⟨rfl, hdeed⟩ := List.append_inj' h rfl
      exact .inr ⟨List.singleton_inj.1 hdeed, hj⟩
    · rw [List.concat_eq_append, ← List.cons_append, ← List.append_assoc] at h
      exact .inl ⟨before, after, (List.append_inj' h rfl).1, hj⟩
  · rintro (⟨before, after, rfl, hj⟩ | ⟨rfl, hj⟩)
    · exact ⟨before, after ++ [deed], by simp, hj⟩
    · exact ⟨deeds, [], rfl, hj⟩

theorem not_forsakes (h : ∀ deed ∈ deeds, deed.task? ≠ some i) : ¬Forsakes deeds i := by
  rintro ⟨before, after, rfl, -⟩
  exact h (.dropped i) (by simp) rfl

/-! ### One deed -/

theorem tasks_change {task : Nat} {f : Supervised → Supervised} {t' : Supervised}
    (h : (s.change task f).tasks[i]? = some t') :
    ∃ t, s.tasks[i]? = some t ∧ t' = if task = i then f t else t := by
  rw [change, List.getElem?_modify, Option.map_eq_map, Option.map_eq_some_iff] at h
  obtain ⟨t, ht, rfl⟩ := h
  exact ⟨t, ht, rfl⟩

/-- All that a deed does to a task. -/
theorem tasks_after {t' : Supervised} (h : (s.after deed).tasks[i]? = some t') :
    (∃ t, s.tasks[i]? = some t ∧ (t'.joined ↔ t.joined ∨ deed = .joined i) ∧
      (t'.cancelled ↔ t.cancelled ∨ deed = .shutDown i ∨ deed = .dropped i ∧ ¬t.joined)) ∨
    deed = .started ∧ i = s.tasks.length ∧ t' = ⟨false, false⟩ := by
  cases deed with
  | started =>
    rcases Nat.lt_or_ge i s.tasks.length with hi | hi
    · rw [after, start, List.getElem?_append_left hi] at h
      exact .inl ⟨t', h, by simp, by simp⟩
    · rw [after, start, List.getElem?_append_right hi, List.getElem?_singleton] at h
      split at h
      next hsub => exact .inr ⟨rfl, by omega, (Option.some.inj h).symm⟩
      next => cases h
  | cancelled => exact .inl ⟨t', h, by simp, by simp⟩
  | shutDown task =>
    obtain ⟨t, ht, rfl⟩ := tasks_change h
    refine .inl ⟨t, ht, ?_⟩
    by_cases hi : task = i <;> simp [hi]
  | dropped task =>
    obtain ⟨t, ht, rfl⟩ := tasks_change h
    refine .inl ⟨t, ht, ?_⟩
    by_cases hi : task = i <;> by_cases hj : t.joined <;> simp [hi, hj]
  | joined task =>
    obtain ⟨t, ht, rfl⟩ := tasks_change h
    refine .inl ⟨t, ht, ?_⟩
    by_cases hi : task = i <;> simp [hi]

theorem length_after (s : Supervisor) (deed : Deed) :
    (s.after deed).tasks.length =
      if deed = .started then s.tasks.length + 1 else s.tasks.length := by
  cases deed <;> simp [after, start, cancel, shutDown, drop, beginJoin, change]

theorem cancelled_after (s : Supervisor) (deed : Deed) :
    (s.after deed).cancelled ↔ s.cancelled ∨ deed = .cancelled := by
  cases deed <;> simp [after, start, cancel, shutDown, drop, beginJoin, change]

theorem isCancelled_iff :
    s.isCancelled i ↔ s.cancelled ∨ ∃ t, s.tasks[i]? = some t ∧ t.cancelled := by
  rw [isCancelled, Bool.or_eq_true]
  cases s.tasks[i]? <;> simp

theorem isCancelled_change {task : Nat} {f : Supervised → Supervised}
    (h : task = i → ∀ t, s.tasks[i]? = some t → (f t).cancelled = t.cancelled) :
    (s.change task f).isCancelled i = s.isCancelled i := by
  rw [isCancelled, isCancelled, change, List.getElem?_modify]
  cases ht : s.tasks[i]? with
  | none => rfl
  | some t =>
    by_cases hi : task = i
    · simp [hi, h hi t ht]
    · simp [hi]

/-- A task that has just been started is cancelled only with all others. -/
theorem isCancelled_start (s : Supervisor) (i : Nat) :
    s.start.isCancelled i = s.isCancelled i := by
  rw [isCancelled, isCancelled, start]
  rcases Nat.lt_or_ge i s.tasks.length with hi | hi
  · rw [List.getElem?_append_left hi]
  · rw [List.getElem?_append_right hi, List.getElem?_singleton, List.getElem?_eq_none hi]
    split <;> rfl

/-- Other tasks than this one are cancelled as before, and so are all tasks at once. -/
structure Spares (task : Nat) (s s' : Supervisor) : Prop where
  root : s'.cancelled = s.cancelled
  others : ∀ other, other ≠ task → s'.isCancelled other = s.isCancelled other

theorem Spares.refl (task : Nat) (s : Supervisor) : s.Spares task s := ⟨rfl, fun _ _ => rfl⟩

theorem Spares.trans {task : Nat} {s' s'' : Supervisor} (h : s.Spares task s')
    (h' : s'.Spares task s'') : s.Spares task s'' :=
  ⟨h'.root.trans h.root, fun i hi => (h'.others i hi).trans (h.others i hi)⟩

theorem spares_start (s : Supervisor) (task : Nat) : s.Spares task s.start :=
  ⟨rfl, fun i _ => s.isCancelled_start i⟩

/-- What is done with the handle of a task is no matter to other tasks. -/
theorem spares_after {task : Nat} (s : Supervisor) (deed : Deed) (hd : deed.task? = some task) :
    s.Spares task (s.after deed) := by
  cases deed with
  | started | cancelled => cases hd
  | shutDown | dropped | joined =>
    cases hd
    exact ⟨rfl, fun i hi => isCancelled_change fun h => absurd h.symm hi⟩

/-- Nothing is cancelled when somebody begins to wait for the end of a task. -/
theorem isCancelled_beginJoin (s : Supervisor) (task i : Nat) :
    (s.beginJoin task).isCancelled i = s.isCancelled i := isCancelled_change fun _ _ _ => rfl

/-- Once somebody has begun to wait for the end of a task, nothing is cancelled by the end of its
    handle. -/
theorem isCancelled_drop {task : Nat} (hj : ∀ t, s.tasks[task]? = some t → t.joined) :
    (s.drop task).isCancelled i = s.isCancelled i := by
  refine isCancelled_change ?_
  rintro rfl t ht
  rw [if_pos (hj t ht)]

/-! ### All deeds -/

namespace Tells

theorem empty : Tells [] .empty where
  root := by simp [Supervisor.empty]
  joined i t h := by cases h
  cancelled i t h := by cases h
  started deed h := by cases h

theorem not_task (h : Tells deeds s) (hi : s.tasks.length ≤ i) :
    ∀ deed ∈ deeds, deed.task? ≠ some i :=
  fun deed hd htask => absurd (h.started deed hd i htask) (Nat.not_lt.2 hi)

theorem after (h : Tells deeds s) (hd : ∀ i, deed.task? = some i → i < s.tasks.length) :
    Tells (deeds ++ [deed]) (s.after deed) where
  root := by
    rw [cancelled_after, h.root, List.mem_append, List.mem_singleton, eq_comm]
  joined i t' ht' := by
    rw [List.mem_append, List.mem_singleton]
    rcases tasks_after ht' with ⟨t, ht, hj, -⟩ | ⟨rfl, rfl, rfl⟩
    · rw [hj, h.joined i t ht, eq_comm]
    · have hnot : .joined s.tasks.length ∉ deeds := fun hm => h.not_task (Nat.le_refl _) _ hm rfl
      simp [hnot]
  cancelled i t' ht' := by
    rw [List.mem_append, List.mem_singleton, forsakes_concat]
    rcases tasks_after ht' with ⟨t, ht, -, hc⟩ | ⟨rfl, rfl, rfl⟩
    · rw [hc, h.cancelled i t ht, h.joined i t ht, or_or_or_comm, @eq_comm _ deed (.shutDown i)]
    · have hnot : .shutDown s.tasks.length ∉ deeds := fun hm => h.not_task (Nat.le_refl _) _ hm rfl
      simp [hnot, not_forsakes (h.not_task (Nat.le_refl _))]
  started deed' hm i hi := by
    have hle : s.tasks.length ≤ (s.after deed).tasks.length := by
      rw [length_after]
      split <;> omega
    rw [List.mem_append, List.mem_singleton] at hm
    rcases hm with hm | rfl
    · exact Nat.lt_of_lt_of_le (h.started deed' hm i hi) hle
    · exact Nat.lt_of_lt_of_le (hd i hi) hle

/-- A task is cancelled with all others, or by itself, or as its handle was dropped too early. -/
theorem isCancelled_iff (h : Tells deeds s) (i : Nat) :
    s.isCancelled i ↔ .cancelled ∈ deeds ∨ .shutDown i ∈ deeds ∨ Forsakes deeds i := by
  rw [Supervisor.isCancelled_iff, h.root]
  refine or_congr_right ?_
  cases ht : s.tasks[i]? with
  | some t => simpa using h.cancelled i t ht
  | none =>
    have hnot := h.not_task (List.getElem?_eq_none_iff.1 ht)
    have hshut : .shutDown i ∉ deeds := fun hm => hnot _ hm rfl
    simp [hshut, not_forsakes hnot]

end Tells

end Courier.Supervisor
