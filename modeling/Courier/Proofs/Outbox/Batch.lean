import Courier.Proofs.Outbox.History

/-!
# Batches as a whole

A batch is stored as a whole or not at all. It is refused if it brings an identifier that is taken
or one that it has brought before, and then nothing is stored, not even the events before that one.

* `Store.perform_store_of_admits`, `Store.perform_store_of_not_admits`: what becomes of a batch.
* `Store.store_atomic`: both together, and that no identifier ever comes twice.
-/

namespace Courier.Outbox

namespace Store

variable {s : Store} {batch : List Event}

theorem perform_store_of_admits (h : s.Admits batch) (now : Instant) :
    s.perform now (.store batch) = (.ok (), ⟨s.events ++ batch⟩) := by
  rw [perform_store, store_of_admits h]

theorem perform_store_of_not_admits (h : ¬s.Admits batch) (now : Instant) :
    ∃ before e after, batch = before ++ e :: after ∧ s.Admits before ∧
      (∃ row ∈ s.events ++ before, row.id = e.id) ∧
      s.perform now (.store batch) =
        (.error (.outbox ("duplicate outbox event id " ++ e.id.text)), s) := by
  obtain ⟨before, e, after, hbatch, hbefore, hrow, hstore⟩ := store_of_not_admits h
  exact ⟨before, e, after, hbatch, hbefore, hrow, by rw [perform_store, hstore]⟩

/-- A batch is stored exactly if its identifiers are distinct and none of them is taken, and then it
    comes after the events that are there. Otherwise the outbox stays as it is, and the error tells
    the first identifier that is taken or has come before in the batch. So no identifier comes
    twice, whatever is done with the outbox. -/
theorem store_atomic (h : s.Distinct) (now : Instant) (batch : List Event) :
    ((s.perform now (.store batch)).1 = .ok () ↔ s.Admits batch) ∧
    (s.Admits batch → (s.perform now (.store batch)).2.events = s.events ++ batch) ∧
    (¬s.Admits batch → ∃ before e after, batch = before ++ e :: after ∧ s.Admits before ∧
      (∃ row ∈ s.events ++ before, row.id = e.id) ∧
      s.perform now (.store batch) =
        (.error (.outbox ("duplicate outbox event id " ++ e.id.text)), s)) ∧
    ∀ ops, (s.performAll ops).Distinct := by
  refine ⟨⟨?_, ?_⟩, ?_, fun hb => perform_store_of_not_admits hb now,
    fun ops => (performAll_spec h ops).1⟩
  · intro hok
    by_contra hb
    obtain ⟨_, e, _, -, -, -, hperform⟩ := perform_store_of_not_admits hb now
    rw [hperform] at hok
    cases hok
  · intro hb
    rw [perform_store_of_admits hb]
  · intro hb
    rw [perform_store_of_admits hb]

/-- An event with the identifier of a number. -/
def numbered (n : Nat) : Event := { unsettled with id := .ofNat n }

/-- The third event of the batch comes again, and so does the fourth. The first two are not stored
    either. -/
theorem store_atomic_relapse :
    let s : Store := ⟨[numbered 0]⟩
    s.perform ⟨1⟩ (.store [numbered 1, numbered 2, numbered 1, numbered 0]) =
      (.error (.outbox "duplicate outbox event id 00000000-0000-0000-0000-000000000001"), s) := by
  intro s
  have hd : s.Distinct := List.nodup_singleton _
  have hb : ¬s.Admits [numbered 1, numbered 2, numbered 1, numbered 0] := by
    rintro ⟨hnodup, -⟩
    exact absurd hnodup (by decide)
  obtain ⟨before, e, after, hbatch, ⟨hbefore, -⟩, hrow, hperform⟩ :=
    (store_atomic hd ⟨1⟩ _).2.2.1 hb
  rcases before with _ | ⟨a, _ | ⟨b, _ | ⟨c, before⟩⟩⟩
  · cases hbatch
    exact absurd hrow (by decide)
  · cases hbatch
    exact absurd hrow (by decide)
  · cases hbatch
    have htext : (numbered 1).id.text = "00000000-0000-0000-0000-000000000001" := by decide +kernel
    rw [hperform, htext]
    rfl
  · -- The first event cannot come again among those that have been admitted.
    simp only [List.cons_append, List.cons.injEq] at hbatch
    obtain ⟨rfl, -, rfl, -⟩ := hbatch
    simp at hbefore

end Store

end Courier.Outbox
