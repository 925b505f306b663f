import Courier.Proofs.Outbox.History
import Courier.Proofs.Outbox.Order
import Mathlib.Data.List.Perm.Subperm

/-!
# The oldest events

Events are fetched as they are in the outbox, the oldest of a status first, and as many as are asked
for and are there. Nothing that is left out comes before anything that is fetched, so that it is
settled which events these are, and in which order.

* `Store.Oldest`: a list has the oldest events of a status, at most so many.
* `Store.Distinct.oldest_unique`: there is only one such list.
* `Store.performAll_fetches`: it is what is fetched, whatever has been done with the outbox.
-/

namespace Courier.Outbox.Store

variable {s : Store} {status : Status} {limit : Int} {a b : Event} {es es' : List Event}

/-- A list has the oldest events of a status, at most so many, as they are in the outbox and in the
    order of their creation; of the same age the one stored first. -/
structure Oldest (s : Store) (status : Status) (limit : Int) (es : List Event) : Prop where
  length : (es.length : Int) = min (max limit 0) (s.events.countP fun e => e.status = status)
  nodup : (es.map (·.id)).Nodup
  stored : ∀ e ∈ es, e ∈ s.events ∧ e.status = status
  ordered : es.Pairwise s.Before
  /-- What is left out comes before nothing that is in the list. -/
  not_before : ∀ e ∈ es, ∀ row ∈ s.events, row.status = status → row ∉ es → ¬ s.Before row e

theorem Distinct.oldest_fetch (h : s.Distinct) (status : Status) (limit : Int) :
    s.Oldest status limit (s.fetch status limit) where
  length := by
    rw [length_fetch]
    omega
  nodup := h.nodup_fetch
  stored _ he := mem_fetch he
  ordered := (h.queue_pairwise status).sublist (List.take_sublist _ _)
  not_before := by
    intro e he row hrow hstatus hout
    have hqueue : row ∈ s.queue status :=
      (s.queue_perm status).mem_iff.2 (List.mem_filter.2 ⟨hrow, decide_eq_true hstatus⟩)
    -- What is not among the first of the queue is among the others, which come later.
    rw [← List.take_append_drop limit.toNat (s.queue status), List.mem_append] at hqueue
    have hsorted := h.queue_pairwise status
    rw [← List.take_append_drop limit.toNat (s.queue status), List.pairwise_append] at hsorted
    exact h.not_before (hsorted.2.2 e he row (hqueue.resolve_left hout))

/-- Of two events one comes before the other. -/
theorem before_or_before (ha : a ∈ s.events) (hb : b ∈ s.events) (hne : a ≠ b) :
    s.Before a b ∨ s.Before b a := by
  rcases Int.lt_trichotomy a.createdAt.ticks b.createdAt.ticks with hlt | heq | hgt
  · exact .inl (.inl hlt)
  · have heq : a.createdAt = b.createdAt := congrArg Instant.mk heq
    exact (pair_sublist_or ha hb hne).imp (fun hab => .inr ⟨heq, hab⟩)
      fun hba => .inr ⟨heq.symm, hba⟩
  · exact .inr (.inl hgt)

/-- Two lists of the oldest events have the same ones. Of two events that only one of the lists has,
    one would come before the other, and yet be left out. -/
theorem Oldest.subset (h : s.Oldest status limit es) (h' : s.Oldest status limit es') :
    es ⊆ es' := by
  intro e he
  by_contra hout
  have hlength : es.length ≤ es'.length :=
    Nat.le_of_eq (Int.ofNat_inj.1 (h.length.trans h'.length.symm))
  obtain ⟨e', he', hout'⟩ : ∃ e' ∈ es', e' ∉ es := by
    by_contra! hsub
    have hsubperm : es'.Subperm es := (List.Nodup.of_map _ h'.nodup).subperm hsub
    exact hout ((hsubperm.perm_of_length_le hlength).mem_iff.2 he)
  obtain ⟨hrow, hstatus⟩ := h.stored e he
  obtain ⟨hrow', hstatus'⟩ := h'.stored e' he'
  have hne : e ≠ e' := fun heq => hout (heq ▸ he')
  rcases before_or_before hrow hrow' hne with hbefore | hbefore
  · exact h'.not_before e' he' e hrow hstatus hout hbefore
  · exact h.not_before e he e' hrow' hstatus' hout' hbefore

/-- There is only one list of the oldest events. -/
theorem Distinct.oldest_unique (hd : s.Distinct) (h : s.Oldest status limit es)
    (h' : s.Oldest status limit es') : es = es' := by
  have hperm : es.Perm es' :=
    (List.perm_ext_iff_of_nodup (List.Nodup.of_map _ h.nodup) (List.Nodup.of_map _ h'.nodup)).2
      fun e => ⟨fun he => h.subset h' he, fun he => h'.subset h he⟩
  exact hd.eq_of_perm h.ordered h'.ordered hperm

/-- Whatever has been done with an outbox, and however many events are asked for: the oldest pending
    events are fetched, or the oldest abandoned ones, and the outbox stays as it is. Which events
    these are, and in which order, is thereby settled. -/
theorem performAll_fetches (ops : List (Instant × Op)) (now : Instant) (limit : Int) :
    let s := Store.empty.performAll ops
    (∃ es, s.perform now (.fetchUnpublished limit) = (.ok es, s) ∧ s.Oldest .pending limit es) ∧
    (∃ es, s.perform now (.fetchAbandoned limit) = (.ok es, s) ∧ s.Oldest .abandoned limit es) ∧
    ∀ status es es', s.Oldest status limit es → s.Oldest status limit es' → es = es' := by
  intro s
  have hd : s.Distinct := (performAll_spec distinct_empty ops).1
  refine ⟨⟨_, rfl, hd.oldest_fetch _ _⟩, ⟨_, rfl, hd.oldest_fetch _ _⟩, ?_⟩
  exact fun status es es' => hd.oldest_unique

end Courier.Outbox.Store
