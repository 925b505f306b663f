import Courier.Proofs.Outbox.Store

/-!
# The order of a batch

Events are fetched in the order of their creation, and events of the same time in the order in which
they were stored. So whether an event is fetched is told by how many events come before it.

* `Store.Before`: the order of events in an outbox.
* `Store.queue`: all events of a status in this order, of which a batch is the beginning.
* `Distinct.queue_pairwise`, `Distinct.eq_of_perm`: the queue is in this order, and it is the only list
  of these events that is.
* `Distinct.mem_fetch_iff`: an event is fetched unless too many events come before it.
-/

namespace Courier.Outbox.Store

variable {s : Store} {status : Status} {limit : Int} {a b e : Event} {es : List Event}

/-- An event comes before another one: it is older, or it is of the same age and was stored first. -/
def Before (s : Store) (a b : Event) : Prop :=
  a.createdAt < b.createdAt ∨ a.createdAt = b.createdAt ∧ [a, b].Sublist s.events

instance (s : Store) (a b : Event) : Decidable (s.Before a b) :=
  inferInstanceAs (Decidable (_ ∨ _))

/-- How many events of its status come before an event. -/
def rank (s : Store) (e : Event) : Nat :=
  s.events.countP fun a => a.status = e.status ∧ s.Before a e

/-- All events of a status, in the order in which they are fetched. -/
def queue (s : Store) (status : Status) : List Event :=
  (s.events.filter fun e => e.status = status).mergeSort fun a b => a.createdAt ≤ b.createdAt

theorem fetch_eq_take (s : Store) (status : Status) (limit : Int) :
    s.fetch status limit = (s.queue status).take limit.toNat := rfl

theorem queue_perm (s : Store) (status : Status) :
    (s.queue status).Perm (s.events.filter fun e => e.status = status) := List.mergeSort_perm _ _

theorem Distinct.nodup_events (h : s.Distinct) : s.events.Nodup := List.Nodup.of_map _ h

/-! ### The order -/

section Pairs

variable {α : Type} {x y : α} {l : List α}

/-- In a list without duplicates two elements stand in one order only. -/
theorem not_pair_sublist (h : l.Nodup) (hxy : [x, y].Sublist l) : ¬ [y, x].Sublist l := by
  induction l with
  | nil => cases hxy
  | cons z l ih =>
    obtain ⟨hz, hl⟩ := List.nodup_cons.1 h
    intro hyx
    rw [List.cons_sublist_cons'] at hxy hyx
    rcases hxy with hxy | ⟨rfl, hy⟩
    · rcases hyx with hyx | ⟨rfl, -⟩
      · exact ih hl hxy hyx
      · exact hz (hxy.subset (by simp))
    · rcases hyx with hyx | ⟨rfl, hx⟩
      · exact hz (hyx.subset (by simp))
      · exact hz (hx.subset (by simp))

/-- Two elements of a list stand in one order or the other. -/
theorem pair_sublist_or (hx : x ∈ l) (hy : y ∈ l) (hne : x ≠ y) :
    [x, y].Sublist l ∨ [y, x].Sublist l := by
  induction l with
  | nil => cases hx
  | cons z l ih =>
    rw [List.mem_cons] at hx hy
    rcases hx with rfl | hx
    · exact .inl ((List.singleton_sublist.2 (hy.resolve_left hne.symm)).cons_cons x)
    · rcases hy with rfl | hy
      · exact .inr ((List.singleton_sublist.2 hx).cons_cons y)
      · exact (ih hx hy).imp (.cons z) (.cons z)

end Pairs

theorem Distinct.not_before (h : s.Distinct) (hab : s.Before a b) : ¬ s.Before b a := by
  have hlt {t u : Instant} : t < u → ¬ u < t := fun h => Int.not_lt.2 (Int.le_of_lt h)
  intro hba
  rcases hab with hab | ⟨heq, hab⟩
  · rcases hba with hba | ⟨heq, -⟩
    · exact hlt hab hba
    · rw [heq] at hab
      exact hlt hab hab
  · rcases hba with hba | ⟨-, hba⟩
    · rw [heq] at hba
      exact hlt hba hba
    · exact not_pair_sublist h.nodup_events hab hba

/-- Sorting by creation puts events of the outbox in this order, since events of the same age are
    left in the order in which they were stored. -/
theorem Distinct.pairwise_mergeSort (h : s.Distinct) (hes : es.Sublist s.events) :
    (es.mergeSort fun a b => a.createdAt ≤ b.createdAt).Pairwise s.Before := by
  have htrans (a b c : Event) : decide (a.createdAt ≤ b.createdAt) →
      decide (b.createdAt ≤ c.createdAt) → decide (a.createdAt ≤ c.createdAt) := by
    simp only [decide_eq_true_iff]
    exact Int.le_trans
  have htotal (a b : Event) :
      decide (a.createdAt ≤ b.createdAt) || decide (b.createdAt ≤ a.createdAt) := by
    rw [Bool.or_eq_true, decide_eq_true_iff, decide_eq_true_iff]
    exact Int.le_total _ _
  have hnodup : (es.mergeSort fun a b => a.createdAt ≤ b.createdAt).Nodup :=
    (h.nodup_events.sublist hes).mergeSort
  have hsorted := List.pairwise_mergeSort htrans htotal es
  refine List.pairwise_iff_forall_sublist.2 fun {a b} hab => ?_
  have hle : a.createdAt ≤ b.createdAt :=
    of_decide_eq_true (List.pairwise_iff_forall_sublist.1 hsorted hab)
  by_cases hge : b.createdAt ≤ a.createdAt
  · have heq : a.createdAt.ticks = b.createdAt.ticks := Int.le_antisymm hle hge
    refine .inr ⟨congrArg Instant.mk heq, ?_⟩
    have hmem {e : Event} (he : e ∈ [a, b]) : e ∈ es := List.mem_mergeSort.1 (hab.subset he)
    have hne : a ≠ b := List.pairwise_iff_forall_sublist.1 hnodup hab
    obtain hes' | hes' := pair_sublist_or (hmem (by simp)) (hmem (by simp)) hne
    · exact hes'.trans hes
    · -- Then they would have kept this order.
      have hba := List.pair_sublist_mergeSort htrans htotal (decide_eq_true hge) hes'
      exact absurd hba (not_pair_sublist hnodup hab)
  · exact .inl (Int.not_le.1 hge)

theorem Distinct.queue_pairwise (h : s.Distinct) (status : Status) :
    (s.queue status).Pairwise s.Before := h.pairwise_mergeSort List.filter_sublist

/-- Only one list of the same events is in this order. -/
theorem Distinct.eq_of_perm (h : s.Distinct) {es es' : List Event} (hes : es.Pairwise s.Before)
    (hes' : es'.Pairwise s.Before) (hperm : es.Perm es') : es = es' :=
  hperm.eq_of_pairwise (fun _ _ _ _ hab hba => absurd hba (h.not_before hab)) hes hes'

/-! ### Batches -/

/-- The rank of an event is its place in the queue. -/
theorem Distinct.rank_eq (h : s.Distinct) {l₁ l₂ : List Event}
    (hq : s.queue e.status = l₁ ++ e :: l₂) : s.rank e = l₁.length := by
  have hrank : s.rank e = (l₁ ++ e :: l₂).countP fun a => s.Before a e := by
    rw [← hq, (s.queue_perm e.status).countP_eq, List.countP_filter, rank]
    exact List.countP_congr fun a _ => by simp [and_comm]
  have hsorted := h.queue_pairwise e.status
  rw [hq, List.pairwise_append, List.pairwise_cons] at hsorted
  obtain ⟨-, ⟨hafter, -⟩, hbefore⟩ := hsorted
  have hall : l₁.countP (fun a => s.Before a e) = l₁.length :=
    List.countP_eq_length.2 fun a ha => decide_eq_true (hbefore a ha e List.mem_cons_self)
  have hnone : (e :: l₂).countP (fun a => s.Before a e) = 0 := by
    refine List.countP_eq_zero.2 fun a ha hae => ?_
    have hae := of_decide_eq_true hae
    rcases List.mem_cons.1 ha with rfl | ha
    · exact h.not_before hae hae
    · exact h.not_before hae (hafter a ha)
  rw [hrank, List.countP_append, hall, hnone, Nat.add_zero]

/-- An event is fetched unless too many events of its status come before it. -/
theorem Distinct.mem_fetch_iff (h : s.Distinct) :
    e ∈ s.fetch status limit ↔ e ∈ s.events ∧ e.status = status ∧ s.rank e < limit.toNat := by
  have hmem : e ∈ s.queue status ↔ e ∈ s.events ∧ e.status = status := by
    rw [(s.queue_perm status).mem_iff, List.mem_filter, decide_eq_true_iff]
  rw [fetch_eq_take, ← and_assoc, ← hmem]
  have hplace (he : e ∈ s.queue status) :
      e ∈ (s.queue status).take limit.toNat ↔ s.rank e < limit.toNat := by
    obtain rfl := (hmem.1 he).2
    obtain ⟨l₁, l₂, hq⟩ := List.append_of_mem he
    rw [h.rank_eq hq, hq, List.take_append]
    by_cases hlt : l₁.length < limit.toNat
    · have hfirst : e ∈ (e :: l₂).take (limit.toNat - l₁.length) := by
        rw [List.take_cons (by omega)]
        exact List.mem_cons_self
      simp [hlt, hfirst]
    · have hnodup := (s.queue_perm e.status).nodup_iff.2 (h.nodup_events.filter _)
      rw [hq] at hnodup
      have hne : e ∉ l₁.take limit.toNat := fun he' =>
        (List.nodup_append.1 hnodup).2.2 e (List.mem_of_mem_take he') e List.mem_cons_self rfl
      have hzero : limit.toNat - l₁.length = 0 := by omega
      simp [hlt, hzero, hne]
  constructor
  · intro he
    have he' := List.mem_of_mem_take he
    exact ⟨he', (hplace he').1 he⟩
  · rintro ⟨he, hlt⟩
    exact (hplace he).2 hlt

end Courier.Outbox.Store
