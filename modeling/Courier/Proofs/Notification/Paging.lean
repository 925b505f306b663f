import Courier.Proofs.Notification.Devices

/-!
# Paging through an inbox

A user's notifications are read page by page, each page beginning where the last one has ended,
until a page is empty. What has been read then are all notifications of the user, each once, the
newest first. That is the same list for every size of the pages.

* `Shelf`, `answer`: surroundings that keep notifications in memory.
* `Store.performAll`, `Store.Proper`: whatever has been done, a notification is kept under its own
  identifier.
* `Store.Listing`: a list has all notifications of a user, each once, the newest first.
* `ReadsOn`: reading on, page by page.
* `listing_pages`: what has been read in the end.
-/

namespace Courier.Notification.Inbox

/-! ### What is kept -/

namespace Store

/-- The store after operations one after the other, each at its time. -/
def performAll (s : Store) (ops : List (Instant × Op)) : Store :=
  ops.foldl (fun s op => (perform op.1 op.2 s).2) s

/-- Every notification is kept once, under its own identifier. -/
structure Proper (s : Store) : Prop where
  distinct : s.Distinct
  keyedBy : s.KeyedBy (·.id)

theorem proper_empty : Proper .empty := ⟨Table.distinct_empty, Table.keyedBy_empty _⟩

theorem id_markRead (n : InAppNotification) (now : Instant) : (n.markRead now).id = n.id := by
  rw [InAppNotification.markRead]
  split
  next => rfl
  next => rfl

/-- Whatever is done, a notification is kept under its own identifier. -/
theorem Proper.perform {s : Store} (h : s.Proper) (now : Instant) (op : Op) :
    (perform now op s).2.Proper := by
  cases op with
  | store n => exact ⟨h.distinct.insert _ _, h.keyedBy.insert rfl⟩
  | findById id => exact h
  | findByUser userId limit offset => exact h
  | markRead id =>
    rw [Store.perform]
    split
    next => exact h
    next n hget =>
      have hid : (n.markRead now).id = id :=
        (id_markRead n now).trans (h.keyedBy.eq_of_get? h.distinct hget)
      exact ⟨h.distinct.insert _ _, h.keyedBy.insert hid⟩
  | markAllRead userId =>
    refine ⟨h.distinct.map _, h.keyedBy.map fun n => ?_⟩
    split
    next => exact id_markRead n now
    next => rfl
  | unreadCount userId => exact h

theorem Proper.performAll {s : Store} (h : s.Proper) (ops : List (Instant × Op)) :
    (s.performAll ops).Proper := by
  induction ops generalizing s with
  | nil => exact h
  | cons op ops ih => exact ih (h.perform op.1 op.2)

/-! ### Lists of notifications -/

/-- A notification comes after another one: it is older, or of the same age with a lesser
    identifier. -/
def After (a b : InAppNotification) : Prop :=
  b.createdAt < a.createdAt ∨ b.createdAt = a.createdAt ∧ b.id.value < a.id.value

instance (a b : InAppNotification) : Decidable (After a b) := inferInstanceAs (Decidable (_ ∨ _))

/-- All notifications of a user, each once, the newest first. -/
structure Listing (s : Store) (userId : Uuid) (ns : List InAppNotification) : Prop where
  mem_iff : ∀ n, n ∈ ns ↔ s.get? n.id = some n ∧ n.userId = userId
  nodup : (ns.map (·.id)).Nodup
  ordered : ns.Pairwise After

/-- The notifications of a user in the order in which pages have them. -/
def ofUser (s : Store) (userId : Uuid) : List InAppNotification :=
  (s.values.filter fun n => n.userId = userId).mergeSort
    fun a b => olderOrEqual (b.createdAt, b.id) (a.createdAt, a.id)

theorem page_eq (s : Store) (userId : Uuid) (limit offset : Nat) :
    s.page userId limit offset = ((s.ofUser userId).drop offset).take limit :=
  rfl

variable {s s' : Store} {userId : Uuid} {ns ns' : List InAppNotification}

theorem ofUser_perm : (s.ofUser userId).Perm (s.values.filter fun n => n.userId = userId) :=
  List.mergeSort_perm _ _

theorem eq_of_value_eq {a b : Uuid} (h : a.value = b.value) : a = b := by
  cases a
  cases b
  cases h
  rfl

/-- No two notifications of the same age have the same identifier, so that the order is strict. -/
theorem Proper.listing_ofUser (h : s.Proper) (userId : Uuid) :
    s.Listing userId (s.ofUser userId) := by
  have hnodup : ((s.ofUser userId).map (·.id)).Nodup := by
    rw [(ofUser_perm.map _).nodup_iff]
    refine List.Nodup.sublist (List.filter_sublist.map _) ?_
    rw [h.keyedBy.map_values]
    exact h.distinct
  refine ⟨fun n => ?mem, hnodup, ?ordered⟩
  case mem =>
    rw [ofUser_perm.mem_iff, List.mem_filter, h.distinct.mem_values_iff, decide_eq_true_iff]
    refine and_congr_left' ⟨?_, fun hget => ⟨n.id, hget⟩⟩
    rintro ⟨key, hget⟩
    rw [h.keyedBy.eq_of_get? h.distinct hget, hget]
  case ordered =>
    have hsorted : (s.ofUser userId).Pairwise
        fun a b => olderOrEqual (b.createdAt, b.id) (a.createdAt, a.id) = true :=
      List.pairwise_mergeSort
        (fun a b c hab hbc => olderOrEqual_trans (c.createdAt, c.id) (b.createdAt, b.id)
          (a.createdAt, a.id) hbc hab)
        (fun a b => olderOrEqual_total (b.createdAt, b.id) (a.createdAt, a.id)) _
    refine (hsorted.and (List.pairwise_map.1 hnodup)).imp fun {a b} hab => ?_
    obtain ⟨hle, hne⟩ := hab
    rcases (olderOrEqual_iff _ _).1 hle with hlt | ⟨heq, hle⟩
    · exact .inl hlt
    · have hvalue : b.id.value ≠ a.id.value := fun hvalue => hne (eq_of_value_eq hvalue.symm)
      exact .inr ⟨congrArg Instant.mk heq, Nat.lt_of_le_of_ne hle hvalue⟩

theorem not_after_of_after {a b : InAppNotification} (h : After a b) : ¬ After b a := by
  rintro (hlt | ⟨heq, hlt⟩)
  · rcases h with hlt' | ⟨heq', -⟩
    · exact absurd hlt' (Int.not_lt.2 (Int.le_of_lt hlt))
    · rw [heq'] at hlt
      exact Int.lt_irrefl _ hlt
  · rcases h with hlt' | ⟨-, hlt'⟩
    · rw [heq] at hlt'
      exact Int.lt_irrefl _ hlt'
    · exact Nat.lt_asymm hlt hlt'

/-- Only one list of the same notifications is in this order. -/
theorem eq_of_perm (h : ns.Pairwise After) (h' : ns'.Pairwise After) (hperm : ns.Perm ns') :
    ns = ns' :=
  hperm.eq_of_pairwise (fun _ _ _ _ hab hba => absurd hba (not_after_of_after hab)) h h'

/-- There is only one such list. -/
theorem Listing.unique (h : s.Listing userId ns) (h' : s.Listing userId ns') : ns = ns' := by
  have hperm : ns.Perm ns' :=
    (List.perm_ext_iff_of_nodup (List.Nodup.of_map _ h.nodup) (List.Nodup.of_map _ h'.nodup)).2
      fun n => (h.mem_iff n).trans (h'.mem_iff n).symm
  exact eq_of_perm h.ordered h'.ordered hperm

theorem Proper.of_perm (h : s.Proper) (hperm : s'.entries.Perm s.entries) : s'.Proper where
  distinct := (hperm.map _).nodup_iff.2 h.distinct
  keyedBy _ he := h.keyedBy _ (hperm.mem_iff.1 he)

/-- In whichever order a store lists what it keeps, pages have it in the same order. -/
theorem Proper.ofUser_eq_of_perm (h : s.Proper) (hperm : s'.entries.Perm s.entries)
    (userId : Uuid) : s'.ofUser userId = s.ofUser userId := by
  have hvalues : (s'.ofUser userId).Perm (s.ofUser userId) :=
    ofUser_perm.trans (((hperm.map _).filter _).trans ofUser_perm.symm)
  exact eq_of_perm ((h.of_perm hperm).listing_ofUser userId).ordered
    (h.listing_ofUser userId).ordered hvalues

end Store

/-! ### Surroundings -/

/-- Surroundings that keep notifications in memory. -/
structure Shelf (σ : Type) where
  /-- Whatever others know, the time among it. -/
  rest : σ
  notifications : Store

variable {σ : Type} (others : (q : Request) → σ → q.Answer × σ)

/-- Answers a question. What is done to the notifications is done at the time that others say. -/
def answer : (q : Request) → Shelf σ → q.Answer × Shelf σ
  | .inbox op, b =>
    let (now, rest) := others .clock b.rest
    let (a, notifications) := b.notifications.perform now op
    (a, ⟨rest, notifications⟩)
  | q, b =>
    let (a, rest) := others q b.rest
    (a, { b with rest := rest })

/-! ### Page by page -/

variable {userId : Uuid} {size : Nat} {b b' : Shelf σ} {ns : List InAppNotification}

/-- A page that is not empty and not too long is a part of all notifications of a user. -/
theorem run_list (hpos : 1 ≤ size) (hmax : size ≤ maxPageSize) (userId : Uuid) (offset : Nat)
    (b : Shelf σ) :
    (list userId size offset).run (answer others) b =
      (.ok (((b.notifications.ofUser userId).drop offset).take size),
        ⟨(others .clock b.rest).2, b.notifications⟩) := by
  rw [list, if_neg (Nat.ne_of_gt hpos), Nat.min_eq_left hmax]
  rfl

/-- Reading a user's pages of a size from the one with the given number on, until one is empty:
    what is read, and the surroundings in the end. -/
inductive ReadsOn (userId : Uuid) (size : Nat) :
    Nat → Shelf σ → List InAppNotification → Shelf σ → Prop
  | done {k : Nat} {b b' : Shelf σ}
      (h : (list userId size (k * size)).run (answer others) b = (.ok [], b')) :
      ReadsOn userId size k b [] b'
  | next {k : Nat} {b b' b'' : Shelf σ} {page ns : List InAppNotification} (hpage : page ≠ [])
      (h : (list userId size (k * size)).run (answer others) b = (.ok page, b'))
      (hrest : ReadsOn userId size (k + 1) b' ns b'') :
      ReadsOn userId size k b (page ++ ns) b''

/-- What is read from a page on is what is left of all notifications. -/
theorem ReadsOn.eq_drop (hpos : 1 ≤ size) (hmax : size ≤ maxPageSize) {k : Nat}
    (h : ReadsOn others userId size k b ns b') :
    ns = (b.notifications.ofUser userId).drop (k * size) := by
  induction h with
  | done h =>
    rw [run_list others hpos hmax, Prod.mk.injEq, Except.ok.injEq] at h
    have hlength := congrArg List.length h.1
    rw [List.length_take, List.length_nil] at hlength
    exact (List.length_eq_zero_iff.1 (by omega)).symm
  | @next k b b' b'' page ns hpage h hrest ih =>
    rw [run_list others hpos hmax, Prod.mk.injEq, Except.ok.injEq] at h
    obtain ⟨rfl, rfl⟩ := h
    rw [ih, Nat.add_mul, Nat.one_mul, ← List.drop_drop, List.take_append_drop]

/-- Page by page, one comes to an empty page. -/
theorem exists_readsOn (hpos : 1 ≤ size) (hmax : size ≤ maxPageSize) (k : Nat) (b : Shelf σ) :
    ∃ b', ReadsOn others userId size k b ((b.notifications.ofUser userId).drop (k * size)) b' ∧
      b'.notifications = b.notifications := by
  generalize hleft : ((b.notifications.ofUser userId).drop (k * size)).length = left
  induction left using Nat.strongRecOn generalizing k b with
  | _ left ih =>
    subst hleft
    have hrun := run_list others hpos hmax userId (k * size) b
    by_cases hempty : (b.notifications.ofUser userId).drop (k * size) = []
    · rw [hempty, List.take_nil] at hrun
      rw [hempty]
      exact ⟨_, .done hrun, rfl⟩
    · have hnext : ((b.notifications.ofUser userId).drop ((k + 1) * size)).length <
          ((b.notifications.ofUser userId).drop (k * size)).length := by
        have hlength := List.length_pos_iff.2 hempty
        rw [List.length_drop] at hlength
        rw [List.length_drop, List.length_drop, Nat.add_mul]
        omega
      have hpage : ((b.notifications.ofUser userId).drop (k * size)).take size ≠ [] := by
        rw [Ne, List.take_eq_nil_iff, not_or]
        exact ⟨Nat.ne_of_gt hpos, hempty⟩
      obtain ⟨b', hreads, hkept⟩ :=
        ih _ hnext (k + 1) ⟨(others .clock b.rest).2, b.notifications⟩ rfl
      have hpages := ReadsOn.next hpage hrun hreads
      rw [Nat.add_mul, Nat.one_mul, ← List.drop_drop, List.take_append_drop] at hpages
      exact ⟨b', hpages, hkept⟩

/-- **Pages are exhaustive and exact.** Whatever has been done to the notifications: there is one
    list of all notifications of a user, each once, the newest first, and for every size of the
    pages that is what is read page by page until a page is empty. In which order the store lists
    the notifications makes no difference for any page. -/
theorem listing_pages (ops : List (Instant × Op)) (rest : σ) (userId : Uuid) :
    let b : Shelf σ := ⟨rest, Store.performAll .empty ops⟩
    ∃ ns, b.notifications.Listing userId ns ∧
      (∀ ns', b.notifications.Listing userId ns' → ns' = ns) ∧
      (∀ size, 1 ≤ size → size ≤ 100 →
        (∃ b', ReadsOn others userId size 0 b ns b' ∧ b'.notifications = b.notifications) ∧
          ∀ ns' b', ReadsOn others userId size 0 b ns' b' → ns' = ns) ∧
      ∀ s : Store, s.entries.Perm b.notifications.entries →
        ∀ limit offset, s.page userId limit offset = b.notifications.page userId limit offset := by
  intro b
  have hproper : b.notifications.Proper := Store.proper_empty.performAll ops
  have hlisting := hproper.listing_ofUser userId
  refine ⟨_, hlisting, fun _ h => h.unique hlisting, fun size hpos hmax => ⟨?ends, ?unique⟩, ?_⟩
  case ends =>
    simpa using exists_readsOn others hpos hmax 0 b
  case unique =>
    intro ns' b' h
    simpa using h.eq_drop others hpos hmax
  intro s hperm limit offset
  rw [Store.page_eq, Store.page_eq, hproper.ofUser_eq_of_perm hperm]

section Crowd

/-- A notification for the first user or the second. -/
def notice (id user : Nat) (createdAt : Int) : InAppNotification :=
  ⟨Uuid.nth id, Uuid.nth user, "system", "Welcome", "", .empty, none, none, false, none,
    ⟨createdAt⟩⟩

/-- Three notifications for the first user, two of them of the same age, and one for the second. -/
def crowd : List (Instant × Op) :=
  [(⟨0⟩, .store (notice 2 0 20)), (⟨0⟩, .store (notice 4 1 30)), (⟨0⟩, .store (notice 1 0 20)),
    (⟨0⟩, .store (notice 3 0 10))]

/-- They are read in two pages of two or in three pages of one, of the same age those with the
    greater identifiers first. -/
theorem listing_pages_crowd :
    let b : Shelf Nat := ⟨0, Store.performAll .empty crowd⟩
    let ns := [notice 2 0 20, notice 1 0 20, notice 3 0 10]
    (∃ b', ReadsOn Tokens.hourly (Uuid.nth 0) 2 0 b ns b') ∧
      ∃ b', ReadsOn Tokens.hourly (Uuid.nth 0) 1 0 b ns b' := by
  intro b ns
  obtain ⟨ns', hlisting, hunique, hsizes, -⟩ := listing_pages Tokens.hourly crowd 0 (Uuid.nth 0)
  obtain ⟨⟨b', hreads, -⟩, -⟩ := hsizes 2 (by decide) (by decide)
  obtain ⟨⟨b'', hreads', -⟩, -⟩ := hsizes 1 (by decide) (by decide)
  have hns : ns' = ns := by
    have hproper : b.notifications.Proper := Store.proper_empty.performAll crowd
    have hkept : (b.notifications.values.filter fun n => n.userId = Uuid.nth 0) = ns := by
      decide +kernel
    have hperm : (b.notifications.ofUser (Uuid.nth 0)).Perm ns := hkept ▸ Store.ofUser_perm
    rw [hunique _ (hproper.listing_ofUser _)] at hperm
    exact Store.eq_of_perm hlisting.ordered (by decide +kernel) hperm
  subst hns
  exact ⟨⟨b', hreads⟩, b'', hreads'⟩

end Crowd

end Courier.Notification.Inbox
