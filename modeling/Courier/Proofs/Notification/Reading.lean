import Courier.Proofs.Notification.Paging
import Courier.Proofs.Notification.Redelivery

/-!
# What has been read

Notifications are created, sent, and marked as read one by one or all at once, by any users in any
order. A notification is marked as read once: it keeps the time of its first reading, and is not
unread again. So the unread notifications of a user are counted right at any time, and each way of
marking lowers the count by what it has marked.

* `Call`, `after`: what is done to notifications, one call after the other.
* `AllNew`: what is created is new, under an identifier of its own.
* `Store.Tracked`, `Store.Tracked.perform`: a notification is read if it has been read at some time,
  and every operation keeps it so.
* `Store.get?_perform_of_read`: what has been read stays as it is.
* `Store.length_unread_insert`: how marking one notification changes the counts.
* `after_tracked`: what can be told of the counts, after any calls.
-/

namespace Courier.Notification.Inbox

/-! ### Calls -/

/-- Something that is done to notifications. -/
inductive Call
  | create (n : InAppNotification)
  | sendInApp (m : InAppMessage)
  | markRead (id : Uuid)
  | markAllRead (userId : Uuid)

/-- What comes back if it can be done. -/
abbrev Call.Answer : Call → Type
  | create _ | markRead _ => Unit
  | sendInApp _ => Option InAppNotification
  | markAllRead _ => Nat

/-- Does it. -/
def Call.perform : (c : Call) → Action (Except ServiceError c.Answer)
  | create n => Inbox.create n
  | sendInApp m => Service.sendInApp m
  | markRead id => Inbox.markRead id
  | markAllRead userId => Inbox.markAllRead userId

variable {σ : Type} (others : (q : Request) → σ → q.Answer × σ)

/-- The surroundings after one call after the other. -/
def after (b : Shelf σ) (calls : List Call) : Shelf σ :=
  calls.foldl (fun b c => (c.perform.run (answer others) b).2) b

/-- Nothing is kept yet under the identifier of a notification that is created or sent, and one that
    is created is read if it has been read at some time. -/
def Call.IsNew (b : Shelf σ) : Call → Prop
  | create n => b.notifications.get? n.id = none ∧ n.read = n.readAt.isSome
  | sendInApp m => ∀ id ∈ givenBy ((Service.sendInApp m).transcript (answer others) b),
      b.notifications.get? id = none
  | markRead _ | markAllRead _ => True

/-- So it is with one call after the other. -/
def AllNew (b : Shelf σ) : List Call → Prop
  | [] => True
  | c :: calls => c.IsNew others b ∧ AllNew (c.perform.run (answer others) b).2 calls

instance (b : Shelf σ) : (c : Call) → Decidable (c.IsNew others b)
  | .create _ => inferInstanceAs (Decidable (_ ∧ _))
  | .sendInApp _ => inferInstanceAs (Decidable (∀ _ ∈ _, _))
  | .markRead _ | .markAllRead _ => inferInstanceAs (Decidable True)

instance decidableAllNew : (b : Shelf σ) → (calls : List Call) → Decidable (AllNew others b calls)
  | _, [] => inferInstanceAs (Decidable True)
  | b, c :: calls =>
    have := decidableAllNew (c.perform.run (answer others) b).2 calls
    inferInstanceAs (Decidable (_ ∧ _))

/-! ### What is kept -/

/-- Nothing is kept yet under the identifier of a notification that is stored, which is read if it
    has been read at some time. -/
def Op.IsNew (s : Store) : Op → Prop
  | .store n => s.get? n.id = none ∧ n.read = n.readAt.isSome
  | _ => True

theorem markRead_of_read {n : InAppNotification} (h : n.read = true) (now : Instant) :
    n.markRead now = n :=
  if_pos h

theorem markRead_of_unread {n : InAppNotification} (h : n.read = false) (now : Instant) :
    n.markRead now = { n with read := true, readAt := some now } :=
  if_neg (Bool.eq_false_iff.1 h)

theorem read_markRead (n : InAppNotification) (now : Instant) : (n.markRead now).read = true := by
  rcases h : n.read with - | -
  · rw [markRead_of_unread h]
  · rw [markRead_of_read h, h]

theorem userId_markRead (n : InAppNotification) (now : Instant) :
    (n.markRead now).userId = n.userId := by
  rcases h : n.read with - | -
  · rw [markRead_of_unread h]
  · rw [markRead_of_read h]

namespace Store

variable {s : Store} {id : Uuid} {n : InAppNotification} {now : Instant} {op : Op}

/-- Every notification is kept under its own identifier, and is read if it has been read at some
    time. -/
structure Tracked (s : Store) : Prop where
  proper : s.Proper
  stamped : ∀ id n, s.get? id = some n → n.read = n.readAt.isSome

theorem tracked_empty : Tracked .empty := ⟨proper_empty, fun _ _ h => nomatch h⟩

theorem stamped_markRead (h : n.read = n.readAt.isSome) (now : Instant) :
    (n.markRead now).read = (n.markRead now).readAt.isSome := by
  rcases hread : n.read with - | -
  · rw [markRead_of_unread hread]
    rfl
  · rw [markRead_of_read hread, h]

/-- What an operation stores is new, and what it marks is marked with a time. -/
theorem Tracked.perform (h : s.Tracked) (now : Instant) (hop : op.IsNew s) :
    (perform now op s).2.Tracked := by
  refine ⟨h.proper.perform now op, fun id n hget => ?_⟩
  cases op with
  | store n' =>
    rw [Store.perform, Table.get?_insert] at hget
    split at hget
    · exact Option.some.inj hget ▸ hop.2
    · exact h.stamped id n hget
  | findById _ => exact h.stamped id n hget
  | findByUser _ _ _ => exact h.stamped id n hget
  | markRead id' =>
    rw [Store.perform] at hget
    rcases hget' : s.get? id' with - | n'
    · rw [hget'] at hget
      exact h.stamped id n hget
    · rw [hget', Table.get?_insert] at hget
      split at hget
      · exact Option.some.inj hget ▸ stamped_markRead (h.stamped id' n' hget') now
      · exact h.stamped id n hget
  | markAllRead userId =>
    rw [Store.perform, Table.get?_map, Option.map_eq_some_iff] at hget
    obtain ⟨n', hget', rfl⟩ := hget
    split
    · exact stamped_markRead (h.stamped id n' hget') now
    · exact h.stamped id n' hget'
  | unreadCount _ => exact h.stamped id n hget

/-- What has been read stays as it is. -/
theorem get?_perform_of_read (hop : op.IsNew s) (hget : s.get? id = some n)
    (hread : n.read = true) : (perform now op s).2.get? id = some n := by
  cases op with
  | store n' =>
    have hne : n'.id ≠ id := fun heq => nomatch (heq ▸ hop.1).symm.trans hget
    rw [Store.perform, Table.get?_insert, if_neg hne, hget]
  | findById _ => exact hget
  | findByUser _ _ _ => exact hget
  | markRead id' =>
    rw [Store.perform]
    rcases hget' : s.get? id' with - | n'
    · exact hget
    · rw [Table.get?_insert]
      split
      next heq =>
        obtain rfl : n' = n := Option.some.inj (hget'.symm.trans (heq ▸ hget))
        rw [markRead_of_read hread]
      next => exact hget
  | markAllRead userId =>
    rw [Store.perform, Table.get?_map, hget, Option.map_some, markRead_of_read hread, ite_self]
  | unreadCount _ => exact hget

/-! ### Counts -/

theorem length_unread (s : Store) (userId : Uuid) :
    (s.unread userId).length = s.values.countP fun n => n.userId = userId && !n.read :=
  List.countP_eq_length_filter.symm

/-- The unread notifications of a user are those of the user that are unread. -/
theorem length_unread_eq (s : Store) (userId : Uuid) :
    (s.unread userId).length = (s.ofUser userId).countP fun n => !n.read := by
  rw [ofUser_perm.countP_eq, List.countP_filter, length_unread]
  exact List.countP_congr fun n _ => by simp [and_comm]

/-- Marking a notification lowers the count of its owner if it was unread, and no other count. -/
theorem length_unread_insert (hget : s.get? id = some n) (now : Instant) (userId : Uuid) :
    (s.unread userId).length = (unread (s.insert id (n.markRead now)) userId).length +
      if n.userId = userId ∧ n.read = false then 1 else 0 := by
  have hcount := Table.countP_values_insert hget (n.markRead now)
    fun n => n.userId = userId && !n.read
  simp only [List.countP_singleton, read_markRead, userId_markRead] at hcount
  rw [length_unread, length_unread]
  simpa using hcount.symm

/-- Marking all notifications of a user marks those that are unread. -/
theorem get?_markAllRead (s : Store) (now : Instant) (userId id : Uuid) :
    (perform now (.markAllRead userId) s).2.get? id = (s.get? id).map fun n =>
      if n.userId = userId ∧ n.read = false then { n with read := true, readAt := some now }
      else n := by
  refine (Table.get?_map _ _ id).trans (congrArg (Option.map · _) (funext fun n => ?_))
  rcases hread : n.read with - | -
  · simp [markRead_of_unread hread]
  · simp [markRead_of_read hread]

/-- When all notifications of a user have been marked, none is unread. -/
theorem unread_markAllRead (s : Store) (now : Instant) (userId : Uuid) :
    (perform now (.markAllRead userId) s).2.unread userId = [] := by
  rw [unread, List.filter_eq_nil_iff]
  intro n hn
  obtain ⟨e, he, rfl⟩ := List.mem_map.1 hn
  obtain ⟨e', -, rfl⟩ := List.mem_map.1 he
  dsimp only
  split
  next => simp [read_markRead]
  next huser => simp [huser]

end Store

/-! ### One call after the other -/

variable {others} {b : Shelf σ} {c : Call}

variable (others) in
theorem notifications_isDisabled (userId : Uuid) (channel : Channel) (b : Shelf σ) :
    ((Service.isDisabled userId channel).run (answer others) b).2.notifications =
      b.notifications := by
  change (Program.run _ (Service.preferencesOf userId >>= fun p => .done _) b).2.notifications = _
  rw [Program.run_bind]
  simp only [Service.preferencesOf, ask, Program.request_bind, Program.run, answer]
  rcases others (.preferences (.get userId)) b.rest with ⟨error | p, rest⟩
  · rfl
  · rfl

theorem run_markRead {id : Uuid} {n : InAppNotification} (h : b.notifications.get? id = some n) :
    (markRead id).run (answer others) b = (.ok (), ⟨(others .clock b.rest).2,
      b.notifications.insert id (n.markRead (others .clock b.rest).1)⟩) := by
  simp only [markRead, ask, Program.request, Program.run, answer, Store.perform, h]

theorem run_markRead_missing {id : Uuid} (h : b.notifications.get? id = none) :
    (markRead id).run (answer others) b =
      (.error (missing id), ⟨(others .clock b.rest).2, b.notifications⟩) := by
  simp only [markRead, ask, Program.request, Program.run, answer, Store.perform, h]

/-- A call does one thing to the notifications, or nothing. -/
theorem Call.IsNew.perform (h : c.IsNew others b) :
    (c.perform.run (answer others) b).2.notifications = b.notifications ∨
      ∃ now op, op.IsNew b.notifications ∧
        (c.perform.run (answer others) b).2.notifications =
          (Store.perform now op b.notifications).2 := by
  cases c with
  | create n =>
    rw [Call.perform, Inbox.create]
    split
    · exact .inl rfl
    · exact .inr ⟨(others .clock b.rest).1, .store n, h, rfl⟩
  | sendInApp m =>
    have hkept := notifications_isDisabled others m.userId .inApp b
    have hfresh : ∀ id ∈ givenBy ((Service.sendInApp m).transcript (answer others) b),
        b.notifications.get? id = none := h
    rw [Service.sendInApp, Program.transcript_bind, givenBy_append] at hfresh
    rw [Call.perform, Service.sendInApp, Program.run_bind]
    generalize (Service.isDisabled m.userId .inApp).run (answer others) b = r at hkept hfresh ⊢
    rcases r with ⟨- | -, b'⟩
    · -- The first thing that is asked for then is the identifier of the notification.
      have hid := hfresh (others .freshId b'.rest).1 (List.mem_append_right _ List.mem_cons_self)
      let n := m.notification (others .freshId b'.rest).1
        (others .clock (others .freshId b'.rest).2).1
      refine .inr ⟨default, .store n, ⟨hid, rfl⟩, ?_⟩
      rw [← hkept]
      rfl
    · exact .inl hkept
  | markRead id => exact .inr ⟨(others .clock b.rest).1, .markRead id, trivial, rfl⟩
  | markAllRead userId => exact .inr ⟨(others .clock b.rest).1, .markAllRead userId, trivial, rfl⟩

/-- After any calls, notifications are as they should be, and what had been read before is as it
    was. -/
theorem AllNew.after {calls : List Call} (h : AllNew others b calls)
    (htracked : b.notifications.Tracked) :
    (after others b calls).notifications.Tracked ∧
      ∀ id n, b.notifications.get? id = some n → n.read = true →
        (after others b calls).notifications.get? id = some n := by
  induction calls generalizing b with
  | nil => exact ⟨htracked, fun _ _ hget _ => hget⟩
  | cons c calls ih =>
    obtain ⟨hnew, hrest⟩ := h
    rcases hnew.perform with heq | ⟨now, op, hop, heq⟩
    · obtain ⟨htracked', hkeeps⟩ := ih hrest (heq ▸ htracked)
      exact ⟨htracked', fun id n hget => hkeeps id n (heq ▸ hget)⟩
    · obtain ⟨htracked', hkeeps⟩ := ih hrest (heq ▸ htracked.perform now hop)
      refine ⟨htracked', fun id n hget hread => hkeeps id n ?_ hread⟩
      rw [heq]
      exact Store.get?_perform_of_read hop hget hread

variable (others)

/-- What comes of asking how many notifications a user has not read. -/
def Shelf.unread (b : Shelf σ) (userId : Uuid) : Except ServiceError Nat :=
  ((unreadCount userId).run (answer others) b).1

theorem Shelf.unread_eq (b : Shelf σ) (userId : Uuid) :
    b.unread others userId = .ok (b.notifications.unread userId).length :=
  rfl

/-- **Reading is tracked.** Whatever calls have been made: a user has as many unread notifications
    as is said, a notification is read exactly if it has a time of reading, and one that is read
    stays as it is whatever calls follow. Marking all notifications of a user says how many were
    unread, marks these with one time, and leaves none. Marking a single one that is kept lowers the
    count of its owner by one exactly if it was unread, and marking any other changes nothing. -/
theorem after_tracked (calls : List Call) (rest : σ) (hnew : AllNew others ⟨rest, .empty⟩ calls) :
    let b := after others ⟨rest, .empty⟩ calls
    (∀ userId, ∃ ns, b.notifications.Listing userId ns ∧
      b.unread others userId = .ok (ns.countP fun n => !n.read)) ∧
    (∀ id n, b.notifications.get? id = some n → (n.read = true ↔ n.readAt.isSome = true)) ∧
    (∀ calls', AllNew others b calls' → ∀ id n, b.notifications.get? id = some n → n.read = true →
      (after others b calls').notifications.get? id = some n) ∧
    (∀ userId, ∃ count now b', (markAllRead userId).run (answer others) b = (.ok count, b') ∧
      b.unread others userId = .ok count ∧ b'.unread others userId = .ok 0 ∧
      ∀ id, b'.notifications.get? id = (b.notifications.get? id).map fun n =>
        if n.userId = userId ∧ n.read = false then { n with read := true, readAt := some now }
        else n) ∧
    (∀ id n, b.notifications.get? id = some n →
      ∃ now b', (markRead id).run (answer others) b = (.ok (), b') ∧
        (∃ count, b'.unread others n.userId = .ok count ∧
          b.unread others n.userId = .ok (if n.read then count else count + 1)) ∧
        (∀ userId ≠ n.userId, b'.unread others userId = b.unread others userId) ∧
        ∀ id', b'.notifications.get? id' =
          if id = id' then some (n.markRead now) else b.notifications.get? id') ∧
    ∀ id, b.notifications.get? id = none →
      ∃ b', (markRead id).run (answer others) b = (.error (missing id), b') ∧
        b'.notifications = b.notifications := by
  intro b
  obtain ⟨htracked, -⟩ := hnew.after Store.tracked_empty
  refine ⟨fun userId => ?counted, fun id n hget => ?stamped, fun calls' hnew' => ?kept,
    fun userId => ?all, fun id n hget => ?one, fun id hget => ?missing⟩
  case counted =>
    refine ⟨_, htracked.proper.listing_ofUser userId, ?_⟩
    rw [Shelf.unread_eq, Store.length_unread_eq]
  case stamped =>
    rw [htracked.stamped id n hget]
  case kept =>
    exact (hnew'.after htracked).2
  case all =>
    have hnone := Store.unread_markAllRead b.notifications (others .clock b.rest).1 userId
    refine ⟨_, _, _, rfl, rfl, ?_, Store.get?_markAllRead _ _ userId⟩
    exact congrArg (fun ns : List InAppNotification => Except.ok ns.length) hnone
  case one =>
    have hcount := Store.length_unread_insert hget (others .clock b.rest).1
    refine ⟨_, _, run_markRead hget, ⟨_, rfl, ?_⟩, fun userId huser => ?_,
      fun id' => Table.get?_insert _ _ _ _⟩
    · rw [Shelf.unread_eq, hcount n.userId]
      rcases n.read with - | -
      · simp
      · simp
    · rw [Shelf.unread_eq, Shelf.unread_eq, hcount userId, if_neg fun h => huser h.1.symm,
        Nat.add_zero]
  case missing =>
    exact ⟨_, run_markRead_missing hget, rfl⟩

section Correspondence

/-- A message to a user. -/
def message (user : Nat) : InAppMessage :=
  ⟨Uuid.nth user, "system", "News", "", .empty, none, none⟩

/-- The first user has a notification that has been read before it came, and three that have not,
    the second user has one. What has no title does not come, and what is not there cannot be
    marked. One of the four is marked twice. -/
def correspondence : List Call :=
  [.create (notice 100 0 20), .create { notice 101 0 30 with read := true, readAt := some ⟨5⟩ },
    .sendInApp (message 0), .sendInApp (message 1), .create { notice 102 0 40 with title := " " },
    .create (notice 103 0 20), .markRead (Uuid.nth 102), .markRead (Uuid.nth 100),
    .markRead (Uuid.nth 100)]

/-- Two notifications of the first user are unread, which is what marking all of them says. -/
theorem after_tracked_correspondence :
    AllNew Tokens.hourly ⟨0, .empty⟩ correspondence ∧
      let b := after Tokens.hourly ⟨0, .empty⟩ correspondence
      b.unread Tokens.hourly (Uuid.nth 0) = .ok 2 ∧
        ∃ b', (markAllRead (Uuid.nth 0)).run (answer Tokens.hourly) b = (.ok 2, b') ∧
          b'.unread Tokens.hourly (Uuid.nth 0) = .ok 0 := by
  have hnew : AllNew Tokens.hourly ⟨0, .empty⟩ correspondence := by decide +kernel
  refine ⟨hnew, ?_⟩
  intro b
  obtain ⟨count, -, b', hrun, hbefore, hafter, -⟩ :=
    (after_tracked Tokens.hourly correspondence 0 hnew).2.2.2.1 (Uuid.nth 0)
  have hcount : count = 2 := by
    have hlength : (b.notifications.unread (Uuid.nth 0)).length = 2 := by decide +kernel
    rw [Shelf.unread_eq, Except.ok.injEq] at hbefore
    exact hbefore.symm.trans hlength
  subst hcount
  exact ⟨hbefore, b', hrun, hafter⟩

end Correspondence

end Courier.Notification.Inbox
