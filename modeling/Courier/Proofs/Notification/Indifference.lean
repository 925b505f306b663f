import Courier.Proofs.Notification.Conduct

/-!
# Logging changes nothing

Whether delivery logs can be written makes no difference to anything else. The service is run twice,
with other identifiers and times and with other errors of the store of delivery logs, and but for
what is made up for them the two runs give the same replies, hand the same to the senders, store the
same notifications and report the same, except that a log could not be written.

* `Bureau.Alike`: surroundings that are the same but for what is made up and for delivery logs.
* `Bureau.Alike.file`: they are so whatever comes of writing a delivery log.
* `steady_alike`: they are so after every kind of step.
* `performAll_indifferent`: all of it, one call after the other.
-/

namespace Courier

/-- Whether it is reported that a call failed which was worth a try. -/
def Notice.isBestEffort : Notice → Bool
  | bestEffortFailed .. => true
  | _ => false

namespace Notification

variable {σ : Type}

/-- Surroundings that are the same but for identifiers, times and delivery logs, if the
    notifications were these to begin with. -/
structure Bureau.Alike (inbox : Inbox.Store) (b b' : Bureau σ) : Prop where
  rest : b.rest = b'.rest
  sendings : b.sendings = b'.sendings
  notices : b.notices.filter (fun n => !n.isBestEffort) =
    b'.notices.filter fun n => !n.isBestEffort
  /-- Notifications that are the same but for identifiers and times have been stored. -/
  inbox : ∃ stored stored' : List InAppNotification,
    stored.map InAppNotification.anonymous = stored'.map InAppNotification.anonymous ∧
      b.inbox = inbox.insertAll (·.id) stored ∧ b'.inbox = inbox.insertAll (·.id) stored'

variable {S S' : Supply} {others : (q : Request) → σ → q.Answer × σ} {inbox : Inbox.Store}

namespace Bureau.Alike

variable {b b' : Bureau σ}

/-- To write a delivery log, or to report that it could not be written, is seen nowhere else. -/
theorem file (h : b.Alike inbox b') (l l' : DeliveryLog) :
    (b.file S l).Alike inbox (b'.file S' l') := by
  have hnotices (S : Supply) (b : Bureau σ) (l : DeliveryLog) :
      (b.file S l).notices.filter (fun n => !n.isBestEffort) =
        b.notices.filter fun n => !n.isBestEffort := by
    rw [Bureau.file]
    split
    · rfl
    · simp [Notice.isBestEffort]
  exact {
    rest := by simp [h.rest]
    sendings := by simp [h.sendings]
    notices := by rw [hnotices, hnotices, h.notices]
    inbox := by simpa using h.inbox }

/-- A notification comes into both inboxes or into neither, if it is the same but for its identifier
    and its time. -/
theorem receive (h : b.Alike inbox b') {n n' : InAppNotification}
    (hn : n.anonymous = n'.anonymous) (outcome : Except ServiceError Unit × σ) :
    (b.receive n outcome).1 = (b'.receive n' outcome).1 ∧
      (b.receive n outcome).2.Alike inbox (b'.receive n' outcome).2 := by
  obtain ⟨stored, stored', hstored, hinbox, hinbox'⟩ := h.inbox
  rcases outcome with ⟨error | -, rest⟩
  · exact ⟨rfl, { h with rest := rfl }⟩
  · refine ⟨rfl, { h with rest := rfl, inbox := ⟨stored ++ [n], stored' ++ [n'], ?_, ?_, ?_⟩ }⟩
    · simp [hstored, hn]
    · rw [Table.insertAll_concat, ← hinbox]
      rfl
    · rw [Table.insertAll_concat, ← hinbox']
      rfl

end Bureau.Alike

theorem passedOn_paired {q : Request} (hq : IsPassedOn others q) :
    Paired S S' others (Bureau.Alike inbox) Eq (ask q) (ask q) := by
  intro b b' h
  change (answer S others q b).1 = (answer S' others q b').1 ∧
    Bureau.Alike inbox (answer S others q b).2 (answer S' others q b').2
  rw [hq, hq, h.rest]
  exact ⟨rfl, { h with rest := rfl }⟩

theorem sending_paired {q : Request} {sending : q.Answer → Sending}
    (hq : IsSending others q sending) :
    Paired S S' others (Bureau.Alike inbox) Eq (ask q) (ask q) := by
  intro b b' h
  change (answer S others q b).1 = (answer S' others q b').1 ∧
    Bureau.Alike inbox (answer S others q b).2 (answer S' others q b').2
  rw [hq, hq, h.rest]
  exact ⟨rfl, { h with rest := rfl, sendings := by rw [h.sendings] }⟩

theorem note_paired (notice : Notice) :
    Paired S S' others (Bureau.Alike inbox) Eq (note notice) (note notice) := by
  intro b b' h
  refine ⟨rfl, { h with notices := ?_ }⟩
  change (b.notices ++ [notice]).filter _ = (b'.notices ++ [notice]).filter _
  rw [List.filter_append, List.filter_append, h.notices]

theorem store_paired {n n' : InAppNotification} (hn : n.anonymous = n'.anonymous) :
    Paired S S' others (Bureau.Alike inbox) (Eq : Except ServiceError Unit → _ → _)
      (ask (.inbox (.store n))) (ask (.inbox (.store n'))) := by
  intro b b' h
  -- Others do not learn what was made up for a notification, so that they answer the same.
  have houtcome : others (.inbox (.store n.anonymous)) b.rest =
      others (.inbox (.store n'.anonymous)) b'.rest := by
    rw [hn, h.rest]
  change (b.receive n (others (.inbox (.store n.anonymous)) b.rest)).1 = _ ∧
    (b.receive n (others (.inbox (.store n.anonymous)) b.rest)).2.Alike inbox _
  rw [houtcome]
  exact h.receive hn _

/-- Whatever comes of logging an attempt, the runs stay alike. -/
theorem log_paired {s : Service} {x : Sending} {log : Action Unit} (hlog : IsLogOf s x log) :
    Paired S S' others (Bureau.Alike inbox) Eq log log := by
  obtain ⟨userId, channel, status, provider, messageId, error, rfl, -⟩ := hlog
  intro b b' h
  rw [run_logAttempt, run_logAttempt]
  refine ⟨rfl, Bureau.Alike.file ?_ _ _⟩
  exact { h with }

/-- Every kind of step leaves the surroundings of two runs alike. -/
theorem steady_alike (s : Service) : Steady S S' others s (Bureau.Alike inbox) where
  passedOn := passedOn_paired
  noted := note_paired
  identified := fun _ _ h => ⟨trivial, { h with }⟩
  timed := fun _ _ h => ⟨trivial, { h with }⟩
  stored := store_paired
  attempted hq _ hlog := by
    refine (sending_paired hq).bind ?_
    rintro a _ rfl
    exact (log_paired (hlog a)).bind fun _ _ _ => .of_done rfl

/-- Whatever is asked of the service, one call after the other: other identifiers, other times and
    other errors of the store of delivery logs make no difference but in what is made up of them and
    in the delivery logs. -/
theorem performAll_indifferent (S S' : Supply) (others : (q : Request) → σ → q.Answer × σ)
    (s : Service) (calls : List Call) (rest : σ) (inbox : Inbox.Store) (logs logs' : Logs.Store) :
    let (replies, b) := (performAll s calls).run (answer S others) (.opened rest inbox logs)
    let (replies', b') := (performAll s calls).run (answer S' others) (.opened rest inbox logs')
    replies.map Reply.anonymous = replies'.map Reply.anonymous ∧ b.Alike inbox b' := by
  obtain ⟨hreplies, halike⟩ := performAll_paired (steady_alike s) calls
    (.opened rest inbox logs) (.opened rest inbox logs') ⟨rfl, rfl, rfl, [], [], rfl, rfl, rfl⟩
  refine ⟨?_, halike⟩
  rw [← List.forall₂_eq_eq_eq, List.forall₂_map_left_iff, List.forall₂_map_right_iff]
  exact hreplies

end Notification

end Courier
