import Courier.Notification.Notifier

/-!
# The bureau

The notification service at work: one thing after the other is asked of it, in surroundings that
keep notifications and delivery logs in memory, record what is handed to the senders, and leave
everything else to someone else, who knows preferences, push tokens and providers.

* `Call`, `Call.perform`: what is asked of the service.
* `Supply`: the identifiers and times that are given, and what comes of writing delivery logs.
* `Bureau`, `answer`: the surroundings.
* `run_logAttempt`: what the logging of an attempt does.
-/

namespace Courier

namespace Table

variable {κ α : Type} [DecidableEq κ]

/-- Puts values into a table one after the other, each under its own key. -/
def insertAll (key : α → κ) (t : Table κ α) (as : List α) : Table κ α :=
  as.foldl (fun t a => t.insert (key a) a) t

theorem insertAll_concat (key : α → κ) (t : Table κ α) (as : List α) (a : α) :
    t.insertAll key (as ++ [a]) = (t.insertAll key as).insert (key a) a :=
  List.foldl_append

/-- Values with different new keys come last, in the order in which they are put into a table. -/
theorem values_insertAll {key : α → κ} {t : Table κ α} {as : List α}
    (hnodup : (as.map key).Nodup) (hnew : ∀ a ∈ as, t.get? (key a) = none) :
    (t.insertAll key as).values = t.values ++ as := by
  induction as generalizing t with
  | nil => exact (List.append_nil _).symm
  | cons a as ih =>
    obtain ⟨hne, hnodup⟩ := List.nodup_cons.1 hnodup
    obtain ⟨ha, has⟩ := List.forall_mem_cons.1 hnew
    have hnew' : ∀ x ∈ as, (t.insert (key a) a).get? (key x) = none := by
      intro x hx
      have hkey : key a ≠ key x := fun heq => hne (heq ▸ List.mem_map_of_mem hx)
      rw [get?_insert, if_neg hkey, has x hx]
    change ((t.insert (key a) a).insertAll key as).values = _
    rw [ih hnodup hnew', values_insert ha, List.append_assoc]
    rfl

end Table

namespace Notification

/-! ### Calls -/

/-- Something that is asked of the service. -/
inductive Call
  | sendInApp (m : InAppMessage)
  | sendPush (m : PushMessage)
  | sendEmail (m : EmailMessage)
  | sendSms (m : SmsMessage)
  /-- To have an event handled by the handler of completed translations. -/
  | announce (e : BusEvent)
  /-- To have an event handled by the handler of new users. -/
  | greet (e : BusEvent)

/-- What comes back. -/
inductive Reply
  | inApp (result : Except ServiceError (Option InAppNotification))
  | push (result : Except ServiceError PushReport)
  | sent (result : Except ServiceError Unit)
  | handled (result : Except DeliveryError Unit)

/-- Does what is asked. -/
def Call.perform (s : Service) : Call → Action Reply
  | sendInApp m => do return .inApp (← Service.sendInApp m)
  | sendPush m => do return .push (← s.sendPush m)
  | sendEmail m => do return .sent (← s.sendEmail m)
  | sendSms m => do return .sent (← s.sendSms m)
  | announce e => do return .handled (← Notifier.translation.handle e)
  | greet e => do return .handled (← (Notifier.welcome s).handle e)

/-- Does one thing after the other. -/
def performAll (s : Service) (calls : List Call) : Action (List Reply) :=
  calls.mapM (Call.perform s)

/-- The notification without what was made up for it: its identifier and its time. -/
def InAppNotification.anonymous (n : InAppNotification) : InAppNotification :=
  { n with id := default, createdAt := default }

/-- The reply without what was made up for it. -/
def Reply.anonymous : Reply → Reply
  | inApp result => .inApp (result.map (Option.map InAppNotification.anonymous))
  | reply => reply

/-! ### Surroundings -/

/-- Something that has been handed to a sender, with what has come of it. -/
inductive Sending
  | email (m : EmailMessage) (outcome : Except ServiceError (Option String))
  | sms (m : SmsMessage) (outcome : Except ServiceError (Option String))
  | push (m : PushMessage) (tokens : List String) (outcome : Except ServiceError PushReport)

/-- What is supplied to the service from outside, in the order in which it is asked for. -/
structure Supply where
  ids : Nat → Uuid
  clock : Nat → Instant
  /-- The error of a call of the store of delivery logs, if it fails. -/
  writes : Nat → Option ServiceError

/-- Surroundings of the service. -/
structure Bureau (σ : Type) where
  /-- The preferences, the push tokens, and whatever else others know. -/
  rest : σ
  inbox : Inbox.Store
  logs : Logs.Store
  /-- What has been handed to senders. -/
  sendings : List Sending
  /-- What has been reported to the log. -/
  notices : List Notice
  /-- How many identifiers have been given out. -/
  ids : Nat
  /-- How often the clock has been read. -/
  readings : Nat
  /-- How often the store of delivery logs has been called. -/
  writes : Nat

variable {σ : Type}

/-- The surroundings before anything is asked of the service. -/
def Bureau.opened (rest : σ) (inbox : Inbox.Store) (logs : Logs.Store) : Bureau σ :=
  ⟨rest, inbox, logs, [], [], 0, 0, 0⟩

/-- Puts a notification into the inbox, if that can be done. -/
def Bureau.receive (b : Bureau σ) (n : InAppNotification) :
    Except ServiceError Unit × σ → Except ServiceError Unit × Bureau σ
  | (.error error, rest) => (.error error, { b with rest := rest })
  | (.ok _, rest) => (.ok (), { b with rest := rest, inbox := b.inbox.insert n.id n })

/-- Answers a question. Others say what comes of handing something to a sender, and whether a
    notification can be stored, but they learn nothing that was made up for it. -/
def answer (S : Supply) (others : (q : Request) → σ → q.Answer × σ) :
    (q : Request) → Bureau σ → q.Answer × Bureau σ
  | .clock, b => (S.clock b.readings, { b with readings := b.readings + 1 })
  | .freshId, b => (S.ids b.ids, { b with ids := b.ids + 1 })
  | .note notice, b => ((), { b with notices := b.notices ++ [notice] })
  | .logs op, b =>
    match S.writes b.writes with
    | some error => (.error error, { b with writes := b.writes + 1 })
    | none =>
      let (a, logs) := b.logs.perform op
      (a, { b with logs := logs, writes := b.writes + 1 })
  | .inbox (.store n), b => b.receive n (others (.inbox (.store n.anonymous)) b.rest)
  | .sendEmail m, b =>
    let (outcome, rest) := others (.sendEmail m) b.rest
    (outcome, { b with rest := rest, sendings := b.sendings ++ [.email m outcome] })
  | .sendSms m, b =>
    let (outcome, rest) := others (.sendSms m) b.rest
    (outcome, { b with rest := rest, sendings := b.sendings ++ [.sms m outcome] })
  | .sendPush m tokens, b =>
    let (outcome, rest) := others (.sendPush m tokens) b.rest
    (outcome, { b with rest := rest, sendings := b.sendings ++ [.push m tokens outcome] })
  | q, b =>
    let (a, rest) := others q b.rest
    (a, { b with rest := rest })

/-! ### Logging -/

variable (S : Supply) (others : (q : Request) → σ → q.Answer × σ)

/-- Writes a delivery log, or reports that it could not be written. -/
def Bureau.file (b : Bureau σ) (l : DeliveryLog) : Bureau σ :=
  match S.writes b.writes with
  | none => { b with logs := b.logs.insert l.id l, writes := b.writes + 1 }
  | some error => { b with
      notices := b.notices ++ [.bestEffortFailed "store delivery log" error.text]
      writes := b.writes + 1 }

section File

variable (b : Bureau σ) (l : DeliveryLog)

@[simp]
theorem Bureau.file_rest : (b.file S l).rest = b.rest := by
  rw [file]
  split
  · rfl
  · rfl

@[simp]
theorem Bureau.file_sendings : (b.file S l).sendings = b.sendings := by
  rw [file]
  split
  · rfl
  · rfl

@[simp]
theorem Bureau.file_inbox : (b.file S l).inbox = b.inbox := by
  rw [file]
  split
  · rfl
  · rfl

end File

/-- The logging of an attempt takes an identifier and a time, and writes a log of them or reports
    that it could not be written. -/
theorem run_logAttempt (b : Bureau σ) (userId : Uuid) (channel : Channel)
    (status : DeliveryStatus) (provider : String) (messageId error : Option String) :
    (logAttempt userId channel status provider messageId error).run (answer S others) b =
      ((), { b with ids := b.ids + 1, readings := b.readings + 1 }.file S
        (.attempt (S.ids b.ids) (S.clock b.readings) userId channel status provider messageId
          error)) := by
  rw [Bureau.file]
  change (writeLog _).run (answer S others) _ = _
  rw [writeLog, bestEffort, Program.run_bind]
  rcases hw : S.writes b.writes with - | error
  · simp [ask, Program.request, Program.run, answer, hw, Logs.Store.perform]
  · simp [ask, Program.request, Program.run, answer, hw, note, HasLog.note]

end Notification

end Courier
