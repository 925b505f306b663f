import Courier.Proofs.Invariance
import Courier.Proofs.Notification.Bureau

/-!
# The conduct of the service

What the service does is made up of few kinds of steps: it asks others something, reports something,
takes an identifier or a time, stores a notification, or hands something to a sender and logs that
attempt at once. Whatever each of these steps keeps is kept by everything that is asked of the
service.

* `Records`: what a delivery log says of an attempt.
* `Steady`: a relation between the surroundings of two runs that is kept by every kind of step.
* `Abreast`: the same of two runs in which others may answer differently, as long as the service
  makes the same of it.
* `perform_paired`: it is kept by everything that is asked of the service, and the two replies are
  the same but for identifiers and times.
-/

namespace Courier.Notification

/-! ### Attempts and their logs -/

/-- The name of the provider of a channel, if it has one. -/
def Service.provider? (s : Service) : Channel → Option String
  | .email => s.email
  | .sms => s.sms
  | .push => s.push
  | .inApp => none

namespace Sending

def userId : Sending → Uuid
  | email m _ => m.userId
  | sms m _ => m.userId
  | push m _ _ => m.userId

def channel : Sending → Channel
  | email _ _ => .email
  | sms _ _ => .sms
  | push _ _ _ => .push

/-- Whether the sender has done what it was to do, for one device at least. -/
def isSent : Sending → Bool
  | email _ (.ok _) | sms _ (.ok _) => true
  | push _ _ (.ok report) => 0 < report.successCount
  | email _ (.error _) | sms _ (.error _) | push _ _ (.error _) => false

/-- The provider's name for what was sent, if it has given one. -/
def messageId? : Sending → Option String
  | email _ (.ok messageId) | sms _ (.ok messageId) => messageId
  | push _ _ (.ok report) => report.providerMessageId
  | email _ (.error _) | sms _ (.error _) | push _ _ (.error _) => none

/-- Whether the sender has failed, or has failed for some device. -/
def hasFailures : Sending → Bool
  | email _ (.ok _) | sms _ (.ok _) => false
  | push _ _ (.ok report) => !report.failures.isEmpty
  | email _ (.error _) | sms _ (.error _) | push _ _ (.error _) => true

/-- What is said of the failures: the text of the error, or the failures of the report. -/
def failureText : Sending → String
  | email _ (.ok _) | sms _ (.ok _) => ""
  | push _ _ (.ok report) =>
    "; ".intercalate (report.failures.map fun f => f.token ++ ": " ++ f.error)
  | email _ (.error error) | sms _ (.error error) | push _ _ (.error error) => error.text

end Sending

/-- What a delivery log says of an attempt to deliver. -/
structure Records (s : Service) (x : Sending) (l : DeliveryLog) : Prop where
  userId : l.userId = x.userId
  channel : l.channel = x.channel
  provider : s.provider? x.channel = some l.provider
  status : l.status = if x.isSent then .sent else .failed
  providerMessageId : l.providerMessageId = x.messageId?
  errorMessage : l.errorMessage = if x.hasFailures then some x.failureText else none
  attempts : l.attempts = 1
  notificationId : l.notificationId = none

/-- The logging of an attempt, with a log that says of it what it should. -/
def IsLogOf (s : Service) (x : Sending) (p : Action Unit) : Prop :=
  ∃ userId channel status provider messageId error,
    p = logAttempt userId channel status provider messageId error ∧
      ∀ id now, Records s x (.attempt id now userId channel status provider messageId error)

section Logs

variable {s : Service} {provider : String}

theorem isLogOf_email (hs : s.email = some provider) (m : EmailMessage)
    (outcome : Except ServiceError (Option String)) :
    IsLogOf s (.email m outcome) (Service.logSending m.userId .email provider outcome) := by
  rcases outcome with error | messageId
  · exact ⟨_, _, _, _, _, _, rfl, fun _ _ => ⟨rfl, rfl, hs, rfl, rfl, rfl, rfl, rfl⟩⟩
  · exact ⟨_, _, _, _, _, _, rfl, fun _ _ => ⟨rfl, rfl, hs, rfl, rfl, rfl, rfl, rfl⟩⟩

theorem isLogOf_sms (hs : s.sms = some provider) (m : SmsMessage)
    (outcome : Except ServiceError (Option String)) :
    IsLogOf s (.sms m outcome) (Service.logSending m.userId .sms provider outcome) := by
  rcases outcome with error | messageId
  · exact ⟨_, _, _, _, _, _, rfl, fun _ _ => ⟨rfl, rfl, hs, rfl, rfl, rfl, rfl, rfl⟩⟩
  · exact ⟨_, _, _, _, _, _, rfl, fun _ _ => ⟨rfl, rfl, hs, rfl, rfl, rfl, rfl, rfl⟩⟩

/-- The log of a push, without what is reported of it. -/
def logPushAttempt (m : PushMessage) (provider : String) :
    Except ServiceError PushReport → Action Unit
  | .error error => logAttempt m.userId .push .failed provider none (some error.text)
  | .ok report =>
    logAttempt m.userId .push (if report.anySucceeded then .sent else .failed) provider
      report.providerMessageId report.failureSummary

/-- What is reported of a push that did not get through to every device. -/
def reportPush (m : PushMessage) : Except ServiceError PushReport → Action Unit
  | .error _ => return
  | .ok report => do
    if 0 < report.failureCount then
      note (.pushPartlyFailed m.userId report.successCount report.failureCount)

/-- A push is logged before anything is reported of it. -/
theorem logPush_eq (m : PushMessage) (provider : String)
    (outcome : Except ServiceError PushReport) :
    Service.logPush m provider outcome =
      logPushAttempt m provider outcome >>= fun _ => reportPush m outcome := by
  rcases outcome with error | report
  · exact (Program.bind_done _).symm
  · rfl

theorem isLogOf_push (hs : s.push = some provider) (m : PushMessage) (tokens : List String)
    (outcome : Except ServiceError PushReport) :
    IsLogOf s (.push m tokens outcome) (logPushAttempt m provider outcome) := by
  rcases outcome with error | report
  · exact ⟨_, _, _, _, _, _, rfl, fun _ _ => ⟨rfl, rfl, hs, rfl, rfl, rfl, rfl, rfl⟩⟩
  · have herror : report.failureSummary = if (Sending.push m tokens (.ok report)).hasFailures
        then some (Sending.push m tokens (.ok report)).failureText else none := by
      rw [PushReport.failureSummary, Sending.hasFailures, Sending.failureText]
      rcases report.failures with - | ⟨failure, failures⟩
      · rfl
      · rfl
    exact ⟨_, _, _, _, _, _, rfl, fun _ _ => ⟨rfl, rfl, hs, rfl, rfl, herror, rfl, rfl⟩⟩

end Logs

/-! ### Steps -/

section Steady

variable {σ : Type}

/-- The question is passed on to others, and nothing is done but what they do. -/
def IsPassedOn (others : (q : Request) → σ → q.Answer × σ) (q : Request) : Prop :=
  ∀ (S : Supply) (b : Bureau σ), answer S others q b =
    ((others q b.rest).1, { b with rest := (others q b.rest).2 })

/-- The question hands something to a sender. -/
def IsSending (others : (q : Request) → σ → q.Answer × σ) (q : Request)
    (sending : q.Answer → Sending) : Prop :=
  ∀ (S : Supply) (b : Bureau σ), answer S others q b = ((others q b.rest).1, { b with
    rest := (others q b.rest).2
    sendings := b.sendings ++ [sending (others q b.rest).1] })

/-- Programs that are run with two supplies, and with the same others. -/
abbrev Paired {α : Type} (S S' : Supply) (others : (q : Request) → σ → q.Answer × σ)
    (alike : Bureau σ → Bureau σ → Prop) (same : α → α → Prop) (p p' : Action α) : Prop :=
  Program.Paired (answer S others) (answer S' others) alike same p p'

/-- To hand something to a sender, and to log that at once. -/
def attempt (q : Request) (log : q.Answer → Action Unit) : Action q.Answer := do
  let a ← ask q
  log a
  return a

/-- The relation between the surroundings of two runs is kept by every kind of step, and what others
    answer is the same in both runs. -/
structure Steady (S S' : Supply) (others : (q : Request) → σ → q.Answer × σ) (s : Service)
    (alike : Bureau σ → Bureau σ → Prop) : Prop where
  passedOn {q : Request} (hq : IsPassedOn others q) :
    Paired S S' others alike Eq (ask q) (ask q)
  noted (notice : Notice) : Paired S S' others alike Eq (note notice) (note notice)
  identified : Paired S S' others alike (fun _ _ => True) (ask .freshId) (ask .freshId)
  timed : Paired S S' others alike (fun _ _ => True) (ask .clock) (ask .clock)
  stored {n n' : InAppNotification} (hn : n.anonymous = n'.anonymous) :
    Paired S S' others alike (Eq : Except ServiceError Unit → _ → _) (ask (.inbox (.store n)))
      (ask (.inbox (.store n')))
  attempted {q : Request} {sending : q.Answer → Sending} (hq : IsSending others q sending)
    {log : q.Answer → Action Unit} (hlog : ∀ a, IsLogOf s (sending a) (log a)) :
    Paired S S' others alike Eq (attempt q log) (attempt q log)

/-- What holds of the surroundings of one run is kept by every kind of step. -/
structure Kept (S : Supply) (others : (q : Request) → σ → q.Answer × σ) (s : Service)
    (holds : Bureau σ → Prop) : Prop where
  passedOn {q : Request} (hq : IsPassedOn others q) : Program.Keeps (answer S others) holds (ask q)
  noted (notice : Notice) : Program.Keeps (answer S others) holds (note notice)
  identified : Program.Keeps (answer S others) holds (ask .freshId)
  timed : Program.Keeps (answer S others) holds (ask .clock)
  stored (n : InAppNotification) : Program.Keeps (answer S others) holds (ask (.inbox (.store n)))
  attempted {q : Request} {sending : q.Answer → Sending} (hq : IsSending others q sending)
    {log : q.Answer → Action Unit} (hlog : ∀ a, IsLogOf s (sending a) (log a)) :
    Program.Keeps (answer S others) holds (attempt q log)

variable {S S' : Supply} {others : (q : Request) → σ → q.Answer × σ} {s : Service}
  {alike : Bureau σ → Bureau σ → Prop} {holds : Bureau σ → Prop}

/-- What one of two runs keeps may be added to what relates them. -/
theorem Steady.and (h : Steady S S' others s alike) (hk : Kept S others s holds) :
    Steady S S' others s fun b b' => alike b b' ∧ holds b where
  passedOn hq := (h.passedOn hq).and (hk.passedOn hq)
  noted notice := (h.noted notice).and (hk.noted notice)
  identified := h.identified.and hk.identified
  timed := h.timed.and hk.timed
  stored hn := (h.stored hn).and (hk.stored _)
  attempted hq _ hlog := (h.attempted hq hlog).and (hk.attempted hq hlog)

/-! ### Two runs -/

/-- The parts of which calls are put together keep the relation between the surroundings of two
    runs, and what comes of them is the same in both. Only what is made up for a notification may
    differ. -/
structure Abreast (run run' : (q : Request) → Bureau σ → q.Answer × Bureau σ) (s : Service)
    (alike : Bureau σ → Bureau σ → Prop) : Prop where
  consulted (userId : Uuid) (channel : Channel) :
    Program.Paired run run' alike Eq (Service.isDisabled userId channel)
      (Service.isDisabled userId channel)
  found (userId : Uuid) :
    Program.Paired run run' alike Eq (ask (.tokens (.findByUser userId)))
      (ask (.tokens (.findByUser userId)))
  noted (notice : Notice) : Program.Paired run run' alike Eq (note notice) (note notice)
  identified : Program.Paired run run' alike (fun _ _ => True) (ask .freshId) (ask .freshId)
  timed : Program.Paired run run' alike (fun _ _ => True) (ask .clock) (ask .clock)
  stored {n n' : InAppNotification} (hn : n.anonymous = n'.anonymous) :
    Program.Paired run run' alike (Eq : Except ServiceError Unit → _ → _) (ask (.inbox (.store n)))
      (ask (.inbox (.store n')))
  mailed {provider : String} (hs : s.email = some provider) (m : EmailMessage) :
    Program.Paired run run' alike Eq
      (attempt (.sendEmail m) (Service.logSending m.userId .email provider))
      (attempt (.sendEmail m) (Service.logSending m.userId .email provider))
  texted {provider : String} (hs : s.sms = some provider) (m : SmsMessage) :
    Program.Paired run run' alike Eq
      (attempt (.sendSms m) (Service.logSending m.userId .sms provider))
      (attempt (.sendSms m) (Service.logSending m.userId .sms provider))
  pushed {provider : String} (hs : s.push = some provider) (m : PushMessage)
      (tokens : List String) :
    Program.Paired run run' alike Eq (attempt (.sendPush m tokens) (logPushAttempt m provider))
      (attempt (.sendPush m tokens) (logPushAttempt m provider))

/-- Where others answer the same in both runs, it is enough to look at every kind of step. -/
theorem Steady.abreast (h : Steady S S' others s alike) :
    Abreast (answer S others) (answer S' others) s alike where
  consulted userId channel := by
    have hpreferences : Paired S S' others alike Eq (Service.preferencesOf userId)
        (Service.preferencesOf userId) := by
      refine (h.passedOn fun _ _ => rfl).bind ?_
      rintro (error | p) _ rfl
      · exact (h.noted _).bind fun _ _ _ => .of_done rfl
      · exact .of_done rfl
    refine hpreferences.bind ?_
    rintro p _ rfl
    exact .of_done rfl
  found _ := h.passedOn fun _ _ => rfl
  noted := h.noted
  identified := h.identified
  timed := h.timed
  stored := h.stored
  mailed hs m := h.attempted (fun _ _ => rfl) (isLogOf_email hs m)
  texted hs m := h.attempted (fun _ _ => rfl) (isLogOf_sms hs m)
  pushed hs m tokens := h.attempted (fun _ _ => rfl) (isLogOf_push hs m tokens)

section Abreast

variable {run run' : (q : Request) → Bureau σ → q.Answer × Bureau σ}

/-- An attempt and what is done after it. -/
theorem attempt_bind_paired {α : Type} {same : α → α → Prop} {q : Request}
    {log : q.Answer → Action Unit} {f : q.Answer → Action α}
    (h : Program.Paired run run' alike Eq (attempt q log) (attempt q log))
    (hf : ∀ a, Program.Paired run run' alike same (f a) (f a)) :
    Program.Paired run run' alike same (ask q >>= fun a => log a >>= fun _ => f a)
      (ask q >>= fun a => log a >>= fun _ => f a) := by
  have hassoc : (ask q >>= fun a => log a >>= fun _ => f a) = attempt q log >>= f := by
    simp only [attempt, bind_assoc, pure_bind]
  rw [hassoc]
  refine h.bind ?_
  rintro a _ rfl
  exact hf a

variable (h : Abreast run run' s alike)

include h

/-! ### Channels -/

/-- What the service says of a notification that it has stored is the same but for the identifier
    and the time. -/
theorem sendInApp_paired (m : InAppMessage) :
    Program.Paired run run' alike
      (fun r r' => (Reply.inApp r).anonymous = (Reply.inApp r').anonymous) (Service.sendInApp m)
      (Service.sendInApp m) := by
  refine (h.consulted m.userId .inApp).bind ?_
  rintro (- | -) _ rfl
  · refine h.identified.bind fun id id' _ => h.timed.bind fun now now' _ => ?_
    dsimp only
    -- From here on the two runs are different programs, as each goes on with what it was given.
    refine (h.stored ?_).bind ?_
    · rfl
    · rintro (error | -) _ rfl
      · exact .of_done rfl
      · exact .of_done rfl
  · exact (h.noted _).bind fun _ _ _ => .of_done rfl

theorem sendPush_paired (m : PushMessage) :
    Program.Paired run run' alike Eq (s.sendPush m) (s.sendPush m) := by
  have hreport (outcome : Except ServiceError PushReport) :
      Program.Paired run run' alike Eq (reportPush m outcome) (reportPush m outcome) := by
    rcases outcome with error | report
    · exact .of_done rfl
    · rw [reportPush]
      split
      · exact h.noted _
      · exact .of_done rfl
  refine (h.consulted m.userId .push).bind ?_
  rintro (- | -) _ rfl
  · refine (h.found m.userId).bind ?_
    rintro (error | tokens) _ rfl
    · exact .of_done rfl
    · dsimp only
      split
      · exact .of_done rfl
      · rcases hs : s.push with - | provider
        · exact .of_done rfl
        · -- The report of the push comes after its log, and belongs to what is done then.
          simp only [logPush_eq, bind_assoc]
          exact attempt_bind_paired (h.pushed hs m _) fun outcome =>
            (hreport outcome).bind fun _ _ _ => .of_done rfl
  · exact (h.noted _).bind fun _ _ _ => .of_done rfl

theorem sendEmail_paired (m : EmailMessage) :
    Program.Paired run run' alike Eq (s.sendEmail m) (s.sendEmail m) := by
  rw [Service.sendEmail]
  rcases hs : s.email with - | provider
  · exact .of_done rfl
  · exact attempt_bind_paired (h.mailed hs m) fun _ => .of_done rfl

theorem sendSms_paired (m : SmsMessage) :
    Program.Paired run run' alike Eq (s.sendSms m) (s.sendSms m) := by
  rw [Service.sendSms]
  rcases hs : s.sms with - | provider
  · exact .of_done rfl
  · exact attempt_bind_paired (h.texted hs m) fun _ => .of_done rfl

/-! ### Handlers -/

theorem payload?_paired {α : Type} [Json.Model α] (handler : String) (e : BusEvent) :
    Program.Paired run run' alike Eq (Notifier.payload? handler e : Action (Option α))
      (Notifier.payload? handler e) := by
  rw [Notifier.payload?]
  rcases (Json.Model.parse e.payload : Except Json.Fault α) with fault | a
  · exact (h.noted _).bind fun _ _ _ => .of_done rfl
  · exact .of_done rfl

omit h in
/-- Replies about an inbox that are the same but for identifiers and times fail for the same reason,
    or neither fails. -/
theorem reasons_eq {r r' : Except ServiceError (Option InAppNotification)}
    (h : (Reply.inApp r).anonymous = (Reply.inApp r').anonymous) (step : String) :
    Notifier.reasons step r = Notifier.reasons step r' := by
  rcases r with error | n
  · rcases r' with error' | n'
    · simp_all [Reply.anonymous, Except.map]
    · simp [Reply.anonymous, Except.map] at h
  · rcases r' with error' | n'
    · simp [Reply.anonymous, Except.map] at h
    · rfl

theorem onPayload_paired {α : Type} [Json.Model α] (handler : String)
    {act : α → Action (Except DeliveryError Unit)}
    (hact : ∀ a, Program.Paired run run' alike Eq (act a) (act a)) (e : BusEvent) :
    Program.Paired run run' alike Eq (Notifier.onPayload handler act e)
      (Notifier.onPayload handler act e) := by
  refine (payload?_paired h handler e).bind ?_
  rintro (- | a) _ rfl
  · exact .of_done rfl
  · exact hact a

theorem announceCompleted_paired (t : TranslationCreated) :
    Program.Paired run run' alike Eq (Notifier.announceCompleted t)
      (Notifier.announceCompleted t) := by
  refine (sendInApp_paired h (Notifier.announcement t)).bind ?_
  rintro (error | n) (error' | n') hsame
  · have herror : error = error' := by simpa [Reply.anonymous, Except.map] using hsame
    exact .of_done (by rw [herror])
  · simp [Reply.anonymous, Except.map] at hsame
  · simp [Reply.anonymous, Except.map] at hsame
  · exact .of_done rfl

theorem greetUser_paired (u : UserCreated) :
    Program.Paired run run' alike Eq (Notifier.greetUser s u) (Notifier.greetUser s u) := by
  refine (sendInApp_paired h (Notifier.inAppWelcome u)).bind fun inApp inApp' hinApp => ?_
  refine (sendEmail_paired h (Notifier.emailWelcome u)).bind ?_
  rintro email _ rfl
  dsimp only
  rw [reasons_eq hinApp]
  split
  · exact .of_done rfl
  · exact .of_done rfl

/-! ### Calls -/

/-- Whatever is asked of the service, the relation is kept, and the two replies are the same but for
    identifiers and times. -/
theorem perform_paired (c : Call) :
    Program.Paired run run' alike (fun r r' => r.anonymous = r'.anonymous) (c.perform s)
      (c.perform s) := by
  rcases c with m | m | m | m | e | e
  · exact (sendInApp_paired h m).bind fun _ _ hr => .of_done hr
  · exact (sendPush_paired h m).bind fun _ _ hr => .of_done (by rw [hr])
  · exact (sendEmail_paired h m).bind fun _ _ hr => .of_done (by rw [hr])
  · exact (sendSms_paired h m).bind fun _ _ hr => .of_done (by rw [hr])
  · exact (onPayload_paired h _ (announceCompleted_paired h) e).bind fun _ _ hr =>
      .of_done (by rw [hr])
  · exact (onPayload_paired h _ (greetUser_paired h) e).bind fun _ _ hr => .of_done (by rw [hr])

/-- So it is with one call after the other. -/
theorem Abreast.performAll_paired (calls : List Call) :
    Program.Paired run run' alike (List.Forall₂ fun r r' => r.anonymous = r'.anonymous)
      (performAll s calls) (performAll s calls) :=
  .mapM (perform_paired h) calls

end Abreast

theorem performAll_paired (h : Steady S S' others s alike) (calls : List Call) :
    Paired S S' others alike (List.Forall₂ fun r r' => r.anonymous = r'.anonymous)
      (performAll s calls) (performAll s calls) :=
  h.abreast.performAll_paired calls

end Steady

end Courier.Notification
