import Courier.Proofs.Consumer.Block
import Courier.Proofs.Notification.Desk

/-!
# The gist of what the service does

Of all that the service asks, some questions tell whom it reaches: what a user wants, what is stored
in an inbox, what is handed to a sender, and the identifiers that are taken for that. The rest is
reading the clock, writing logs and looking up push tokens.

* `gist`: the questions of a transcript that tell whom the service reaches.
* `Inboxed`, `Pushed`, `Sent`: the gist of sending a message over a channel.
* `sendInApp_runs`, `sendPush_runs`, `sendEmail_runs`, `sendSms_runs`: the channels, in whatever way
  they are answered.
* `Brought`: the gist of bringing what has happened to its user.
* `announce_runs`, `greet_runs`, `process_runs`: that is what handlers and consumers do.
-/

namespace Courier.Notification

/-- Whether a question tells whom the service reaches. -/
def isTelling : Request → Bool
  | .preferences (.get _) | .freshId | .inbox (.store _) | .sendEmail _ | .sendSms _
  | .sendPush _ _ => true
  | _ => false

/-- The questions that tell whom the service reaches, with their answers. -/
def gist (calls : Calls) : Calls := calls.filter fun call => isTelling call.1

@[simp]
theorem gist_append (calls calls' : Calls) : gist (calls ++ calls') = gist calls ++ gist calls' :=
  List.filter_append ..

/-- What is read off telling questions alone is read off the gist. -/
theorem filterMap_gist {α : Type} {f : (Σ q : Request, q.Answer) → Option α}
    (hf : ∀ call a, f call = some a → isTelling call.1 = true) (calls : Calls) :
    (gist calls).filterMap f = calls.filterMap f := by
  rw [gist, List.filterMap_filter]
  refine List.filterMap_congr fun call _ => ?_
  cases h : isTelling call.1 with
  | true => rfl
  | false =>
    cases hcall : f call with
    | none => rfl
    | some a => exact absurd (hf call a hcall) (h ▸ Bool.false_ne_true)

/-- What the preferences of a user are. -/
abbrev Wishes : Type := Except ServiceError (Option UserPreferences)

/-- Whether the preferences can be had and turn a channel off. -/
def Wishes.refuse (c : Channel) : Wishes → Bool
  | .ok (some p) => !p.allows c
  | _ => false

/-- The notification that is made of a message. -/
def InAppMessage.notification (m : InAppMessage) (id : Uuid) (now : Instant) :
    InAppNotification where
  id := id
  userId := m.userId
  kind := m.kind
  title := m.title
  body := m.body
  data := m.data
  actionUrl := nonempty m.actionUrl
  imageUrl := nonempty m.imageUrl
  read := false
  readAt := none
  createdAt := now

/-! ### Channels -/

/-- The gist of bringing a message to an inbox: it is not stored if the user has turned that off. -/
inductive Inboxed (m : InAppMessage) : Calls → Prop
  | refused (wishes : Wishes) (h : wishes.refuse .inApp = true) :
      Inboxed m [⟨.preferences (.get m.userId), wishes⟩]
  | stored (wishes : Wishes) (h : wishes.refuse .inApp = false) (id : Uuid) (now : Instant)
      (outcome : Except ServiceError Unit) :
      Inboxed m [⟨.preferences (.get m.userId), wishes⟩, ⟨.freshId, id⟩,
        ⟨.inbox (.store (m.notification id now)), outcome⟩]

/-- The gist of a push: it is not handed over if the user has turned that off, or else if there is
    no device or no sender for it. -/
inductive Pushed (m : PushMessage) : Calls → Prop
  | unsent (wishes : Wishes) : Pushed m [⟨.preferences (.get m.userId), wishes⟩]
  | sent (wishes : Wishes) (h : wishes.refuse .push = false) (tokens : List String)
      (outcome : Except ServiceError PushReport) (id : Uuid) :
      Pushed m [⟨.preferences (.get m.userId), wishes⟩, ⟨.sendPush m tokens, outcome⟩,
        ⟨.freshId, id⟩]

/-- The gist of an e-mail or a text message: it is handed over if there is a provider. -/
inductive Sent (q : Request) : Option String → Calls → Prop
  | unprovided : Sent q none []
  | sent (provider : String) (outcome : q.Answer) (id : Uuid) :
      Sent q (some provider) [⟨q, outcome⟩, ⟨.freshId, id⟩]

variable {calls : Calls}

theorem note_runs {notice : Notice} (h : (note notice : Action Unit).Runs calls (.done ())) :
    gist calls = [] := by
  obtain ⟨_, rest, rfl, hrest⟩ := Program.Runs.of_ask h
  obtain ⟨rfl, -⟩ := hrest.of_done
  rfl

/-- To report something and be done tells nothing. -/
theorem note_pure_runs {α : Type} {notice : Notice} {a b : α}
    (h : (note notice >>= fun _ => pure a : Action α).Runs calls (.done b)) :
    gist calls = [] ∧ a = b := by
  obtain ⟨_, notes, rest, rfl, hnotes, hrest⟩ := h.of_bind
  obtain ⟨rfl, rfl⟩ := hrest.of_done
  exact ⟨by rw [List.append_nil, note_runs hnotes], rfl⟩

/-- A call that is worth a try tells what the call tells, and its report tells nothing. -/
theorem bestEffort_runs {ε α : Type} {text : ε → String} {operation : String}
    {call : Action (Except ε α)} (h : (bestEffort text operation call).Runs calls (.done ())) :
    ∃ answer calls', call.Runs calls' (.done answer) ∧ gist calls = gist calls' :=
  Program.Runs.of_bestEffort note_runs h

/-- Of the logging of an attempt the identifier of the log is to be seen. -/
theorem logAttempt_runs {userId : Uuid} {channel : Channel} {status : DeliveryStatus}
    {provider : String} {messageId error : Option String}
    (h : (logAttempt userId channel status provider messageId error).Runs calls (.done ())) :
    ∃ id : Uuid, gist calls = [⟨.freshId, id⟩] := by
  obtain ⟨id, calls₁, rfl, h₁⟩ := Program.Runs.of_request_bind h
  obtain ⟨now, calls₂, rfl, h₂⟩ := Program.Runs.of_request_bind h₁
  obtain ⟨outcome, asked, hask, hgist⟩ := bestEffort_runs h₂
  rw [hask.of_request] at hgist
  exact ⟨id, congrArg (_ :: ·) hgist⟩

/-- The preferences are asked for, and a channel is taken to be on when they cannot be had. -/
theorem isDisabled_runs {userId : Uuid} {channel : Channel} {off : Bool}
    (h : (Service.isDisabled userId channel).Runs calls (.done off)) :
    ∃ wishes : Wishes, gist calls = [⟨.preferences (.get userId), wishes⟩] ∧
      off = wishes.refuse channel := by
  obtain ⟨found, calls₁, rest, rfl, hfound, hrest⟩ := h.of_bind
  obtain ⟨rfl, rfl⟩ := hrest.of_done
  obtain ⟨wishes, calls₂, rfl, h₂⟩ := Program.Runs.of_request_bind hfound
  refine ⟨wishes, ?_⟩
  rcases wishes with error | p
  · obtain ⟨hgist, rfl⟩ := note_pure_runs h₂
    rw [List.append_nil]
    exact ⟨congrArg (_ :: ·) hgist, rfl⟩
  · obtain ⟨rfl, rfl⟩ := h₂.of_done
    rcases p with _ | p
    · exact ⟨rfl, rfl⟩
    · exact ⟨rfl, rfl⟩

theorem sendInApp_runs {m : InAppMessage} {result : Except ServiceError (Option InAppNotification)}
    (h : (Service.sendInApp m).Runs calls (.done result)) : Inboxed m (gist calls) := by
  obtain ⟨off, asking, rest, rfl, hasking, hrest⟩ := h.of_bind
  obtain ⟨wishes, hgist, hoff⟩ := isDisabled_runs hasking
  rw [gist_append, hgist]
  cases off with
  | true =>
    rw [(note_pure_runs hrest).1]
    exact .refused wishes hoff.symm
  | false =>
    obtain ⟨id, calls₁, rfl, h₁⟩ := Program.Runs.of_request_bind hrest
    obtain ⟨now, calls₂, rfl, h₂⟩ := Program.Runs.of_request_bind h₁
    obtain ⟨outcome, calls₃, rfl, h₃⟩ := Program.Runs.of_request_bind h₂
    rcases outcome with error | _
    · obtain ⟨rfl, rfl⟩ := h₃.of_done
      exact .stored wishes hoff.symm id now (.error error)
    · obtain ⟨rfl, rfl⟩ := h₃.of_done
      exact .stored wishes hoff.symm id now (.ok ())

theorem logPush_runs {m : PushMessage} {provider : String}
    {outcome : Except ServiceError PushReport}
    (h : (Service.logPush m provider outcome).Runs calls (.done ())) :
    ∃ id : Uuid, gist calls = [⟨.freshId, id⟩] := by
  rcases outcome with error | report
  · exact logAttempt_runs h
  · obtain ⟨_, logging, rest, rfl, hlogging, hrest⟩ := h.of_bind
    obtain ⟨id, hid⟩ := logAttempt_runs hlogging
    have hreport : gist rest = [] := by
      split at hrest
      · exact note_runs hrest
      · obtain ⟨rfl, -⟩ := hrest.of_done
        rfl
    exact ⟨id, by rw [gist_append, hid, hreport]; rfl⟩

theorem logSending_runs {userId : Uuid} {channel : Channel} {provider : String}
    {outcome : Except ServiceError (Option String)}
    (h : (Service.logSending userId channel provider outcome).Runs calls (.done ())) :
    ∃ id : Uuid, gist calls = [⟨.freshId, id⟩] := by
  rcases outcome with error | messageId
  · exact logAttempt_runs h
  · exact logAttempt_runs h

/-- To hand something over and to log that at once tells what is handed over, and the identifier of
    the log. -/
theorem handOver_runs {α : Type} {q : Request} {log : q.Answer → Action Unit} {f : q.Answer → α}
    {result : α} (hq : isTelling q = true)
    (hlog : ∀ {outcome calls}, (log outcome).Runs calls (.done ()) →
      ∃ id : Uuid, gist calls = [⟨.freshId, id⟩])
    (h : (ask q >>= fun outcome => log outcome >>= fun _ => pure (f outcome)).Runs calls
      (.done result)) :
    ∃ (outcome : q.Answer) (id : Uuid), gist calls = [⟨q, outcome⟩, ⟨.freshId, id⟩] := by
  obtain ⟨outcome, calls₁, rfl, h₁⟩ := Program.Runs.of_request_bind h
  obtain ⟨_, logging, rest, rfl, hlogging, hrest⟩ := h₁.of_bind
  obtain ⟨rfl, -⟩ := hrest.of_done
  obtain ⟨id, hid⟩ := hlog hlogging
  refine ⟨outcome, id, ?_⟩
  have hcons : gist (⟨q, outcome⟩ :: logging) = ⟨q, outcome⟩ :: gist logging :=
    List.filter_cons_of_pos hq
  rw [List.append_nil, hcons, hid]

theorem sendPush_runs {s : Service} {m : PushMessage} {result : Except ServiceError PushReport}
    (h : (s.sendPush m).Runs calls (.done result)) : Pushed m (gist calls) := by
  obtain ⟨off, asking, rest, rfl, hasking, hrest⟩ := h.of_bind
  obtain ⟨wishes, hgist, hoff⟩ := isDisabled_runs hasking
  rw [gist_append, hgist]
  cases off with
  | true =>
    rw [(note_pure_runs hrest).1]
    exact .unsent wishes
  | false =>
    obtain ⟨found, calls₁, rfl, h₁⟩ := Program.Runs.of_request_bind hrest
    change Pushed m (_ :: gist calls₁)
    rcases found with error | tokens
    · obtain ⟨rfl, rfl⟩ := h₁.of_done
      exact .unsent wishes
    · -- Nothing is handed over without an active device, or without a sender.
      dsimp only at h₁
      split at h₁
      · obtain ⟨rfl, rfl⟩ := h₁.of_done
        exact .unsent wishes
      · split at h₁
        · obtain ⟨rfl, rfl⟩ := h₁.of_done
          exact .unsent wishes
        · obtain ⟨outcome, id, hsent⟩ := handOver_runs rfl logPush_runs h₁
          rw [hsent]
          exact .sent wishes hoff.symm _ outcome id

theorem sendEmail_runs {s : Service} {m : EmailMessage} {result : Except ServiceError Unit}
    (h : (s.sendEmail m).Runs calls (.done result)) : Sent (.sendEmail m) s.email (gist calls) := by
  rw [Service.sendEmail] at h
  rcases hs : s.email with _ | provider
  · rw [hs] at h
    obtain ⟨rfl, -⟩ := h.of_done
    exact .unprovided
  · rw [hs] at h
    obtain ⟨outcome, id, hsent⟩ := handOver_runs rfl logSending_runs h
    rw [hsent]
    exact .sent provider outcome id

theorem sendSms_runs {s : Service} {m : SmsMessage} {result : Except ServiceError Unit}
    (h : (s.sendSms m).Runs calls (.done result)) : Sent (.sendSms m) s.sms (gist calls) := by
  rw [Service.sendSms] at h
  rcases hs : s.sms with _ | provider
  · rw [hs] at h
    obtain ⟨rfl, -⟩ := h.of_done
    exact .unprovided
  · rw [hs] at h
    obtain ⟨outcome, id, hsent⟩ := handOver_runs rfl logSending_runs h
    rw [hsent]
    exact .sent provider outcome id

/-! ### Handlers -/

/-- The gist of bringing what has happened to its user, if it is known. -/
inductive Brought (s : Service) : Option Occurrence → Calls → Prop
  | nothing : Brought s none []
  | translation {t : TranslationCreated} {calls : Calls}
      (h : Inboxed (Notifier.announcement t) calls) : Brought s (some (.translation t)) calls
  | user {u : UserCreated} {calls calls' : Calls} (h : Inboxed (Notifier.inAppWelcome u) calls)
      (h' : Sent (.sendEmail (Notifier.emailWelcome u)) s.email calls') :
      Brought s (some (.user u)) (calls ++ calls')

theorem payload?_runs {α : Type} [Json.Model α] {handler : String} {e : BusEvent}
    {result : Option α} (h : (Notifier.payload? handler e).Runs calls (.done result)) :
    gist calls = [] ∧ result = (Json.Model.parse e.payload).toOption := by
  rw [Notifier.payload?] at h
  generalize (Json.Model.parse e.payload : Except Json.Fault α) = parsed at h ⊢
  rcases parsed with fault | a
  · obtain ⟨hgist, rfl⟩ := note_pure_runs h
    exact ⟨hgist, rfl⟩
  · obtain ⟨rfl, rfl⟩ := h.of_done
    exact ⟨rfl, rfl⟩

/-- What is done about a payload brings it to its user, and one that cannot be read to nobody. -/
theorem onPayload_runs {α : Type} [Json.Model α] {s : Service} {handler : String}
    {act : α → Action (Except DeliveryError Unit)} {e : BusEvent}
    {result : Except DeliveryError Unit} (occurrence : α → Occurrence)
    (hact : ∀ a calls, (act a).Runs calls (.done result) →
      Brought s (some (occurrence a)) (gist calls))
    (h : (Notifier.onPayload handler act e).Runs calls (.done result)) :
    Brought s ((Json.Model.parse e.payload).toOption.map occurrence) (gist calls) := by
  obtain ⟨found, reading, rest, rfl, hreading, hrest⟩ := h.of_bind
  obtain ⟨hgist, hfound⟩ := payload?_runs hreading
  rw [gist_append, hgist, List.nil_append, ← hfound]
  rcases found with _ | a
  · obtain ⟨rfl, -⟩ := hrest.of_done
    exact .nothing
  · exact hact a rest hrest

theorem announce_runs {s : Service} {e : BusEvent} {result : Except DeliveryError Unit}
    (h : (Notifier.announce e).Runs calls (.done result)) :
    Brought s ((Json.Model.parse e.payload).toOption.map .translation) (gist calls) := by
  refine onPayload_runs .translation (fun t calls h => ?_) h
  obtain ⟨outcome, sending, rest, rfl, hsending, hrest⟩ := h.of_bind
  have hdone : rest = [] := by
    rcases outcome with error | _
    · exact hrest.of_done.1
    · exact hrest.of_done.1
  rw [hdone, List.append_nil]
  exact .translation (sendInApp_runs hsending)

theorem greet_runs {s : Service} {e : BusEvent} {result : Except DeliveryError Unit}
    (h : (Notifier.greet s e).Runs calls (.done result)) :
    Brought s ((Json.Model.parse e.payload).toOption.map .user) (gist calls) := by
  refine onPayload_runs .user (fun u calls h => ?_) h
  obtain ⟨inApp, sending, rest, rfl, hsending, hrest⟩ := h.of_bind
  obtain ⟨email, mailing, rest, rfl, hmailing, hrest⟩ := hrest.of_bind
  have hdone : rest = [] := by
    dsimp only at hrest
    split at hrest
    · exact hrest.of_done.1
    · exact hrest.of_done.1
  rw [gist_append, hdone, List.append_nil]
  exact .user (sendInApp_runs hsending) (sendEmail_runs hmailing)

/-! ### Deliveries -/

/-- Reports to the log tell nothing. -/
@[simp]
theorem gist_work (calls : Calls) : gist (work calls) = gist calls := by
  rw [gist, work, List.filter_filter]
  refine List.filter_congr fun call _ => ?_
  rcases call with ⟨q, answer⟩
  cases q with
  | note notice => rfl
  | _ => exact Bool.and_true _

theorem confirm_runs {d : Delivery} (h : d.confirm.Runs calls (.done ())) : gist calls = [] := by
  rw [Delivery.confirm] at h
  split at h
  · obtain ⟨rfl, -⟩ := h.of_done
    rfl
  · obtain ⟨outcome, asked, hask, hgist⟩ := bestEffort_runs h
    rw [hgist, hask.of_request]
    rfl

/-- A single handler tells what there is to tell. -/
theorem gist_flatten_singleton {handler : Handler} {e : BusEvent} {runs : List Calls}
    (h : List.Forall₂ (fun h run => h.Called e run) [handler] runs) :
    ∃ calls result, (handler.handle e).Runs calls (.done result) ∧
      gist runs.flatten = gist calls := by
  obtain ⟨run, runs, ⟨calls, result, hcalls, rfl⟩, hnil, rfl⟩ := List.forall₂_cons_left_iff.1 h
  obtain rfl := List.forall₂_nil_left_iff.1 hnil
  exact ⟨calls, result, hcalls, by rw [List.flatten_singleton, gist_work]⟩

/-- Whatever handlers there are for an event, what has happened is brought to its user. -/
theorem handleAll_runs {s : Service} {e : BusEvent}
    (h : (Consumer.handleAll e
      ((Registry.ofList Handler.handled (Notifier.all s)).matching e.eventType)).Runs calls
        (.done ())) : Brought s (Occurrence.ofBusEvent? e) (gist calls) := by
  obtain ⟨runs, hruns, hwork⟩ := Consumer.handleAll_runs h
  rw [← gist_work, hwork, Occurrence.ofBusEvent?]
  -- Each of the two types of events has a single handler, and no other type has one.
  rw [matching_all] at hruns
  split at hruns
  next ht =>
    obtain ⟨calls, result, hcalls, hgist⟩ := gist_flatten_singleton hruns
    rw [if_pos ht, hgist]
    exact announce_runs hcalls
  next hne =>
    rw [if_neg hne]
    split at hruns
    next ht =>
      obtain ⟨calls, result, hcalls, hgist⟩ := gist_flatten_singleton hruns
      rw [if_pos ht, hgist]
      exact greet_runs hcalls
    next hne' =>
      obtain rfl := List.forall₂_nil_left_iff.1 hruns
      rw [if_neg hne']
      exact .nothing

/-- Of a delivery it is told what has happened, and that is brought to its user. -/
theorem process_runs {s : Service} {topics : List String} {d : Delivery}
    (h : ((Notifier.dispatcher s topics).process d).Runs calls (.done ())) :
    Brought s (Occurrence.ofBusEvent? d.event) (gist calls) := by
  have hrest {calls : Calls} (h : (do
      Consumer.handleAll d.event
        ((Registry.ofList Handler.handled (Notifier.all s)).matching d.event.eventType)
      d.confirm : Action Unit).Runs calls (.done ())) :
      Brought s (Occurrence.ofBusEvent? d.event) (gist calls) := by
    obtain ⟨_, handling, confirming, rfl, hhandling, hconfirming⟩ := h.of_bind
    rw [gist_append, confirm_runs hconfirming, List.append_nil]
    exact handleAll_runs hhandling
  rw [Consumer.process] at h
  dsimp only at h
  split at h
  · -- That no handler was found is only reported.
    obtain ⟨_, notes, rest, rfl, hnotes, h⟩ := h.of_bind
    rw [gist_append, note_runs hnotes]
    exact hrest h
  · exact hrest h

end Courier.Notification
