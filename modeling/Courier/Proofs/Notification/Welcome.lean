import Courier.Proofs.Notification.Course
import Courier.Proofs.Notification.Redelivery

/-!
# The welcome of a new user

A new user is welcomed in the inbox and then by e-mail. Neither step has any influence on the other:
the notification is stored whatever comes of the e-mail, and the e-mail is handed over whatever came
of the notification. What has failed is told at the end, one reason for each step.

* `verdict`: what is told of the two steps.
* `greet_eq`, `run_greet`: the welcome as its two steps.
* `Outcomes`: what comes of looking up preferences, of storing a notification and of an e-mail.
* `run_sendInApp_outcomes`, `run_sendEmail_outcomes`: the two steps.
* `Outcomes.Welcomed`: what becomes of the inbox, of the e-mails and of the welcome.
* `welcome_isolates`: it does so whatever the outcomes are.
-/

namespace Courier.Notification

variable {σ : Type}

/-! ### Verdicts -/

section Verdict

variable {α β : Type} {inApp : Except ServiceError α} {email : Except ServiceError β}

/-- What is told of the two steps of a welcome: why they have failed, if they have. -/
def verdict : Except ServiceError α → Except ServiceError β → Except DeliveryError Unit
  | .ok _, .ok _ => .ok ()
  | .error error, .ok _ =>
    .error (.handler "user_created_notifier" ("in_app: " ++ error.text))
  | .ok _, .error error =>
    .error (.handler "user_created_notifier" ("email: " ++ error.text))
  | .error error, .error error' => .error (.handler "user_created_notifier"
      ("in_app: " ++ error.text ++ "; " ++ ("email: " ++ error'.text)))

theorem verdict_eq_ok_iff :
    verdict inApp email = .ok () ↔ inApp.isOk = true ∧ email.isOk = true := by
  rcases inApp with error | a
  · rcases email with error' | b
    · simp [verdict, Except.isOk, Except.toBool]
    · simp [verdict, Except.isOk, Except.toBool]
  · rcases email with error' | b
    · simp [verdict, Except.isOk, Except.toBool]
    · simp [verdict, Except.isOk, Except.toBool]

end Verdict

/-- The welcome of a new user is a message to the inbox, then an e-mail, and then the verdict. -/
theorem greet_eq {s : Service} {e : BusEvent} {u : UserCreated}
    (h : Json.Model.parse e.payload = .ok u) :
    Notifier.greet s e = do
      let inApp ← Service.sendInApp (Notifier.inAppWelcome u)
      let email ← s.sendEmail (Notifier.emailWelcome u)
      return verdict inApp email := by
  rw [Notifier.greet, Notifier.onPayload_eq h, Notifier.greetUser]
  refine bind_congr fun inApp => bind_congr fun email => ?_
  rcases inApp with error | a
  · rcases email with error' | b
    · rfl
    · rfl
  · rcases email with error' | b
    · rfl
    · rfl

/-- The welcome comes to what its two steps come to, the e-mail after the message to the inbox. -/
theorem run_greet {s : Service} {e : BusEvent} {u : UserCreated}
    (h : Json.Model.parse e.payload = .ok u) (answer : (q : Request) → σ → q.Answer × σ) (st : σ) :
    let stored := (Service.sendInApp (Notifier.inAppWelcome u)).run answer st
    let sent := (s.sendEmail (Notifier.emailWelcome u)).run answer stored.2
    (Notifier.greet s e).run answer st = (verdict stored.1 sent.1, sent.2) := by
  rw [greet_eq h, Program.run_bind, Program.run_bind]
  rfl

/-! ### Outcomes -/

/-- What comes of looking up the preferences of a user, of storing a notification, and of handing an
    e-mail over. -/
structure Outcomes where
  wishes : Wishes
  stored : Except ServiceError Unit
  sent : Except ServiceError (Option String)

namespace Outcomes

variable (x : Outcomes)

/-- Others with whom it comes to that. They answer whatever else they are asked as they like. -/
def others (elsewhere : (q : Request) → σ → q.Answer × σ) : (q : Request) → σ → q.Answer × σ
  | .preferences (.get _), st => (x.wishes, st)
  | .inbox (.store _), st => (x.stored, st)
  | .sendEmail _, st => (x.sent, st)
  | q, st => elsewhere q st

/-- The user takes notifications, and they can be stored. -/
def takes : Bool := !x.wishes.refuse .inApp && x.stored.isOk

/-- What comes of a message to an inbox. For a user who does not take it nothing is to be stored, so
    that nothing can fail. -/
def inApp : Except ServiceError Unit := if x.wishes.refuse .inApp then .ok () else x.stored

/-- What comes of an e-mail, which is not sent without a provider. -/
def email (s : Service) : Except ServiceError Unit :=
  if s.email.isSome then x.sent.map fun _ => () else .ok ()

end Outcomes

section Steps

variable (S : Supply) (elsewhere : (q : Request) → σ → q.Answer × σ) (x : Outcomes)

theorem run_sendInApp_outcomes (m : InAppMessage) (b : Bureau σ) :
    let n := m.notification (S.ids b.ids) (S.clock b.readings)
    let run := (Service.sendInApp m).run (answer S (x.others elsewhere)) b
    (run.1.map fun _ => ()) = x.inApp ∧ run.2.sendings = b.sendings ∧
      run.2.inbox = if x.takes then b.inbox.insert n.id n else b.inbox := by
  intro n run
  have hcourse : InAppCourse S (x.others elsewhere) m b run :=
    run_sendInApp S (x.others elsewhere) m b
  clear_value run
  cases hcourse with
  | refused h hinbox hsendings =>
    have hrefuse : x.wishes.refuse .inApp = true := h
    refine ⟨?_, hsendings, ?_⟩
    · rw [Outcomes.inApp, if_pos hrefuse]
      rfl
    · rw [hinbox, if_neg (by simp [Outcomes.takes, hrefuse])]
  | lost h houtcome hinbox hsendings =>
    have hrefuse : x.wishes.refuse .inApp = false := h
    have hstored : x.stored = .error _ := houtcome
    refine ⟨?_, hsendings, ?_⟩
    · rw [Outcomes.inApp, hrefuse, hstored]
      rfl
    · rw [hinbox, if_neg (by simp [Outcomes.takes, hstored, Except.isOk, Except.toBool])]
  | stored h houtcome hn hinbox hsendings =>
    have hrefuse : x.wishes.refuse .inApp = false := h
    have hstored : x.stored = .ok () := houtcome
    subst hn
    refine ⟨?_, hsendings, ?_⟩
    · rw [Outcomes.inApp, hrefuse, hstored]
      rfl
    · rw [hinbox, if_pos (by simp [Outcomes.takes, hrefuse, hstored, Except.isOk, Except.toBool])]

theorem run_sendEmail_outcomes (s : Service) (m : EmailMessage) (b : Bureau σ) :
    let run := (s.sendEmail m).run (answer S (x.others elsewhere)) b
    run.1 = x.email s ∧ run.2.mails = b.mails ++ (if s.email.isSome then [m] else []) ∧
      run.2.inbox = b.inbox := by
  intro run
  obtain ⟨hresult, hsendings, hinbox⟩ := run_sendEmail S (x.others elsewhere) s m b
  refine ⟨hresult, ?_, hinbox⟩
  rw [Bureau.mails, hsendings, List.filterMap_append]
  refine congrArg _ ?_
  split
  · rfl
  · rfl

end Steps

/-! ### Welcomes -/

/-- What comes of the welcome of a new user, if these are the outcomes, and if this came of the
    message to the inbox and of the e-mail. -/
structure Outcomes.Welcomed (x : Outcomes) (S : Supply) (s : Service) (u : UserCreated)
    (b b' : Bureau σ) (inApp : Except ServiceError (Option InAppNotification))
    (email : Except ServiceError Unit) (result : Except DeliveryError Unit) : Prop where
  inApp_eq : (inApp.map fun _ => ()) = x.inApp
  email_eq : email = x.email s
  inbox : let n := (Notifier.inAppWelcome u).notification (S.ids b.ids) (S.clock b.readings)
    b'.inbox = if x.takes then b.inbox.insert n.id n else b.inbox
  mails : b'.mails = b.mails ++ if s.email.isSome then [Notifier.emailWelcome u] else []
  succeeds : result = .ok () ↔ inApp.isOk = true ∧ email.isOk = true
  result_eq : result = verdict inApp email

section Welcome

variable (S : Supply) (elsewhere : (q : Request) → σ → q.Answer × σ) (s : Service) {e : BusEvent}
  {u : UserCreated} (h : Json.Model.parse e.payload = .ok u)

include h

theorem Outcomes.welcomed (x : Outcomes) (b : Bureau σ) :
    let stored := (Service.sendInApp (Notifier.inAppWelcome u)).run
      (answer S (x.others elsewhere)) b
    let sent := (s.sendEmail (Notifier.emailWelcome u)).run (answer S (x.others elsewhere)) stored.2
    let welcomed := (Notifier.greet s e).run (answer S (x.others elsewhere)) b
    x.Welcomed S s u b welcomed.2 stored.1 sent.1 welcomed.1 := by
  intro stored sent welcomed
  obtain ⟨hstored, hsendings, hinbox⟩ :=
    run_sendInApp_outcomes S elsewhere x (Notifier.inAppWelcome u) b
  obtain ⟨hsent, hmails, hinbox'⟩ :=
    run_sendEmail_outcomes S elsewhere x s (Notifier.emailWelcome u) stored.2
  have hwelcomed : welcomed = (verdict stored.1 sent.1, sent.2) := run_greet h _ b
  rw [hwelcomed]
  exact {
    inApp_eq := hstored
    email_eq := hsent
    inbox := hinbox'.trans hinbox
    mails := by rw [hmails, Bureau.mails, hsendings, Bureau.mails]
    succeeds := verdict_eq_ok_iff
    result_eq := rfl }

/-- A new user is welcomed in the inbox and then by e-mail, whatever comes of either. What comes of
    the e-mail makes no difference to the inbox, and what comes of the notification none to the
    e-mail. The welcome succeeds if both steps do, and otherwise it tells why which of them have
    failed. -/
theorem welcome_isolates (x x' : Outcomes) (b : Bureau σ) :
    let answer (x : Outcomes) := answer S (x.others elsewhere)
    let inApp := Service.sendInApp (Notifier.inAppWelcome u)
    let email := s.sendEmail (Notifier.emailWelcome u)
    let welcome := (Notifier.welcome s).handle e
    let (stored, b₁) := inApp.run (answer x) b
    let (sent, b₂) := email.run (answer x) b₁
    let (result, b') := welcome.run (answer x) b
    welcome.transcript (answer x) b =
        inApp.transcript (answer x) b ++ email.transcript (answer x) b₁ ∧
      b' = b₂ ∧ x.Welcomed S s u b b' stored sent result ∧
      (x.wishes = x'.wishes → x.stored = x'.stored →
        b'.inbox = (welcome.run (answer x') b).2.inbox) ∧
      b'.mails = (welcome.run (answer x') b).2.mails := by
  intro answer inApp email welcome
  have hx := x.welcomed S elsewhere s h b
  have hx' := x'.welcomed S elsewhere s h b
  refine ⟨?_, congrArg Prod.snd (run_greet h (answer x) b), hx, fun hwishes hstored => ?_, ?_⟩
  · have hwelcome : welcome = inApp >>= fun r => email >>= fun r' => pure (verdict r r') :=
      greet_eq h
    rw [hwelcome, Program.transcript_bind, Program.transcript_bind]
    -- To reach the verdict nothing is asked.
    exact congrArg _ (List.append_nil _)
  · refine hx.inbox.trans (Eq.trans ?_ hx'.inbox.symm)
    rw [Outcomes.takes, Outcomes.takes, hwishes, hstored]
  · exact hx.mails.trans hx'.mails.symm

end Welcome

/-- Where neither the notification can be stored nor the e-mail be sent, each is tried, and both
    reasons are told. -/
theorem welcome_isolates_mishaps :
    let s : Service := ⟨some "post", none, none⟩
    let u : UserCreated := ⟨.nil, "user@example.org", none⟩
    let e : BusEvent := ⟨"", userCreated, Json.Model.print u⟩
    let x : Outcomes := ⟨.ok none, .error (.infrastructure "closed"),
      .error (.provider "post" "no such mailbox")⟩
    let b : Bureau Unit := .opened () .empty .empty
    let run := ((Notifier.welcome s).handle e).run (answer morning (x.others acquaintances)) b
    Json.Model.parse e.payload = .ok u ∧ run.2.inbox.values = [] ∧
      run.2.mails = [Notifier.emailWelcome u] ∧
      run.1 = .error (.handler "user_created_notifier"
        "in_app: infra: closed; email: provider post: no such mailbox") := by
  intro s u e x b run
  have hparse : Json.Model.parse e.payload = .ok u := u.parse_print
  obtain ⟨-, -, hwelcomed, -, -⟩ := welcome_isolates morning acquaintances s hparse x x b
  refine ⟨hparse, ?_, hwelcomed.mails, ?_⟩
  · rw [hwelcomed.inbox]
    rfl
  · exact hwelcomed.result_eq.trans rfl

end Courier.Notification
