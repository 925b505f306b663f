import Courier.Proofs.Notification.Conduct
import Courier.Proofs.Notification.Gist

/-!
# The channels at work

What becomes of the surroundings, and what comes back, when a message is sent over a channel. All
depends on what others answer, one question after the other, and on nothing else.

* `Bureau.wishes`, `Bureau.consulted`: a look-up of preferences.
* `run_isDisabled`: what the service makes of it.
* `InAppCourse`, `run_sendInApp`: a message to an inbox.
* `run_sendEmail`: an e-mail.
* `PushCourse`, `run_sendPush`: a push.
-/

namespace Courier.Notification

variable {σ : Type} (S : Supply) (others : (q : Request) → σ → q.Answer × σ)

/-- What is reported when the preferences of a user have been looked up. -/
def Wishes.warnings (userId : Uuid) : Wishes → List Notice
  | .error error => [.preferencesUnknown userId error]
  | .ok _ => []

namespace Bureau

variable (b : Bureau σ) (userId : Uuid)

/-- Something is reported to the log. -/
def report (notice : Notice) : Bureau σ := { b with notices := b.notices ++ [notice] }

/-- What comes of looking the preferences of a user up. -/
def wishes : Wishes := (others (.preferences (.get userId)) b.rest).1

/-- The surroundings after the preferences of a user have been looked up. -/
def consulted : Bureau σ :=
  { b with
    rest := (others (.preferences (.get userId)) b.rest).2
    notices := b.notices ++ (b.wishes others userId).warnings userId }

/-- What comes of looking the push tokens of a user up, after the preferences. -/
def tokens : Except ServiceError (List PushToken) :=
  (others (.tokens (.findByUser userId)) (b.consulted others userId).rest).1

/-- The surroundings after the push tokens of a user have been looked up, too. -/
def searched : Bureau σ :=
  { b.consulted others userId with
    rest := (others (.tokens (.findByUser userId)) (b.consulted others userId).rest).2 }

end Bureau

variable {S others} {b : Bureau σ} {s : Service}

/-- A question is answered, and what follows goes on with the answer. -/
theorem run_ask_bind {α : Type} {q : Request} (f : q.Answer → Action α) (b : Bureau σ) :
    (ask q >>= f).run (answer S others) b =
      (f (answer S others q b).1).run (answer S others) (answer S others q b).2 := rfl

/-- The preferences are looked up once. If that fails it is reported, and the channel is taken to be
    on. -/
theorem run_isDisabled (userId : Uuid) (channel : Channel) (b : Bureau σ) :
    (Service.isDisabled userId channel).run (answer S others) b =
      ((b.wishes others userId).refuse channel, b.consulted others userId) := by
  change (Service.preferencesOf userId >>= fun p => .done _).run (answer S others) b = _
  rw [Program.run_bind, Bureau.consulted, Bureau.wishes]
  simp only [Service.preferencesOf, ask, Program.request_bind, Program.run, answer]
  rcases others (.preferences (.get userId)) b.rest with ⟨error | p, rest⟩
  · rfl
  · rcases p with - | p
    · simp [Wishes.refuse, Wishes.warnings]
    · simp [Wishes.refuse, Wishes.warnings]

/-! ### The inbox -/

variable (S others)

/-- What comes of storing the notification of a message, after the preferences have been looked up.
    Others do not learn what is made up for it. -/
def Bureau.storing (b : Bureau σ) (m : InAppMessage) : Except ServiceError Unit :=
  (others (.inbox (.store (m.notification default default)))
    (b.consulted others m.userId).rest).1

/-- What comes of a message to an inbox, and what becomes of the surroundings. -/
inductive InAppCourse (m : InAppMessage) (b : Bureau σ) :
    Except ServiceError (Option InAppNotification) × Bureau σ → Prop
  | refused (h : (b.wishes others m.userId).refuse .inApp = true) {b' : Bureau σ}
      (hinbox : b'.inbox = b.inbox) (hsendings : b'.sendings = b.sendings) :
      InAppCourse m b (.ok none, b')
  | lost (h : (b.wishes others m.userId).refuse .inApp = false) {error : ServiceError}
      (houtcome : b.storing others m = .error error) {b' : Bureau σ}
      (hinbox : b'.inbox = b.inbox) (hsendings : b'.sendings = b.sendings) :
      InAppCourse m b (.error error, b')
  | stored (h : (b.wishes others m.userId).refuse .inApp = false)
      (houtcome : b.storing others m = .ok ()) {n : InAppNotification}
      (hn : n = m.notification (S.ids b.ids) (S.clock b.readings)) {b' : Bureau σ}
      (hinbox : b'.inbox = b.inbox.insert n.id n) (hsendings : b'.sendings = b.sendings) :
      InAppCourse m b (.ok (some n), b')

/-- The preferences of the user are looked up, and then the notification of a user who takes it is
    stored. -/
theorem run_sendInApp (m : InAppMessage) (b : Bureau σ) :
    InAppCourse S others m b ((Service.sendInApp m).run (answer S others) b) := by
  rw [Service.sendInApp, Program.run_bind, run_isDisabled]
  rcases h : (b.wishes others m.userId).refuse .inApp with - | -
  · let n := m.notification (S.ids b.ids) (S.clock b.readings)
    let b' := { b.consulted others m.userId with ids := b.ids + 1, readings := b.readings + 1 }
    -- Others answer what they would answer for any other identifier and time.
    have hanswer : answer S others (.inbox (.store n)) b' =
      b'.receive n (b.storing others m, (others (.inbox (.store n.anonymous)) b'.rest).2) := rfl
    change InAppCourse S others m b (Program.run _ (ask (.inbox (.store n)) >>= _) b')
    rw [run_ask_bind, hanswer]
    rcases houtcome : b.storing others m with error | _
    · exact .lost h houtcome rfl rfl
    · exact .stored h houtcome rfl rfl rfl
  · exact .refused h rfl rfl

/-! ### E-mails -/

/-- The logging of an attempt comes into no inbox and hands nothing over. -/
theorem run_log {x : Sending} {log : Action Unit} (hlog : IsLogOf s x log) (b : Bureau σ) :
    (log.run (answer S others) b).2.inbox = b.inbox ∧
      (log.run (answer S others) b).2.sendings = b.sendings := by
  obtain ⟨userId, channel, status, provider, messageId, error, rfl, -⟩ := hlog
  rw [run_logAttempt, Bureau.file_inbox, Bureau.file_sendings]
  exact ⟨rfl, rfl⟩

/-- An e-mail is handed to its sender if there is one, whose outcome it has. -/
theorem run_sendEmail (s : Service) (m : EmailMessage) (b : Bureau σ) :
    let outcome := (others (.sendEmail m) b.rest).1
    let (result, b') := (s.sendEmail m).run (answer S others) b
    result = (if s.email.isSome then outcome.map fun _ => () else .ok ()) ∧
      b'.sendings = b.sendings ++ (if s.email.isSome then [.email m outcome] else []) ∧
      b'.inbox = b.inbox := by
  intro outcome
  rw [Service.sendEmail]
  rcases hs : s.email with - | provider
  · exact ⟨rfl, (List.append_nil _).symm, rfl⟩
  · obtain ⟨hinbox, hsendings⟩ := run_log S others (isLogOf_email hs m outcome)
      (answer S others (.sendEmail m) b).2
    rw [run_ask_bind, Program.run_bind]
    exact ⟨rfl, hsendings, hinbox⟩

/-! ### Pushes -/

/-- Nothing has been handed to a sender, and nobody has tried to write a delivery log. -/
structure Bureau.Untouched (b b' : Bureau σ) : Prop where
  sendings : b'.sendings = b.sendings
  logs : b'.logs = b.logs
  writes : b'.writes = b.writes

/-- What comes of a push, and what becomes of the surroundings. -/
inductive PushCourse (s : Service) (m : PushMessage) (b : Bureau σ) :
    Except ServiceError PushReport × Bureau σ → Prop
  | refused (h : (b.wishes others m.userId).refuse .push = true) {b' : Bureau σ}
      (hb : b.Untouched b') : PushCourse s m b (.ok .empty, b')
  | lost (h : (b.wishes others m.userId).refuse .push = false) {error : ServiceError}
      (htokens : b.tokens others m.userId = .error error) {b' : Bureau σ} (hb : b.Untouched b') :
      PushCourse s m b (.error error, b')
  | idle (h : (b.wishes others m.userId).refuse .push = false) {tokens : List PushToken}
      (htokens : b.tokens others m.userId = .ok tokens)
      (hidle : (tokens.filter fun t => t.active) = [] ∨ s.push = none) {b' : Bureau σ}
      (hb : b.Untouched b') : PushCourse s m b (.ok .empty, b')
  | sent (h : (b.wishes others m.userId).refuse .push = false) {tokens : List PushToken}
      (htokens : b.tokens others m.userId = .ok tokens)
      (hactive : (tokens.filter fun t => t.active) ≠ []) (hs : s.push.isSome)
      {outcome : Except ServiceError PushReport}
      (houtcome : outcome = (others
        (.sendPush m ((tokens.filter fun t => t.active).map (·.token)))
        (b.searched others m.userId).rest).1) {b' : Bureau σ}
      (hb : b'.sendings = b.sendings ++
        [.push m ((tokens.filter fun t => t.active).map (·.token)) outcome]) :
      PushCourse s m b (outcome, b')

theorem sendings_run_logPush {provider : String} (hs : s.push = some provider) (m : PushMessage)
    (outcome : Except ServiceError PushReport) (b : Bureau σ) :
    ((Service.logPush m provider outcome).run (answer S others) b).2.sendings = b.sendings := by
  have hlog := (run_log S others (isLogOf_push hs m [] outcome) b).2
  rw [logPush_eq, Program.run_bind]
  rcases outcome with error | report
  · exact hlog
  · rw [reportPush]
    split
    · exact hlog
    · exact hlog

/-- The preferences of the user are looked up, then the push tokens, and then the push is handed to
    its sender, as far as there is a reason to. -/
theorem run_sendPush (s : Service) (m : PushMessage) (b : Bureau σ) :
    PushCourse others s m b ((s.sendPush m).run (answer S others) b) := by
  rw [Service.sendPush, Program.run_bind, run_isDisabled]
  rcases h : (b.wishes others m.userId).refuse .push with - | -
  · have hfound : answer S others (.tokens (.findByUser m.userId)) (b.consulted others m.userId) =
      (b.tokens others m.userId, b.searched others m.userId) := rfl
    change PushCourse others s m b (Program.run _ (ask (.tokens (.findByUser m.userId)) >>= _)
      (b.consulted others m.userId))
    rw [run_ask_bind, hfound]
    rcases htokens : b.tokens others m.userId with error | tokens
    · exact .lost h htokens ⟨rfl, rfl, rfl⟩
    · have hempty : ((tokens.filter fun t => t.active).map (·.token)).isEmpty = true ↔
          (tokens.filter fun t => t.active) = [] := by
        rw [List.isEmpty_iff, List.map_eq_nil_iff]
      dsimp only
      by_cases hactive : (tokens.filter fun t => t.active) = []
      · rw [if_pos (hempty.2 hactive)]
        exact .idle h htokens (.inl hactive) ⟨rfl, rfl, rfl⟩
      · rw [if_neg (hactive ∘ hempty.1)]
        rcases hs : s.push with - | provider
        · exact .idle h htokens (.inr hs) ⟨rfl, rfl, rfl⟩
        · dsimp only
          rw [run_ask_bind, Program.run_bind]
          exact .sent h htokens hactive (by simp [hs]) rfl (sendings_run_logPush S others hs m _ _)
  · exact .refused h ⟨rfl, rfl, rfl⟩

end Courier.Notification
