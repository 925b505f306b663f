import Courier.Proofs.Notification.Course
import Courier.Proofs.Notification.Records

/-!
# Preferences that cannot be had

Before it stores something in an inbox or hands over a push, the service looks up what the user
wants. When that cannot be had it goes on as if the user had stated nothing. The service is run
twice: once some of the look-ups fail, and once they find nothing instead. But for warnings in the
log nobody could tell the two runs apart.

* `LacksWarnings`: two logs of which the second one lacks some of these warnings.
* `scripted`, `pardon`: others whose look-ups go by a script, and the script with some of its
  failures replaced.
* `Bureau.Matches`: surroundings that are the same but for what is made up and for such warnings.
* `abreast_matches`: they are so whatever the service does.
* `performAll_lenient`: all of it, one call after the other.
-/

namespace Courier

/-- Whether it is reported that preferences could not be had. -/
def Notice.isPreferencesUnknown : Notice → Bool
  | preferencesUnknown .. => true
  | _ => false

namespace Notification

variable {σ : Type}

/-! ### Warnings -/

/-- The second log is the first one without so many warnings that preferences could not be had. -/
structure LacksWarnings (n : Nat) (notices notices' : List Notice) : Prop where
  sublist : notices'.Sublist notices
  otherwise : notices.filter (fun w => !w.isPreferencesUnknown) =
    notices'.filter fun w => !w.isPreferencesUnknown
  length : notices.length = notices'.length + n

namespace LacksWarnings

theorem refl (notices : List Notice) : LacksWarnings 0 notices notices :=
  ⟨.refl notices, rfl, rfl⟩

theorem append {n k : Nat} {notices notices' later later' : List Notice}
    (h : LacksWarnings n notices notices') (hlater : LacksWarnings k later later') :
    LacksWarnings (n + k) (notices ++ later) (notices' ++ later') where
  sublist := h.sublist.append hlater.sublist
  otherwise := by rw [List.filter_append, List.filter_append, h.otherwise, hlater.otherwise]
  length := by
    rw [List.length_append, List.length_append, h.length, hlater.length]
    omega

end LacksWarnings

/-! ### Scripts -/

/-- What a look-up finds, or nothing if it fails. -/
def Wishes.pardoned : Wishes → Wishes
  | .error _ => .ok none
  | .ok p => .ok p

/-- The script in which some of the look-ups find nothing instead of failing. -/
def pardon (which : Nat → Bool) (script : Nat → Wishes) (n : Nat) : Wishes :=
  if which n then (script n).pardoned else script n

/-- Others whose look-ups of preferences go by a script, one line after the other. -/
def scripted (script : Nat → Wishes) (others : (q : Request) → σ → q.Answer × σ) :
    (q : Request) → Nat × σ → q.Answer × (Nat × σ)
  | .preferences (.get _), st => (script st.1, st.1 + 1, st.2)
  | q, st => ((others q st.2).1, st.1, (others q st.2).2)

/-- Whether a look-up fails by the script and is pardoned. -/
def isPardoned (which : Nat → Bool) (script : Nat → Wishes) (n : Nat) : Bool :=
  which n && !(script n).isOk

/-- How many of the first look-ups are pardoned. -/
def pardons (which : Nat → Bool) (script : Nat → Wishes) (n : Nat) : Nat :=
  (List.range n).countP (isPardoned which script)

section Pardon

variable (which : Nat → Bool) (script : Nat → Wishes) (n : Nat)

theorem pardons_succ : pardons which script (n + 1) =
    pardons which script n + if isPardoned which script n then 1 else 0 := by
  rw [pardons, List.range_succ, List.countP_append, List.countP_singleton, pardons]

theorem refuse_pardon (channel : Channel) :
    (pardon which script n).refuse channel = (script n).refuse channel := by
  rw [pardon]
  split
  · rcases script n with error | p
    · rfl
    · rfl
  · rfl

/-- Of a look-up that is pardoned nothing is reported, and of any other one the same. -/
theorem warnings_pardon (userId : Uuid) :
    LacksWarnings (if isPardoned which script n then 1 else 0) ((script n).warnings userId)
      ((pardon which script n).warnings userId) := by
  rw [isPardoned, pardon]
  rcases which n with - | -
  · exact .refl _
  · rcases script n with error | p
    · exact ⟨List.nil_sublist _, rfl, rfl⟩
    · exact .refl _

end Pardon

/-! ### What nobody can tell apart -/

/-- The delivery log without what was made up for it: its identifier and its time. -/
def DeliveryLog.anonymous (l : DeliveryLog) : DeliveryLog :=
  { l with id := default, createdAt := default }

/-- Surroundings that are the same but for identifiers and times, if these were the notifications
    and the delivery logs to begin with, and but for a warning for each look-up that was pardoned,
    which the second ones lack. -/
structure Bureau.Matches (which : Nat → Bool) (script : Nat → Wishes) (inbox : Inbox.Store)
    (logs : Logs.Store) (b b' : Bureau (Nat × σ)) : Prop where
  rest : b.rest = b'.rest
  sendings : b.sendings = b'.sendings
  writes : b.writes = b'.writes
  notices : LacksWarnings (pardons which script b.rest.1) b.notices b'.notices
  /-- Notifications that are the same but for identifiers and times have been stored. -/
  inbox : ∃ stored stored' : List InAppNotification,
    stored.map InAppNotification.anonymous = stored'.map InAppNotification.anonymous ∧
      b.inbox = inbox.insertAll (·.id) stored ∧ b'.inbox = inbox.insertAll (·.id) stored'
  /-- So have delivery logs. -/
  logs : ∃ written written' : List DeliveryLog,
    written.map DeliveryLog.anonymous = written'.map DeliveryLog.anonymous ∧
      b.logs = logs.insertAll (·.id) written ∧ b'.logs = logs.insertAll (·.id) written'

variable {which : Nat → Bool} {script : Nat → Wishes} {inbox : Inbox.Store} {logs : Logs.Store}
  {others : (q : Request) → σ → q.Answer × σ}

namespace Bureau.Matches

variable {b b' : Bureau (Nat × σ)} (h : b.Matches which script inbox logs b')

include h

/-- What is reported in both runs makes no difference. -/
theorem report (notice : Notice) :
    (b.report notice).Matches which script inbox logs (b'.report notice) :=
  { h with notices := h.notices.append (.refl [notice]) }

/-- A look-up that is pardoned is not reported in the second run. -/
theorem consulted (userId : Uuid) :
    (b.consulted (scripted script others) userId).Matches which script inbox logs
      (b'.consulted (scripted (pardon which script) others) userId) := by
  -- The script is one line further, so that this look-up counts if it is pardoned.
  have hnotices : LacksWarnings (pardons which script (b.rest.1 + 1))
      (b.notices ++ (script b.rest.1).warnings userId)
      (b'.notices ++ (pardon which script b.rest.1).warnings userId) := by
    rw [pardons_succ]
    exact h.notices.append (warnings_pardon which script b.rest.1 userId)
  rw [Bureau.consulted, Bureau.consulted, Bureau.wishes, Bureau.wishes, ← h.rest]
  exact { h with rest := rfl, notices := hnotices }

/-- A notification comes into both inboxes or into neither, if it is the same but for its identifier
    and its time. -/
theorem receive {n n' : InAppNotification} (hn : n.anonymous = n'.anonymous)
    (outcome : Except ServiceError Unit) (st : σ) :
    (b.receive n (outcome, b.rest.1, st)).1 = (b'.receive n' (outcome, b.rest.1, st)).1 ∧
      (b.receive n (outcome, b.rest.1, st)).2.Matches which script inbox logs
        (b'.receive n' (outcome, b.rest.1, st)).2 := by
  obtain ⟨stored, stored', hstored, hinbox, hinbox'⟩ := h.inbox
  rcases outcome with error | -
  · exact ⟨rfl, { h with rest := rfl }⟩
  · refine ⟨rfl, { h with rest := rfl, inbox := ⟨stored ++ [n], stored' ++ [n'], ?_, ?_, ?_⟩ }⟩
    · simp [hstored, hn]
    · rw [Table.insertAll_concat, ← hinbox]
      rfl
    · rw [Table.insertAll_concat, ← hinbox']
      rfl

/-- A delivery log is written in both runs or in neither, since it fails by its number. -/
theorem file {S S' : Supply} (hS : S.writes = S'.writes) {l l' : DeliveryLog}
    (hl : l.anonymous = l'.anonymous) :
    (b.file S l).Matches which script inbox logs (b'.file S' l') := by
  obtain ⟨written, written', hwritten, hlogs, hlogs'⟩ := h.logs
  rw [Bureau.file, Bureau.file, ← hS, ← h.writes]
  rcases S.writes b.writes with - | error
  · refine { h with writes := rfl, logs := ⟨written ++ [l], written' ++ [l'], ?_, ?_, ?_⟩ }
    · simp [hwritten, hl]
    · rw [Table.insertAll_concat, ← hlogs]
    · rw [Table.insertAll_concat, ← hlogs']
  · exact { h.report (.bestEffortFailed "store delivery log" error.text) with writes := rfl }

/-- Where others have been asked something that is not in the script, they still answer the same. -/
theorem asked (st : σ) : { b with rest := (b.rest.1, st) }.Matches which script inbox logs
    { b' with rest := (b.rest.1, st) } :=
  { h with rest := rfl }

/-- What is handed to a sender in both runs makes no difference. -/
theorem send (x : Sending) :
    { b with sendings := b.sendings ++ [x] }.Matches which script inbox logs
      { b' with sendings := b'.sendings ++ [x] } :=
  { h with sendings := by rw [h.sendings] }

end Bureau.Matches

variable {S S' : Supply} {s : Service}

/-- The script says nothing about the question. -/
def IsUnscripted (q : Request) (others : (q : Request) → σ → q.Answer × σ) : Prop :=
  ∀ script st, scripted script others q st = ((others q st.2).1, st.1, (others q st.2).2)

/-- Whether a notification can be stored is not in the script. -/
theorem answer_store_scripted (script : Nat → Wishes) (n : InAppNotification)
    (b : Bureau (Nat × σ)) :
    answer S (scripted script others) (.inbox (.store n)) b =
      b.receive n ((others (.inbox (.store n.anonymous)) b.rest.2).1, b.rest.1,
        (others (.inbox (.store n.anonymous)) b.rest.2).2) := rfl

variable (which script inbox logs others S S') in
/-- Programs that come to the same whether some of the look-ups fail or find nothing. -/
abbrev Lenient {α : Type} (p p' : Action α) : Prop :=
  Program.Paired (answer S (scripted script others))
    (answer S' (scripted (pardon which script) others)) (Bureau.Matches which script inbox logs)
    Eq p p'

/-- To hand something over and to log that at once comes to the same. -/
theorem attempt_lenient (hS : S.writes = S'.writes) {q : Request} {sending : q.Answer → Sending}
    (hunscripted : IsUnscripted q others)
    (hq : ∀ script, IsSending (scripted script others) q sending)
    {log : q.Answer → Action Unit} (hlog : ∀ a, IsLogOf s (sending a) (log a)) :
    Lenient which script inbox logs others S S' (attempt q log) (attempt q log) := by
  have hask : Lenient which script inbox logs others S S' (ask q) (ask q) := by
    intro b b' h
    change (answer S (scripted script others) q b).1 =
        (answer S' (scripted (pardon which script) others) q b').1 ∧
      Bureau.Matches which script inbox logs (answer S (scripted script others) q b).2
        (answer S' (scripted (pardon which script) others) q b').2
    rw [hq, hq, hunscripted, hunscripted, ← h.rest]
    exact ⟨rfl, (h.asked _).send _⟩
  -- The two logs differ in what is made up for them, and in nothing else.
  have hlogged (a : q.Answer) : Lenient which script inbox logs others S S' (log a) (log a) := by
    obtain ⟨userId, channel, status, provider, messageId, error, heq, -⟩ := hlog a
    intro b b' h
    rw [heq, run_logAttempt, run_logAttempt]
    refine ⟨rfl, Bureau.Matches.file ?_ hS rfl⟩
    exact { h with }
  refine hask.bind ?_
  rintro a _ rfl
  exact (hlogged a).bind fun _ _ _ => .of_done rfl

/-- Whatever the service does, nobody can tell the two runs apart. -/
theorem abreast_matches (hS : S.writes = S'.writes) :
    Abreast (answer S (scripted script others))
      (answer S' (scripted (pardon which script) others)) s
      (Bureau.Matches which script inbox logs) where
  consulted userId channel b b' h := by
    rw [run_isDisabled, run_isDisabled]
    refine ⟨?_, h.consulted userId⟩
    rw [Bureau.wishes, Bureau.wishes, ← h.rest]
    exact (refuse_pardon which script b.rest.1 channel).symm
  found userId b b' h := by
    change (others (.tokens (.findByUser userId)) b.rest.2).1 =
        (others (.tokens (.findByUser userId)) b'.rest.2).1 ∧
      Bureau.Matches which script inbox logs _
        { b' with rest := (b'.rest.1, (others (.tokens (.findByUser userId)) b'.rest.2).2) }
    rw [← h.rest]
    exact ⟨rfl, h.asked _⟩
  noted notice _ _ h := ⟨rfl, h.report notice⟩
  identified _ _ h := ⟨trivial, { h with }⟩
  timed _ _ h := ⟨trivial, { h with }⟩
  stored {n n'} hn b b' h := by
    change (answer S (scripted script others) (.inbox (.store n)) b).1 =
        (answer S' (scripted (pardon which script) others) (.inbox (.store n')) b').1 ∧
      Bureau.Matches which script inbox logs
        (answer S (scripted script others) (.inbox (.store n)) b).2
        (answer S' (scripted (pardon which script) others) (.inbox (.store n')) b').2
    -- Others do not learn what was made up for a notification, so that they answer the same.
    rw [answer_store_scripted, answer_store_scripted, ← hn, ← h.rest]
    exact h.receive hn _ _
  mailed hs m := attempt_lenient hS (fun _ _ => rfl) (fun _ _ _ => rfl) (isLogOf_email hs m)
  texted hs m := attempt_lenient hS (fun _ _ => rfl) (fun _ _ _ => rfl) (isLogOf_sms hs m)
  pushed hs m tokens :=
    attempt_lenient hS (fun _ _ => rfl) (fun _ _ _ => rfl) (isLogOf_push hs m tokens)

/-- Whatever is asked of the service, one call after the other: had some of the look-ups found
    nothing instead of failing, the replies, what is handed to senders, the notifications and the
    delivery logs would have been the same but for identifiers and times, and so would be what is
    reported, but for one warning for each of these look-ups. Where a look-up has failed for a
    message to an inbox, the notification comes into it, if it can be stored. -/
theorem performAll_lenient (ids ids' : Nat → Uuid) (clock clock' : Nat → Instant)
    (writes : Nat → Option ServiceError) (which : Nat → Bool) (script : Nat → Wishes)
    (others : (q : Request) → σ → q.Answer × σ) (s : Service) (calls : List Call) (st : σ)
    (inbox : Inbox.Store) (logs : Logs.Store) :
    let (replies, b) := (performAll s calls).run
      (answer ⟨ids, clock, writes⟩ (scripted script others)) (.opened (0, st) inbox logs)
    let (replies', b') := (performAll s calls).run
      (answer ⟨ids', clock', writes⟩ (scripted (pardon which script) others))
      (.opened (0, st) inbox logs)
    replies.map Reply.anonymous = replies'.map Reply.anonymous ∧
      b.Matches which script inbox logs b' ∧
      ∀ (m : InAppMessage) (b : Bureau (Nat × σ)) (error : ServiceError),
        let n := m.notification (ids b.ids) (clock b.readings)
        let (result, b') :=
          (Service.sendInApp m).run (answer ⟨ids, clock, writes⟩ (scripted script others)) b
        script b.rest.1 = .error error →
          (others (.inbox (.store n.anonymous)) b.rest.2).1 = .ok () →
          result = .ok (some n) ∧ b'.inbox = b.inbox.insert n.id n := by
  have habreast : Abreast (answer ⟨ids, clock, writes⟩ (scripted script others))
      (answer ⟨ids', clock', writes⟩ (scripted (pardon which script) others)) s
      (Bureau.Matches which script inbox logs) := abreast_matches rfl
  obtain ⟨hreplies, hmatches⟩ := habreast.performAll_paired calls (.opened (0, st) inbox logs)
    (.opened (0, st) inbox logs) ⟨rfl, rfl, rfl, .refl _, ⟨[], [], rfl, rfl, rfl⟩, [], [], rfl, rfl,
      rfl⟩
  refine ⟨?_, hmatches, fun m b error => ?_⟩
  · rw [← List.forall₂_eq_eq_eq, List.forall₂_map_left_iff, List.forall₂_map_right_iff]
    exact hreplies
  · have hcourse := run_sendInApp ⟨ids, clock, writes⟩ (scripted script others) m b
    generalize (Service.sendInApp m).run (answer ⟨ids, clock, writes⟩ (scripted script others)) b =
      run at hcourse ⊢
    obtain ⟨result, b'⟩ := run
    intro n hscript hstored
    have hwishes : b.wishes (scripted script others) m.userId = .error error := hscript
    cases hcourse with
    | refused h =>
      rw [hwishes] at h
      exact absurd h Bool.false_ne_true
    | lost h houtcome => cases hstored.symm.trans houtcome
    | stored h houtcome hn hinbox =>
      subst hn
      exact ⟨rfl, hinbox⟩

section Outage

/-- A script in which no preferences can be had. -/
def outage : Nat → Wishes := fun _ => .error (.infrastructure "closed")

/-- An e-mail, a push and a notification for a user whose preferences cannot be had. Neither the
    push nor the notification is held up, and there is a warning of each. -/
theorem performAll_lenient_errands :
    let s : Service := ⟨some "post", none, some "bell"⟩
    let m : InAppMessage := ⟨Uuid.nil, "welcome", "Welcome", "Hello", .empty, none, none⟩
    let b₀ : Bureau (Nat × Unit) := .opened (0, ()) .empty .empty
    let b := ((performAll s errands).run (answer morning (scripted outage acquaintances)) b₀).2
    let b' := ((performAll s errands).run
      (answer morning (scripted (pardon (fun _ => true) outage) acquaintances)) b₀).2
    let (result, b₁) :=
      (Service.sendInApp m).run (answer morning (scripted outage acquaintances)) b₀
    let n := m.notification (Uuid.nth 0) ⟨0⟩
    b.Matches (fun _ => true) outage .empty .empty b' ∧ b.sendings.length = 2 ∧
      b.inbox.values.length = 1 ∧ (b.notices.filter (·.isPreferencesUnknown)).length = 2 ∧
      outage b₀.rest.1 = .error (.infrastructure "closed") ∧
      (acquaintances (.inbox (.store n.anonymous)) b₀.rest.2).1 = .ok () ∧
      result = .ok (some n) ∧ b₁.inbox = b₀.inbox.insert n.id n := by
  intro s m b₀ b b'
  obtain ⟨-, hmatches, hstored⟩ := performAll_lenient Uuid.nth Uuid.nth (fun n => ⟨n⟩)
    (fun n => ⟨n⟩) (fun _ => none) (fun _ => true) outage acquaintances s errands () .empty .empty
  exact ⟨hmatches, rfl, rfl, rfl, rfl, rfl, hstored m b₀ (.infrastructure "closed") rfl rfl⟩

end Outage

end Notification

end Courier
