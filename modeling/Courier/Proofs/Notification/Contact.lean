import Courier.Proofs.Notification.Conduct
import Courier.Proofs.Notification.Gist
import Courier.Proofs.Notification.Records

/-!
# Users who want to be left alone

A user may turn a channel off. Before it stores something in an inbox or hands over a push the
service asks for the preferences, and leaves a user alone who has turned that channel off. Before an
e-mail or a text message it does not ask, and so these reach every user to whom they are addressed,
whatever the preferences are.

* `contacts`: the users whom the service reaches, and over which channels.
* `Call.addressees`: those whom it is asked to reach.
* `Reached`: whom it reaches although they have turned the channel off.
* `performAll_contacts_iff`: the same of one call after the other.
-/

namespace Courier.Notification

/-! ### Contacts -/

/-- The user whom a question reaches, and over which channel. -/
def contact? : Request → Option (Uuid × Channel)
  | .inbox (.store n) => some (n.userId, .inApp)
  | .sendEmail m => some (m.userId, .email)
  | .sendSms m => some (m.userId, .sms)
  | .sendPush m _ => some (m.userId, .push)
  | _ => none

/-- The users whom the service reaches, and over which channels. -/
def contacts (calls : Calls) : List (Uuid × Channel) := calls.filterMap fun call => contact? call.1

/-- Whenever the preferences of a user are asked for, they can be had and turn a channel off. -/
def Refuses (u : Uuid) (c : Channel) (calls : Calls) : Prop :=
  ∀ wishes : Wishes, ⟨.preferences (.get u), wishes⟩ ∈ calls → wishes.refuse c = true

/-- The users whom what has happened is to reach, and over which channels. -/
def Occurrence.addressees : Occurrence → List (Uuid × Channel)
  | .translation t => [(t.userId, .inApp)]
  | .user u => [(u.userId, .inApp), (u.userId, .email)]

/-- The users whom the service is asked to reach, and over which channels. -/
def Call.addressees : Call → List (Uuid × Channel)
  | .sendInApp m => [(m.userId, .inApp)]
  | .sendPush m => [(m.userId, .push)]
  | .sendEmail m => [(m.userId, .email)]
  | .sendSms m => [(m.userId, .sms)]
  | .announce e =>
    ((Json.Model.parse e.payload).toOption.map Occurrence.translation).elim [] (·.addressees)
  | .greet e => ((Json.Model.parse e.payload).toOption.map Occurrence.user).elim [] (·.addressees)

variable {calls calls' : Calls} {u : Uuid} {c : Channel}

@[simp]
theorem contacts_gist : contacts (gist calls) = contacts calls := by
  refine filterMap_gist (fun call a h => ?_) calls
  rcases call with ⟨q, answer⟩
  dsimp only at h
  unfold contact? at h
  split at h
  all_goals first | rfl | cases h

theorem Refuses.gist (h : Refuses u c calls) : Refuses u c (gist calls) :=
  fun wishes hmem => h wishes (List.mem_filter.1 hmem).1

/-! ### Channels -/

/-- The service reaches a user over a channel, although the user has turned that off, if and only if
    it is asked to and has a provider for it, and the channel is one of the two for which it does
    not ask for the preferences. -/
def Reached (s : Service) (u : Uuid) (c : Channel) (targets : List (Uuid × Channel))
    (calls : Calls) : Prop :=
  Refuses u c calls →
    ((u, c) ∈ contacts calls ↔
      (c = .email ∨ c = .sms) ∧ (s.provider? c).isSome ∧ (u, c) ∈ targets)

namespace Reached

variable {s : Service} {targets targets' : List (Uuid × Channel)}

theorem nil : Reached s u c [] [] := by
  intro _
  simp [contacts]

theorem append (h : Reached s u c targets calls) (h' : Reached s u c targets' calls') :
    Reached s u c (targets ++ targets') (calls ++ calls') := by
  intro hrefuses
  have hleft := h fun wishes hmem => hrefuses wishes (List.mem_append_left _ hmem)
  have hright := h' fun wishes hmem => hrefuses wishes (List.mem_append_right _ hmem)
  rw [contacts, List.filterMap_append, List.mem_append, List.mem_append]
  rw [contacts] at hleft hright
  rw [hleft, hright, ← and_or_left, ← and_or_left]

/-- A user is spared over a channel for which the preferences are asked for. -/
theorem of_spared {user : Uuid} {channel : Channel} (hemail : channel ≠ .email)
    (hsms : channel ≠ .sms) (h : Refuses u c calls → (u, c) ∉ contacts calls) :
    Reached s u c [(user, channel)] calls := by
  refine fun hrefuses => iff_of_false (h hrefuses) ?_
  rintro ⟨hchannel, -, htarget⟩
  obtain ⟨-, rfl⟩ := Prod.mk.inj (List.mem_singleton.1 htarget)
  exact hchannel.elim hemail hsms

end Reached

theorem Inboxed.reached {s : Service} {m : InAppMessage} (h : Inboxed m calls) :
    Reached s u c [(m.userId, .inApp)] calls := by
  refine .of_spared (by decide) (by decide) fun hrefuses => ?_
  cases h with
  | refused wishes h => simp [contacts, contact?]
  | stored wishes h id now outcome =>
    intro hmem
    obtain ⟨rfl, rfl⟩ : u = m.userId ∧ c = .inApp := by
      simpa [contacts, contact?, InAppMessage.notification] using hmem
    simp [hrefuses wishes List.mem_cons_self] at h

theorem Pushed.reached {s : Service} {m : PushMessage} (h : Pushed m calls) :
    Reached s u c [(m.userId, .push)] calls := by
  refine .of_spared (by decide) (by decide) fun hrefuses => ?_
  cases h with
  | unsent wishes => simp [contacts, contact?]
  | sent wishes h tokens outcome id =>
    intro hmem
    obtain ⟨rfl, rfl⟩ : u = m.userId ∧ c = .push := by
      simpa [contacts, contact?] using hmem
    simp [hrefuses wishes List.mem_cons_self] at h

theorem Sent.reached {s : Service} {q : Request} {user : Uuid} {channel : Channel}
    (h : Sent q (s.provider? channel) calls) (hq : contact? q = some (user, channel))
    (hchannel : channel = .email ∨ channel = .sms) : Reached s u c [(user, channel)] calls := by
  -- What the preferences are is not asked, and makes no difference.
  intro _
  have hmem : (u, c) ∈ contacts calls ↔
      (s.provider? channel).isSome ∧ (u, c) = (user, channel) := by
    generalize s.provider? channel = provider at h ⊢
    cases h with
    | unprovided => simp [contacts]
    | sent provider outcome id =>
      have hid : contact? .freshId = none := rfl
      simp [contacts, hq, hid, eq_comm]
  rw [hmem, List.mem_singleton]
  refine ⟨?_, fun ⟨_, hprovider, htarget⟩ => ?_⟩
  · rintro ⟨hprovider, htarget⟩
    obtain ⟨rfl, rfl⟩ := Prod.mk.inj htarget
    exact ⟨hchannel, hprovider, rfl⟩
  · obtain ⟨rfl, rfl⟩ := Prod.mk.inj htarget
    exact ⟨hprovider, rfl⟩

/-! ### Calls -/

theorem Brought.reached {s : Service} {o : Option Occurrence} (h : Brought s o calls) :
    Reached s u c (o.elim [] (·.addressees)) calls := by
  cases h with
  | nothing => exact .nil
  | translation h => exact h.reached
  | user h h' => exact h.reached.append (h'.reached rfl (.inl rfl))

theorem perform_runs {s : Service} {call : Call} {reply : Reply}
    (h : (call.perform s).Runs calls (.done reply)) :
    Reached s u c call.addressees (gist calls) := by
  cases call with
  | sendInApp m =>
    obtain ⟨_, h⟩ := h.of_bind_pure
    exact (sendInApp_runs h).reached
  | sendPush m =>
    obtain ⟨_, h⟩ := h.of_bind_pure
    exact (sendPush_runs h).reached
  | sendEmail m =>
    obtain ⟨_, h⟩ := h.of_bind_pure
    exact (sendEmail_runs h).reached rfl (.inl rfl)
  | sendSms m =>
    obtain ⟨_, h⟩ := h.of_bind_pure
    exact (sendSms_runs h).reached rfl (.inr rfl)
  | announce e =>
    obtain ⟨_, h⟩ := h.of_bind_pure
    exact (announce_runs h).reached
  | greet e =>
    obtain ⟨_, h⟩ := h.of_bind_pure
    exact (greet_runs h).reached

theorem performAll_runs {s : Service} {asked : List Call} {replies : List Reply}
    (h : (performAll s asked).Runs calls (.done replies)) :
    Reached s u c (asked.flatMap Call.addressees) (gist calls) := by
  induction asked generalizing calls replies with
  | nil =>
    obtain ⟨rfl, -⟩ := h.of_done
    exact .nil
  | cons call asked ih =>
    rw [performAll, List.mapM_cons] at h
    obtain ⟨reply, calls₁, calls₂, rfl, hfirst, hrest⟩ := h.of_bind
    obtain ⟨replies, hrest⟩ := hrest.of_bind_pure
    rw [gist_append]
    exact (perform_runs hfirst).append (ih hrest)

/-- Whatever is asked of the service, one call after the other, and however everything is answered:
    a user who has turned a channel off is reached over it if and only if some call is addressed to
    the user over this channel, the channel has a provider, and it is that of e-mails or that of
    text messages. -/
theorem performAll_contacts_iff {σ : Type} (answer : (q : Request) → σ → q.Answer × σ) (st : σ)
    (s : Service) (asked : List Call) (u : Uuid) (c : Channel)
    (h : Refuses u c ((performAll s asked).transcript answer st)) :
    (u, c) ∈ contacts ((performAll s asked).transcript answer st) ↔
      (c = .email ∨ c = .sms) ∧ (s.provider? c).isSome ∧
        ∃ call ∈ asked, (u, c) ∈ call.addressees := by
  rw [← contacts_gist, performAll_runs ((performAll s asked).runs_transcript answer st) h.gist,
    List.mem_flatMap]

section Recluse

/-- Others who know that every user has turned all channels off. -/
def recluse : (q : Request) → Unit → q.Answer × Unit
  | .preferences (.get userId), _ =>
    (.ok (some ⟨userId, false, false, false, false, none, none, default⟩), ())
  | q, _ => acquaintances q ()

theorem refuses_recluse {α : Type} (p : Action α) : Refuses u c (p.transcript recluse ()) := by
  intro wishes hmem
  obtain ⟨st, rfl⟩ := Program.exists_of_mem_transcript hmem
  cases c <;> rfl

/-- Of an e-mail, a push and a notification, the e-mail alone reaches a user who has turned all
    channels off. -/
theorem performAll_contacts_recluse :
    let t := (performAll ⟨some "post", none, some "bell"⟩ errands).transcript recluse ()
    Refuses .nil .push t ∧ (.nil, .push) ∉ contacts t ∧
      Refuses .nil .inApp t ∧ (.nil, .inApp) ∉ contacts t ∧
      Refuses .nil .email t ∧ (.nil, .email) ∈ contacts t := by
  intro t
  have hiff (c : Channel) := performAll_contacts_iff recluse () ⟨some "post", none, some "bell"⟩
    errands .nil c (refuses_recluse _)
  refine ⟨refuses_recluse _, ?_, refuses_recluse _, ?_, refuses_recluse _, ?_⟩
  · exact fun h => absurd ((hiff .push).1 h).1 (by decide)
  · exact fun h => absurd ((hiff .inApp).1 h).1 (by decide)
  · exact (hiff .email).2 ⟨.inl rfl, rfl, _, List.mem_cons_self, List.mem_cons_self⟩

/-- A new user who has turned e-mails off is welcomed by e-mail all the same. -/
theorem contacts_newcomer :
    let u : UserCreated := ⟨.nil, "user@example.org", none⟩
    let t := (performAll ⟨some "post", none, none⟩
      [.greet ⟨"", userCreated, Json.Model.print u⟩]).transcript recluse ()
    Refuses .nil .email t ∧ (.nil, .email) ∈ contacts t := by
  intro u t
  have hrefuses : Refuses .nil .email t := refuses_recluse _
  refine ⟨hrefuses, ?_⟩
  have hreached := performAll_runs (u := .nil) (c := .email) (Program.runs_transcript recluse
    (performAll ⟨some "post", none, none⟩ [.greet ⟨"", userCreated, Json.Model.print u⟩]) ())
  rw [← contacts_gist]
  refine (hreached hrefuses.gist).2 ⟨.inl rfl, rfl, ?_⟩
  simp [Call.addressees, UserCreated.parse_print, Except.toOption, Occurrence.addressees, u]

end Recluse

end Courier.Notification
