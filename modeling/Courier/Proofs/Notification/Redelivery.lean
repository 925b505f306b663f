import Courier.Proofs.Notification.Gist
import Courier.Proofs.Notification.Records

/-!
# Deliveries that come again

An event may be delivered more than once. The consumer does not remember which events it has
handled, and so each delivery has its full effect: another notification like the one before, under
an identifier of its own, and another e-mail.

* `Bureau.Accounts`: what a transcript says of the surroundings is what becomes of them.
* `Tells`: what a transcript says of what has been brought to users.
* `processAll_run`: what remains when deliveries have been handled, one after the other.
* `processAll_twice`: what remains when an event has been delivered twice.
-/

namespace Courier.Notification

/-! ### What a transcript says -/

/-- The notification that has been stored, if there is one. -/
def stored? : (Σ q : Request, q.Answer) → Option InAppNotification
  | ⟨.inbox (.store n), .ok _⟩ => some n
  | _ => none

/-- The e-mail that has been handed to its sender, if there is one. -/
def mail? : (Σ q : Request, q.Answer) → Option EmailMessage
  | ⟨.sendEmail m, _⟩ => some m
  | _ => none

/-- The identifier that has been given, if there is one. -/
def given? : (Σ q : Request, q.Answer) → Option Uuid
  | ⟨.freshId, id⟩ => some id
  | _ => none

section

variable (calls calls' : Calls)

/-- The notifications that have been stored. -/
def storedBy : List InAppNotification := calls.filterMap stored?

/-- The e-mails that have been handed to their sender. -/
def mailedBy : List EmailMessage := calls.filterMap mail?

/-- The identifiers that have been given. -/
def givenBy : List Uuid := calls.filterMap given?

@[simp]
theorem storedBy_append : storedBy (calls ++ calls') = storedBy calls ++ storedBy calls' :=
  List.filterMap_append

@[simp]
theorem mailedBy_append : mailedBy (calls ++ calls') = mailedBy calls ++ mailedBy calls' :=
  List.filterMap_append

@[simp]
theorem givenBy_append : givenBy (calls ++ calls') = givenBy calls ++ givenBy calls' :=
  List.filterMap_append

theorem storedBy_gist : storedBy (gist calls) = storedBy calls := by
  refine filterMap_gist (fun call a h => ?_) calls
  unfold stored? at h
  split at h
  · rfl
  · cases h

theorem mailedBy_gist : mailedBy (gist calls) = mailedBy calls := by
  refine filterMap_gist (fun call a h => ?_) calls
  unfold mail? at h
  split at h
  · rfl
  · cases h

theorem givenBy_gist : givenBy (gist calls) = givenBy calls := by
  refine filterMap_gist (fun call a h => ?_) calls
  unfold given? at h
  split at h
  · rfl
  · cases h

end

/-! ### What becomes of the surroundings -/

variable {σ : Type}

/-- The e-mail that has been handed to its sender, if it is one. -/
def Sending.mail? : Sending → Option EmailMessage
  | email m _ => some m
  | sms _ _ | push _ _ _ => none

namespace Bureau

/-- The e-mails that have been handed to their sender. -/
def mails (b : Bureau σ) : List EmailMessage := b.sendings.filterMap Sending.mail?

/-- The stored notifications, without what was made up for them. -/
def notifications (b : Bureau σ) : List InAppNotification :=
  b.inbox.values.map InAppNotification.anonymous

/-- The identifiers that are given next. -/
def nextIds (S : Supply) (b : Bureau σ) (n : Nat) : List Uuid := (List.range' b.ids n).map S.ids

/-- What has been asked and answered is what has become of the surroundings. -/
structure Accounts (S : Supply) (b : Bureau σ) (calls : Calls) (b' : Bureau σ) : Prop where
  inbox : b'.inbox = b.inbox.insertAll (·.id) (storedBy calls)
  mails : b'.mails = b.mails ++ mailedBy calls
  given : givenBy calls = b.nextIds S (givenBy calls).length
  ids : b'.ids = b.ids + (givenBy calls).length

namespace Accounts

variable {S : Supply} {others : (q : Request) → σ → q.Answer × σ} {b b' b'' : Bureau σ}
  {calls calls' : Calls}

theorem refl (S : Supply) (b : Bureau σ) : b.Accounts S [] b :=
  ⟨rfl, (List.append_nil _).symm, rfl, rfl⟩

theorem trans (h : b.Accounts S calls b') (h' : b'.Accounts S calls' b'') :
    b.Accounts S (calls ++ calls') b'' where
  inbox := by
    rw [h'.inbox, h.inbox, storedBy_append]
    exact List.foldl_append.symm
  mails := by rw [h'.mails, h.mails, mailedBy_append, List.append_assoc]
  given := by
    rw [givenBy_append, List.length_append, nextIds, ← List.range'_append_1, List.map_append,
      ← h.ids]
    exact congrArg₂ (· ++ ·) h.given h'.given
  ids := by rw [h'.ids, h.ids, givenBy_append, List.length_append, Nat.add_assoc]

/-- Whatever changes neither the inbox nor the sendings, and takes no identifier. -/
theorem of_quiet {q : Request} {r : q.Answer} (hstored : stored? ⟨q, r⟩ = none)
    (hmail : mail? ⟨q, r⟩ = none) (hgiven : given? ⟨q, r⟩ = none) (hinbox : b'.inbox = b.inbox)
    (hmails : b'.mails = b.mails) (hids : b'.ids = b.ids) : b.Accounts S [⟨q, r⟩] b' where
  inbox := by simp [storedBy, hstored, hinbox, Table.insertAll]
  mails := by simp [mailedBy, hmail, hmails]
  given := by simp [givenBy, hgiven, nextIds]
  ids := by simp [givenBy, hgiven, hids]

/-- Each question changes the surroundings as its answer says. -/
theorem answer (S : Supply) (others : (q : Request) → σ → q.Answer × σ) (q : Request)
    (b : Bureau σ) :
    b.Accounts S [⟨q, (answer S others q b).1⟩] (Notification.answer S others q b).2 := by
  cases q with
  | freshId => exact ⟨rfl, (List.append_nil _).symm, rfl, rfl⟩
  | sendEmail m =>
    exact {
      inbox := rfl
      mails := List.filterMap_append
      given := rfl
      ids := rfl }
  | sendSms m | sendPush m tokens =>
    refine of_quiet rfl rfl rfl rfl ?_ rfl
    exact List.filterMap_append.trans (List.append_nil _)
  | logs op =>
    rw [Notification.answer]
    split
    · exact of_quiet rfl rfl rfl rfl rfl rfl
    · exact of_quiet rfl rfl rfl rfl rfl rfl
  | inbox op =>
    cases op with
    | store n =>
      rw [Notification.answer]
      rcases others (.inbox (.store n.anonymous)) b.rest with ⟨error | _, rest⟩
      · exact of_quiet rfl rfl rfl rfl rfl rfl
      · exact ⟨rfl, (List.append_nil _).symm, rfl, rfl⟩
    | _ => exact of_quiet rfl rfl rfl rfl rfl rfl
  | _ => exact of_quiet rfl rfl rfl rfl rfl rfl

/-- So does a whole run, as its transcript says. -/
theorem run {α : Type} (S : Supply) (others : (q : Request) → σ → q.Answer × σ) (p : Action α)
    (b : Bureau σ) :
    b.Accounts S (p.transcript (Notification.answer S others) b)
      (p.run (Notification.answer S others) b).2 := by
  induction p generalizing b with
  | done a => exact refl S b
  | ask q next ih => exact (answer S others q b).trans (ih _ _)

end Accounts

end Bureau

/-! ### What is brought -/

/-- The message to the inbox of the user. -/
def Occurrence.message : Occurrence → InAppMessage
  | .translation t => Notifier.announcement t
  | .user u => Notifier.inAppWelcome u

/-- The notification of what has happened, without what is made up for it. -/
def Occurrence.notification (o : Occurrence) : InAppNotification :=
  o.message.notification default default

/-- What users want does not change, nor whether notifications can be stored. -/
structure Constant (others : (q : Request) → σ → q.Answer × σ) (wishes : Uuid → Wishes)
    (stores : InAppNotification → Except ServiceError Unit) : Prop where
  wishes u st : (others (.preferences (.get u)) st).1 = wishes u
  stores n st : (others (.inbox (.store n)) st).1 = stores n

variable {S : Supply} {others : (q : Request) → σ → q.Answer × σ} {wishes : Uuid → Wishes}
  {stores : InAppNotification → Except ServiceError Unit}

/-- Whether a notification comes into the inbox of its user: the user takes notifications there, and
    it can be stored. -/
def takes (wishes : Uuid → Wishes) (stores : InAppNotification → Except ServiceError Unit)
    (n : InAppNotification) : Bool :=
  !(wishes n.userId).refuse .inApp && (stores n).isOk

/-- The answers are these. -/
structure Answered (wishes : Uuid → Wishes) (stores : InAppNotification → Except ServiceError Unit)
    (calls : Calls) : Prop where
  wishes u w (h : ⟨.preferences (.get u), w⟩ ∈ calls) : w = wishes u
  stores n outcome (h : ⟨.inbox (.store n), outcome⟩ ∈ calls) : outcome = stores n.anonymous

theorem Answered.mono {calls calls' : Calls} (h : Answered wishes stores calls)
    (hsub : calls' ⊆ calls) : Answered wishes stores calls' :=
  ⟨fun u w hmem => h.wishes u w (hsub hmem), fun n outcome hmem => h.stores n outcome (hsub hmem)⟩

theorem Constant.answered (h : Constant others wishes stores) {α : Type} (p : Action α)
    (b : Bureau σ) : Answered wishes stores (p.transcript (answer S others) b) where
  wishes u w hmem := by
    obtain ⟨b', rfl⟩ := Program.exists_of_mem_transcript hmem
    exact h.wishes u b'.rest
  stores n outcome hmem := by
    obtain ⟨b', rfl⟩ := Program.exists_of_mem_transcript hmem
    rw [← h.stores n.anonymous b'.rest, answer]
    rcases others (.inbox (.store n.anonymous)) b'.rest with ⟨error | _, rest⟩
    · rfl
    · rfl

/-- These notifications have been stored, but for what was made up for them, and these e-mails have
    been handed to their sender. At most so many identifiers have been taken for that, and each
    notification has one of its own. -/
structure Tells (ns : List InAppNotification) (ms : List EmailMessage) (n : Nat) (calls : Calls) :
    Prop where
  stored : (storedBy calls).map InAppNotification.anonymous = ns
  mailed : mailedBy calls = ms
  ids : ((storedBy calls).map (·.id)).Sublist (givenBy calls)
  given : (givenBy calls).length ≤ n

namespace Tells

variable {ns ns' : List InAppNotification} {ms ms' : List EmailMessage} {n n' : Nat}
  {calls calls' : Calls}

theorem nil (n : Nat) : Tells [] [] n [] := ⟨rfl, rfl, .slnil, Nat.zero_le n⟩

theorem mono (h : Tells ns ms n calls) (hle : n ≤ n') : Tells ns ms n' calls :=
  { h with given := h.given.trans hle }

theorem append (h : Tells ns ms n calls) (h' : Tells ns' ms' n' calls') :
    Tells (ns ++ ns') (ms ++ ms') (n + n') (calls ++ calls') where
  stored := by rw [storedBy_append, List.map_append, h.stored, h'.stored]
  mailed := by rw [mailedBy_append, h.mailed, h'.mailed]
  ids := by
    rw [storedBy_append, List.map_append, givenBy_append]
    exact h.ids.append h'.ids
  given := by
    rw [givenBy_append, List.length_append]
    exact Nat.add_le_add h.given h'.given

theorem of_gist (h : Tells ns ms n (gist calls)) : Tells ns ms n calls where
  stored := storedBy_gist calls ▸ h.stored
  mailed := mailedBy_gist calls ▸ h.mailed
  ids := storedBy_gist calls ▸ givenBy_gist calls ▸ h.ids
  given := givenBy_gist calls ▸ h.given

end Tells

variable {calls : Calls}

/-- A message comes into the inbox of a user who takes it. -/
theorem Inboxed.tells {m : InAppMessage} (h : Inboxed m calls)
    (hanswered : Answered wishes stores calls) :
    Tells ([m.notification default default].filter (takes wishes stores)) [] 1 calls := by
  cases h with
  | refused w h =>
    have htakes : takes wishes stores (m.notification default default) = false := by
      rw [hanswered.wishes _ _ List.mem_cons_self] at h
      simp [takes, InAppMessage.notification, h]
    rw [List.filter_cons_of_neg (by simp [htakes])]
    exact ⟨rfl, rfl, .slnil, Nat.zero_le 1⟩
  | stored w h id now outcome =>
    -- Whether the notification can be stored does not depend on what is made up for it.
    have hstores := hanswered.stores (m.notification id now) outcome (by simp)
    have htakes : takes wishes stores (m.notification default default) = outcome.isOk := by
      rw [hanswered.wishes _ _ List.mem_cons_self] at h
      rw [hstores]
      simp [takes, InAppMessage.notification, InAppNotification.anonymous, h]
    rcases outcome with error | _
    · rw [List.filter_cons_of_neg (by simp [htakes, Except.isOk, Except.toBool])]
      exact ⟨rfl, rfl, List.nil_sublist _, Nat.le_refl 1⟩
    · rw [List.filter_cons_of_pos (by simp [htakes, Except.isOk, Except.toBool])]
      exact ⟨rfl, rfl, List.Sublist.refl _, Nat.le_refl 1⟩

/-- An e-mail is handed over if there is a provider. -/
theorem Sent.tells {m : EmailMessage} {provider : Option String}
    (h : Sent (.sendEmail m) provider calls) :
    Tells [] (if provider.isSome then [m] else []) 1 calls := by
  cases h with
  | unprovided => exact .nil 1
  | sent provider outcome id => exact ⟨rfl, rfl, List.nil_sublist _, Nat.le_refl 1⟩

/-- What has happened is brought to its user. -/
theorem Brought.tells {s : Service} {o : Option Occurrence} (h : Brought s o calls)
    (hanswered : Answered wishes stores calls) :
    Tells ((o.toList.map Occurrence.notification).filter (takes wishes stores))
      (o.toList.flatMap (·.mails s)) 2 calls := by
  cases h with
  | nothing => exact .nil 2
  | @translation t calls h =>
    have hmails : [Occurrence.translation t].flatMap (·.mails s) = [] := by
      simp [Occurrence.mails, Occurrence.user?]
    rw [Option.toList_some, hmails]
    exact (h.tells hanswered).mono (by decide)
  | @user u calls calls' h h' =>
    have hmails : [Occurrence.user u].flatMap (·.mails s) =
        if s.email.isSome then [Notifier.emailWelcome u] else [] := by
      simp [Occurrence.mails, Occurrence.user?]
    have htells := (h.tells (hanswered.mono (List.subset_append_left calls calls'))).append h'.tells
    rw [List.append_nil] at htells
    rw [Option.toList_some, hmails]
    exact htells

/-! ### Deliveries -/

/-- Has deliveries handled, one after the other. -/
def processAll (s : Service) (topics : List String) (ds : List Delivery) : Action Unit :=
  ds.forM (Notifier.dispatcher s topics).process

/-- What has happened according to the events of deliveries. -/
def occurrences (ds : List Delivery) : List Occurrence :=
  ds.filterMap fun d => Occurrence.ofBusEvent? d.event

theorem occurrences_cons (d : Delivery) (ds : List Delivery) :
    occurrences (d :: ds) = (Occurrence.ofBusEvent? d.event).toList ++ occurrences ds := by
  rw [occurrences, List.filterMap_cons]
  cases Occurrence.ofBusEvent? d.event with
  | none => rfl
  | some o => rfl

theorem process_tells {s : Service} {topics : List String} {d : Delivery}
    (h : ((Notifier.dispatcher s topics).process d).Runs calls (.done ()))
    (hanswered : Answered wishes stores calls) :
    Tells (((Occurrence.ofBusEvent? d.event).toList.map Occurrence.notification).filter
        (takes wishes stores))
      ((Occurrence.ofBusEvent? d.event).toList.flatMap (·.mails s)) 2 calls :=
  .of_gist ((process_runs h).tells (hanswered.mono List.filter_sublist.subset))

theorem processAll_tells {s : Service} {topics : List String} {ds : List Delivery}
    (h : (processAll s topics ds).Runs calls (.done ()))
    (hanswered : Answered wishes stores calls) :
    Tells (((occurrences ds).map Occurrence.notification).filter (takes wishes stores))
      ((occurrences ds).flatMap (·.mails s)) (2 * ds.length) calls := by
  induction ds generalizing calls with
  | nil =>
    obtain ⟨rfl, -⟩ := h.of_done
    exact .nil 0
  | cons d ds ih =>
    obtain ⟨_, calls₁, calls₂, rfl, hfirst, hrest⟩ := h.of_bind
    have htells := process_tells hfirst (hanswered.mono (List.subset_append_left calls₁ calls₂))
    have htells' := ih hrest (hanswered.mono (List.subset_append_right calls₁ calls₂))
    rw [occurrences_cons, List.map_append, List.filter_append, List.flatMap_append]
    exact (htells.append htells').mono (by rw [List.length_cons]; omega)

/-- The next identifiers are different from each other, and no notification has one of them. -/
structure Bureau.GivesNew (S : Supply) (b : Bureau σ) (n : Nat) : Prop where
  once : (b.nextIds S n).Nodup
  new : ∀ id ∈ b.nextIds S n, b.inbox.get? id = none

theorem Bureau.GivesNew.mono {b : Bureau σ} {m n : Nat} (h : b.GivesNew S n) (hle : m ≤ n) :
    b.GivesNew S m := by
  have hsub : (b.nextIds S m).Sublist (b.nextIds S n) :=
    (List.range'_sublist_right.2 hle).map S.ids
  exact ⟨h.once.sublist hsub, fun id hid => h.new id (hsub.subset hid)⟩

/-- Deliveries that are handled one after the other each bring what has happened to its user. -/
theorem processAll_run (hothers : Constant others wishes stores) (s : Service)
    (topics : List String) (ds : List Delivery) {b : Bureau σ}
    (hnew : b.GivesNew S (2 * ds.length)) :
    let b' := ((processAll s topics ds).run (answer S others) b).2
    b'.notifications = b.notifications ++
        ((occurrences ds).map Occurrence.notification).filter (takes wishes stores) ∧
      b'.mails = b.mails ++ (occurrences ds).flatMap (·.mails s) := by
  intro b'
  have haccounts := Bureau.Accounts.run S others (processAll s topics ds) b
  have htells := processAll_tells ((processAll s topics ds).runs_transcript (answer S others) b)
    (hothers.answered _ b)
  generalize (processAll s topics ds).transcript (answer S others) b = calls at haccounts htells
  have hnew' := hnew.mono htells.given
  have hids : ((storedBy calls).map (·.id)).Sublist (b.nextIds S (givenBy calls).length) :=
    haccounts.given ▸ htells.ids
  -- The stored notifications have identifiers of their own, so that none takes another's place.
  have hvalues : b'.inbox.values = b.inbox.values ++ storedBy calls := by
    rw [haccounts.inbox]
    exact Table.values_insertAll (hnew'.once.sublist hids) fun n hn =>
      hnew'.new _ (hids.subset (List.mem_map_of_mem hn))
  refine ⟨?_, haccounts.mails.trans (by rw [htells.mailed])⟩
  rw [Bureau.notifications, hvalues, List.map_append, htells.stored]
  rfl

/-- When an event is delivered twice, the second delivery brings everything to its user once more:
    the notification that the first one has brought, and the e-mail. It makes no difference if and
    only if the event brings nothing at all. -/
theorem processAll_twice (hothers : Constant others wishes stores) (s : Service)
    (topics : List String) {d d' : Delivery} (hevent : d'.event = d.event) {b : Bureau σ}
    (hnew : b.GivesNew S 4) :
    let once := ((processAll s topics [d]).run (answer S others) b).2
    let twice := ((processAll s topics [d, d']).run (answer S others) b).2
    let happened := (Occurrence.ofBusEvent? d.event).toList
    let brought := (happened.map Occurrence.notification).filter (takes wishes stores)
    let mails := happened.flatMap (·.mails s)
    (once.notifications = b.notifications ++ brought ∧ once.mails = b.mails ++ mails) ∧
      (twice.notifications = once.notifications ++ brought ∧ twice.mails = once.mails ++ mails) ∧
      (twice.notifications = once.notifications ∧ twice.mails = once.mails ↔
        brought = [] ∧ mails = []) := by
  intro once twice happened brought mails
  have hone : occurrences [d] = happened :=
    (occurrences_cons d []).trans (List.append_nil _)
  have htwo : occurrences [d, d'] = happened ++ happened := by
    rw [occurrences_cons, occurrences_cons, hevent]
    exact congrArg (happened ++ ·) (List.append_nil _)
  obtain ⟨hbrought, hmails⟩ := processAll_run hothers s topics [d] (hnew.mono (by simp))
  obtain ⟨hbrought', hmails'⟩ := processAll_run hothers s topics [d, d'] hnew
  rw [hone] at hbrought hmails
  rw [htwo, List.map_append, List.filter_append, ← List.append_assoc, ← hbrought] at hbrought'
  rw [htwo, List.flatMap_append, ← List.append_assoc, ← hmails] at hmails'
  have htwice : twice.notifications = once.notifications ++ brought := hbrought'
  have htwice' : twice.mails = once.mails ++ mails := hmails'
  refine ⟨⟨hbrought, hmails⟩, ⟨htwice, htwice'⟩, ?_⟩
  rw [htwice, htwice', List.append_right_eq_self, List.append_right_eq_self]

section Newcomer

/-- A delivery of the event that a user has been created. -/
def arrival : Delivery :=
  ⟨⟨"1", userCreated, Json.Model.print (⟨.nil, "user@example.org", none⟩ : UserCreated)⟩,
    some .counted⟩

theorem ofBusEvent?_arrival :
    Occurrence.ofBusEvent? arrival.event = some (.user ⟨.nil, "user@example.org", none⟩) :=
  Occurrence.ofBusEvent?_eq rfl rfl

theorem constant_acquaintances :
    Constant acquaintances (fun _ => .ok none) (fun _ => .ok ()) :=
  ⟨fun _ _ => rfl, fun _ _ => rfl⟩

theorem givesNew_morning : (Bureau.opened () .empty .empty).GivesNew morning 4 :=
  ⟨by decide +kernel, fun _ _ => rfl⟩

/-- A new user whose event is delivered twice has two notifications and is sent two e-mails. -/
theorem processAll_twice_arrival :
    let s : Service := ⟨some "post", none, none⟩
    let b : Bureau Unit := .opened () .empty .empty
    let twice :=
      ((processAll s [userTopic] [arrival, arrival]).run (answer morning acquaintances) b).2
    Constant acquaintances (fun _ => .ok none) (fun _ => .ok ()) ∧ b.GivesNew morning 4 ∧
      twice.notifications.length = 2 ∧ twice.mails.length = 2 := by
  intro s b twice
  obtain ⟨⟨hbrought, hmails⟩, ⟨hbrought', hmails'⟩, -⟩ :=
    processAll_twice constant_acquaintances s [userTopic] (rfl : arrival.event = arrival.event)
      givesNew_morning
  rw [ofBusEvent?_arrival] at hbrought hmails hbrought' hmails'
  refine ⟨constant_acquaintances, givesNew_morning, ?_, ?_⟩
  · rw [hbrought', hbrought]
    rfl
  · rw [hmails', hmails]
    rfl

theorem occurrences_arrival :
    occurrences [arrival] = [.user ⟨.nil, "user@example.org", none⟩] ∧
      occurrences [arrival, arrival] =
        [.user ⟨.nil, "user@example.org", none⟩, .user ⟨.nil, "user@example.org", none⟩] := by
  refine ⟨?_, ?_⟩
  · rw [occurrences_cons, ofBusEvent?_arrival]
    rfl
  · rw [occurrences_cons, occurrences_cons, ofBusEvent?_arrival]
    rfl

/-- The second delivery makes a difference, to the notifications and to the e-mails. -/
theorem processAll_arrival_ne :
    let s : Service := ⟨some "post", none, none⟩
    let b : Bureau Unit := .opened () .empty .empty
    let left (ds : List Delivery) :=
      ((processAll s [userTopic] ds).run (answer morning acquaintances) b).2
    (left [arrival, arrival]).notifications ≠ (left [arrival]).notifications ∧
      (left [arrival, arrival]).mails ≠ (left [arrival]).mails := by
  intro s b left
  obtain ⟨hone, htwo⟩ := occurrences_arrival
  obtain ⟨hbrought, hmails⟩ := processAll_run constant_acquaintances s [userTopic] [arrival]
    (givesNew_morning.mono (by simp))
  obtain ⟨hbrought', hmails'⟩ := processAll_run constant_acquaintances s [userTopic]
    [arrival, arrival] givesNew_morning
  rw [hone] at hbrought hmails
  rw [htwo] at hbrought' hmails'
  refine ⟨fun h => ?_, fun h => ?_⟩
  · have hlength := congrArg List.length (hbrought'.symm.trans (h.trans hbrought))
    exact absurd hlength (by decide)
  · have hlength := congrArg List.length (hmails'.symm.trans (h.trans hmails))
    exact absurd hlength (by decide)

end Newcomer

end Courier.Notification
