import Courier.Proofs.Notification.Indifference

/-!
# The delivery logs are a record of what was sent

Where delivery logs can always be written, there is one for everything that has been handed to a
sender, and nothing else in them: an e-mail, a text message or a push, but not what has come into an
inbox, and nothing where there was nothing to do. They are read by time and identifier, so they come
in the order of the attempts as long as the clock is not set back and nothing is asked of the
service before it is done with the last.

* `Bureau.Recorded`: there is one log for each attempt, with the identifiers and times in the order
  in which they were given.
* `kept_isRecorded`: every kind of step keeps that so.
* `Logs.OldestFirst`: the order in which the logs are read.
* `performAll_records`: all delivery logs, after one call after the other.
* `errands_disordered`: when they are not in the order of the attempts.
-/

namespace Courier.Notification

/-- There are delivery logs for what has been handed to senders, one for each, and they have the
    given numbers among the identifiers and the times that have been supplied. -/
structure Bureau.Recorded {σ : Type} (S : Supply) (s : Service) (b : Bureau σ)
    (written : List DeliveryLog) (stamps : List (Nat × Nat)) : Prop where
  records : List.Forall₂ (Records s) b.sendings written
  logs : b.logs = Table.empty.insertAll (·.id) written
  stamped : written.map (fun l => (l.id, l.createdAt)) =
    stamps.map fun p => (S.ids p.1, S.clock p.2)
  ascending : stamps.Pairwise fun p p' => p.1 < p'.1 ∧ p.2 < p'.2
  bounded : ∀ p ∈ stamps, p.1 < b.ids ∧ p.2 < b.readings

/-- There is one delivery log for everything that has been handed to a sender. -/
def Bureau.IsRecorded {σ : Type} (S : Supply) (s : Service) (b : Bureau σ) : Prop :=
  ∃ written stamps, b.Recorded S s written stamps

variable {σ : Type} {S : Supply} {others : (q : Request) → σ → q.Answer × σ} {s : Service}

namespace Bureau.IsRecorded

variable {b : Bureau σ}

/-- Whatever is neither handed to a sender nor logged leaves the record as it is. -/
theorem congr (h : b.IsRecorded S s) {b' : Bureau σ} (hsendings : b'.sendings = b.sendings)
    (hlogs : b'.logs = b.logs) (hids : b.ids ≤ b'.ids) (hreadings : b.readings ≤ b'.readings) :
    b'.IsRecorded S s := by
  obtain ⟨written, stamps, h⟩ := h
  exact ⟨written, stamps, {
    records := hsendings ▸ h.records
    logs := hlogs.trans h.logs
    stamped := h.stamped
    ascending := h.ascending
    bounded := fun p hp => (h.bounded p hp).imp (Nat.lt_of_lt_of_le · hids)
      (Nat.lt_of_lt_of_le · hreadings) }⟩

/-- An attempt that is logged at once has its record. -/
theorem log (h : b.IsRecorded S s) (hwrites : ∀ n, S.writes n = none) {x : Sending}
    {log : Action Unit} (hlog : IsLogOf s x log) (rest : σ) :
    (log.run (answer S others)
      { b with rest := rest, sendings := b.sendings ++ [x] }).2.IsRecorded S s := by
  obtain ⟨userId, channel, status, provider, messageId, error, rfl, hx⟩ := hlog
  obtain ⟨written, stamps, h⟩ := h
  -- The log is stamped with the next numbers, which are greater than all before.
  refine ⟨written ++ [.attempt (S.ids b.ids) (S.clock b.readings) userId channel status provider
    messageId error], stamps ++ [(b.ids, b.readings)], ?_⟩
  rw [run_logAttempt, Bureau.file, hwrites]
  exact {
    records := List.rel_append h.records (.cons (hx _ _) .nil)
    logs := by rw [Table.insertAll_concat, ← h.logs]
    stamped := by rw [List.map_append, h.stamped, List.map_append]; rfl
    ascending := List.pairwise_append.2 ⟨h.ascending, List.pairwise_singleton _ _,
      fun p hp p' hp' => List.mem_singleton.1 hp' ▸ h.bounded p hp⟩
    bounded := by
      intro p hp
      rcases List.mem_append.1 hp with hp | hp
      · exact (h.bounded p hp).imp Nat.lt_succ_of_lt Nat.lt_succ_of_lt
      · rw [List.mem_singleton.1 hp]
        exact ⟨Nat.lt_succ_self _, Nat.lt_succ_self _⟩ }

/-- What comes into an inbox is not recorded. -/
theorem receive (h : b.IsRecorded S s) (n : InAppNotification)
    (outcome : Except ServiceError Unit × σ) : (b.receive n outcome).2.IsRecorded S s := by
  rcases outcome with ⟨error | -, rest⟩
  · exact h.congr rfl rfl (Nat.le_refl _) (Nat.le_refl _)
  · exact h.congr rfl rfl (Nat.le_refl _) (Nat.le_refl _)

end Bureau.IsRecorded

/-- Every kind of step keeps the record. -/
theorem kept_isRecorded (hwrites : ∀ n, S.writes n = none) :
    Kept S others s (Bureau.IsRecorded S s) where
  passedOn {q} hq b h := by
    change (answer S others q b).2.IsRecorded S s
    rw [hq]
    exact h.congr rfl rfl (Nat.le_refl _) (Nat.le_refl _)
  noted _ _ h := h.congr rfl rfl (Nat.le_refl _) (Nat.le_refl _)
  identified _ h := h.congr rfl rfl (Nat.le_succ _) (Nat.le_refl _)
  timed _ h := h.congr rfl rfl (Nat.le_refl _) (Nat.le_succ _)
  stored n _ h := h.receive n _
  attempted {q sending} hq {log} hlog b h := by
    change ((log (answer S others q b).1 >>= fun _ => .done (answer S others q b).1).run
      (answer S others) (answer S others q b).2).2.IsRecorded S s
    rw [hq, Program.run_bind]
    exact h.log hwrites (hlog _) _

/-- The logs are about the channels over which the attempts were made. -/
theorem channels_eq {xs : List Sending} {ls : List DeliveryLog}
    (h : List.Forall₂ (Records s) xs ls) : ls.map (·.channel) = xs.map (·.channel) := by
  induction h with
  | nil => rfl
  | cons hx _ ih => exact congrArg₂ List.cons hx.channel ih

/-! ### All delivery logs -/

namespace Logs

/-- The order in which logs are read: by time, and then by identifier. -/
def OldestFirst (logs : List DeliveryLog) : Prop :=
  logs.Pairwise fun l l' => olderOrEqual (l.createdAt, l.id) (l'.createdAt, l'.id) = true

instance (logs : List DeliveryLog) : Decidable (OldestFirst logs) :=
  inferInstanceAs (Decidable (List.Pairwise _ logs))

theorem Store.oldestFirst_all (ls : Store) : OldestFirst ls.all :=
  pairwise_mergeSort_olderOrEqual (fun l : DeliveryLog => (l.createdAt, l.id)) _

/-- Logs are read as they were written if and only if they were written in that order. -/
theorem Store.all_eq_values_iff (ls : Store) : ls.all = ls.values ↔ OldestFirst ls.values :=
  ⟨fun h => h ▸ ls.oldestFirst_all, List.mergeSort_of_pairwise⟩

/-- Of two logs the older one comes first, also if it was written last. -/
theorem Store.all_of_values_eq {ls : Store} {l l' : DeliveryLog} (hvalues : ls.values = [l, l'])
    (h : olderOrEqual (l.createdAt, l.id) (l'.createdAt, l'.id) = false) : ls.all = [l', l] := by
  rw [all, hvalues]
  simp [List.mergeSort, h]

end Logs

/-- No identifier is among the first so many twice. -/
def Supply.GivesOnce (S : Supply) (n : Nat) : Prop := ∀ i j, i < j → j < n → S.ids i ≠ S.ids j

/-- Identifiers ascend among the first so many, and no time comes before an earlier one. -/
structure Supply.Ascends (S : Supply) (n : Nat) : Prop where
  ids : ∀ i j, i < j → j < n → (S.ids i).le (S.ids j) = true
  clock : ∀ i j, i ≤ j → S.clock i ≤ S.clock j

theorem olderOrEqual_of_le {t t' : Instant} {id id' : Uuid} (ht : t ≤ t')
    (hid : id.le id' = true) : olderOrEqual (t, id) (t', id') = true := by
  rw [olderOrEqual_iff]
  rcases Int.lt_or_eq_of_le (show t.ticks ≤ t'.ticks from ht) with hlt | heq
  · exact .inl hlt
  · exact .inr ⟨heq, of_decide_eq_true hid⟩

namespace Bureau.Recorded

variable {b : Bureau σ} {written : List DeliveryLog} {stamps : List (Nat × Nat)}

theorem values_eq (h : b.Recorded S s written stamps) (hids : S.GivesOnce b.ids) :
    b.logs.values = written := by
  have hnodup : (written.map (·.id)).Nodup := by
    have hmap : written.map (·.id) = stamps.map fun p => S.ids p.1 := by
      simpa [Function.comp_def] using congrArg (List.map Prod.fst) h.stamped
    rw [hmap, List.Nodup, List.pairwise_map]
    exact h.ascending.imp_of_mem fun _ hp' hlt => hids _ _ hlt.1 (h.bounded _ hp').1
  rw [h.logs, Table.values_insertAll hnodup fun _ _ => rfl]
  rfl

/-- The logs are from the oldest to the newest if identifiers and times ascend. -/
theorem oldestFirst (h : b.Recorded S s written stamps) (hascends : S.Ascends b.ids) :
    Logs.OldestFirst written := by
  have hstamps : (written.map fun l => (l.id, l.createdAt)).Pairwise
      fun x y => olderOrEqual (x.2, x.1) (y.2, y.1) = true := by
    rw [h.stamped, List.pairwise_map]
    refine h.ascending.imp_of_mem fun {p p'} _ hp' hlt => ?_
    have hid := hascends.ids _ _ hlt.1 (h.bounded p' hp').1
    have hclock := hascends.clock _ _ (Nat.le_of_lt hlt.2)
    exact olderOrEqual_of_le hclock hid
  exact List.pairwise_map.1 hstamps

end Bureau.Recorded

/-- Whatever is asked of the service, one call after the other: if delivery logs can always be
    written and no identifier is given twice, there is one delivery log for everything that has been
    handed to a sender, and no other. The logs are read from the oldest to the newest, so that they
    come in the order of the attempts if and only if they were written from the oldest to the newest
    one. So it is if identifiers and times ascend. -/
theorem performAll_records (S : Supply) (others : (q : Request) → σ → q.Answer × σ) (s : Service)
    (calls : List Call) (rest : σ) (inbox : Inbox.Store) (hwrites : ∀ n, S.writes n = none) :
    let b := ((performAll s calls).run (answer S others) (.opened rest inbox .empty)).2
    S.GivesOnce b.ids →
      (∃ written stamps, b.Recorded S s written stamps ∧ b.logs.all.Perm written ∧
        Logs.OldestFirst b.logs.all ∧ (b.logs.all = written ↔ Logs.OldestFirst written)) ∧
        (S.Ascends b.ids → List.Forall₂ (Records s) b.sendings b.logs.all) := by
  intro b hids
  have hopened : (Bureau.opened rest inbox .empty).IsRecorded S s :=
    ⟨[], [], .nil, rfl, rfl, .nil, fun _ hp => absurd hp List.not_mem_nil⟩
  have hsteady : Steady S S others s fun b b' => b.Alike inbox b' ∧ b.IsRecorded S s :=
    (steady_alike s).and (kept_isRecorded hwrites)
  -- The run is paired with itself, and only what it keeps matters.
  obtain ⟨-, -, written, stamps, h⟩ := performAll_paired hsteady calls
    (.opened rest inbox .empty) (.opened rest inbox .empty)
    ⟨⟨rfl, rfl, rfl, [], [], rfl, rfl, rfl⟩, hopened⟩
  have hvalues : b.logs.values = written := h.values_eq hids
  have hiff : b.logs.all = written ↔ Logs.OldestFirst written := by
    rw [← hvalues]
    exact b.logs.all_eq_values_iff
  refine ⟨⟨written, stamps, h, ?_, b.logs.oldestFirst_all, hiff⟩, fun hascends => ?_⟩
  · rw [← hvalues]
    exact List.mergeSort_perm ..
  · rw [hiff.2 (h.oldestFirst hascends)]
    exact h.records

section Morning

/-- A supply in which everything goes well. -/
def morning : Supply := ⟨Uuid.nth, fun n => ⟨n⟩, fun _ => none⟩

/-- Others who know a user with two devices, one of which is gone. No e-mail gets through to the
    user. -/
def acquaintances : (q : Request) → Unit → q.Answer × Unit
  | .clock, _ => (default, ())
  | .freshId, _ => (default, ())
  | .note _, _ => ((), ())
  | .outbox _, _ => (.error (.outbox "closed"), ())
  | .publish _, _ | .closePublisher, _ | .handle _ _, _ | .confirm _ _, _ =>
    (.error (.bus "closed"), ())
  | .inbox (.store _), _ => (.ok (), ())
  | .inbox _, _ => (.error (.infrastructure "closed"), ())
  | .preferences (.get _), _ => (.ok none, ())
  | .preferences _, _ => (.error (.infrastructure "closed"), ())
  | .tokens (.findByUser userId), _ =>
    (.ok [⟨Uuid.nil, userId, "watch", .ios, "", true, default, default⟩,
      ⟨Uuid.nil, userId, "phone", .android, "", true, default, default⟩], ())
  | .tokens _, _ => (.error (.infrastructure "closed"), ())
  | .logs _, _ => (.error (.infrastructure "closed"), ())
  | .sendEmail _, _ => (.error (.provider "post" "no such mailbox"), ())
  | .sendSms _, _ => (.ok (some "sms-1"), ())
  | .sendPush _ _, _ => (.ok ⟨1, 1, [⟨"phone", "unregistered"⟩], some "push-1"⟩, ())

/-- An e-mail that gets nowhere, a push to one of two devices, and a notification. -/
def errands : List Call :=
  [.sendEmail ⟨Uuid.nil, ["user@example.org"], [], [], "Welcome", "Hello", none, []⟩,
    .sendPush ⟨Uuid.nil, "Welcome", "Hello", .empty, none, none, none⟩,
    .sendInApp ⟨Uuid.nil, "welcome", "Welcome", "Hello", .empty, none, none⟩]

/-- The identifiers of that supply differ and ascend, as far as they are needed here. -/
theorem morning_spec (n : Nat) (hn : n ≤ 3) : morning.GivesOnce n ∧ morning.Ascends n := by
  have hne : ∀ j < 3, ∀ i < j, Uuid.nth i ≠ Uuid.nth j := by decide +kernel
  have hle : ∀ j < 3, ∀ i < j, (Uuid.nth i).le (Uuid.nth j) = true := by decide +kernel
  exact ⟨fun i j hij hj => hne j (Nat.lt_of_lt_of_le hj hn) i hij,
    fun i j hij hj => hle j (Nat.lt_of_lt_of_le hj hn) i hij, fun _ _ hij => Int.ofNat_le.2 hij⟩

/-- The e-mail and the push are recorded in this order, and the notification is not. -/
theorem performAll_records_errands :
    let s : Service := ⟨some "post", none, some "bell"⟩
    let b := ((performAll s errands).run (answer morning acquaintances)
      (.opened () .empty .empty)).2
    (∀ n, morning.writes n = none) ∧ morning.GivesOnce b.ids ∧ morning.Ascends b.ids ∧
      List.Forall₂ (Records s) b.sendings b.logs.all ∧ b.sendings.length = 2 ∧
      b.logs.values.map (·.status) = [.failed, .sent] := by
  intro s b
  obtain ⟨hgiven, hascends⟩ : morning.GivesOnce b.ids ∧ morning.Ascends b.ids :=
    morning_spec 3 (Nat.le_refl _)
  have hrecords :=
    performAll_records morning acquaintances s errands () .empty (fun _ => rfl) hgiven
  exact ⟨fun _ => rfl, hgiven, hascends, hrecords.2 hascends, rfl, rfl⟩

/-- A supply whose clock is set back each time before it is read. -/
def settingBack : Supply := ⟨Uuid.nth, fun n => ⟨-n⟩, fun _ => none⟩

/-- The surroundings after a program, if another one was run to its end while the first waited for
    the answer to its first question. -/
def runAround {α β : Type} (answer : (q : Request) → σ → q.Answer × σ) (inner : Action β) :
    Action α → σ → σ
  | .done _, st => (inner.run answer st).2
  | .ask q next, st =>
    let (r, st) := answer q st
    ((next r).run answer (inner.run answer st).2).2

/-- The logs do not come in the order of the attempts if the clock is set back between two of them,
    nor if a text message is sent while an e-mail is under way. -/
theorem errands_disordered :
    let s : Service := ⟨some "post", some "text", some "bell"⟩
    let opened : Bureau Unit := .opened () .empty .empty
    let b := ((performAll s errands).run (answer settingBack acquaintances) opened).2
    let b' := runAround (answer morning acquaintances) (s.sendSms ⟨Uuid.nil, "+15550100", "Hello"⟩)
      (performAll s (errands.take 1)) opened
    ((∀ n, settingBack.writes n = none) ∧ settingBack.GivesOnce b.ids ∧
      ¬List.Forall₂ (Records s) b.sendings b.logs.all) ∧
    (∀ n, morning.writes n = none) ∧ morning.GivesOnce b'.ids ∧ morning.Ascends b'.ids ∧
      ¬List.Forall₂ (Records s) b'.sendings b'.logs.all := by
  intro s opened b b'
  -- The push is logged after the e-mail, with an earlier time.
  obtain ⟨l, l', hvalues, holder, hchannels⟩ : ∃ l l', b.logs.values = [l, l'] ∧
      olderOrEqual (l.createdAt, l.id) (l'.createdAt, l'.id) = false ∧
      [l', l].map (·.channel) = [.push, .email] := ⟨_, _, rfl, by decide +kernel, rfl⟩
  rw [← Logs.Store.all_of_values_eq hvalues holder] at hchannels
  -- The e-mail is logged after the text message, although it was handed over before.
  have hoverlap : b'.logs.all.map (·.channel) = [.sms, .email] := by
    rw [b'.logs.all_eq_values_iff.2 (by decide +kernel)]
    rfl
  refine ⟨⟨fun _ => rfl, (morning_spec 3 (Nat.le_refl _)).1, fun h => ?_⟩, fun _ => rfl,
    (morning_spec 2 (by decide)).1, (morning_spec 2 (by decide)).2, fun h => ?_⟩
  · cases hchannels.symm.trans (channels_eq h)
  · cases hoverlap.symm.trans (channels_eq h)

end Morning

end Courier.Notification
