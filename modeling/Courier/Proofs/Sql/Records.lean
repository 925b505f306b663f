import Courier.Proofs.Fallible
import Courier.Proofs.Sql.Session
import Courier.Proofs.Sql.Value
import Courier.Simulation.Database
import Courier.Sql.Notification
import Courier.Sql.Outbox

/-!
# Records come back from a database

Each of the five tables has a session that stores a record and sessions that look for records. What
they bind and what they read are two lists of columns, that have to agree in their order, in the
types of the columns, in the names of states and in what may be null. They do: a record whose times
are whole microseconds is found as it was stored, but for a count of failures or attempts that is
greater than its column has room for.

* `IsWhole`, for each of the records: all its times are whole microseconds.
* `Outbox.decode_row`, `Inbox.decode_row`, `Preferences.decode_row`, `Tokens.decode_row`,
  `Logs.decode_row`: a row is read as the record whose values stand in it.
* `Outbox.perform_store_rowsPut`, `ComesBack.of_execute`: what is put is the row of the record.
* `records_comeBack`: what a session stores is what the sessions that look for it find.
-/

namespace Courier

namespace Outbox.Event

/-- All times of the event are whole microseconds. -/
def IsWhole (e : Event) : Prop := e.createdAt.IsWhole ∧ ∀ t ∈ e.publishedAt, t.IsWhole

/-- The event with as many failures as a column has room for. -/
def capped (e : Event) : Event := { e with retryCount := min e.retryCount 2147483647 }

end Outbox.Event

namespace Notification

/-- All times of the notification are whole microseconds. -/
def InAppNotification.IsWhole (n : InAppNotification) : Prop :=
  n.createdAt.IsWhole ∧ ∀ t ∈ n.readAt, t.IsWhole

/-- All times of the preferences are whole microseconds. -/
def UserPreferences.IsWhole (p : UserPreferences) : Prop :=
  p.updatedAt.IsWhole ∧ (∀ t ∈ p.quietStart, t.IsWhole) ∧ ∀ t ∈ p.quietEnd, t.IsWhole

/-- All times of the push token are whole microseconds. -/
def PushToken.IsWhole (t : PushToken) : Prop := t.createdAt.IsWhole ∧ t.updatedAt.IsWhole

/-- All times of the delivery log are whole microseconds. -/
def DeliveryLog.IsWhole (l : DeliveryLog) : Prop :=
  l.createdAt.IsWhole ∧ ∀ t ∈ l.deliveredAt, t.IsWhole

/-- The delivery log with as many attempts as a column has room for. -/
def DeliveryLog.capped (l : DeliveryLog) : DeliveryLog :=
  { l with attempts := min l.attempts 2147483647 }

/-- The named value of a name. -/
@[simp]
theorem named?_name {α : Type} [Named α] (what : String) (a : α) :
    named? what (Named.name a) = .ok a := by
  rw [named?, Named.ofName?_name]

end Notification

namespace Sql

open Notification

/-- A session of a single insertion puts one row. -/
theorem ComesBack.of_execute {α : Type} {r : Relation} {text : String} {params : List Value}
    {find : Session (Except ServiceError α)} {a : α} (htext : r.insertion.toList <+: text.toList)
    (hlength : params.length = r.columns.length)
    (hfind : (find.run (replying [r.row params]) ()).1 = .ok a) :
    ComesBack r
      (do let affected ← execute text params; return served (fun _ => .ok ()) affected) find a := by
  intro calls hcalls
  obtain ⟨answer, calls₁, calls₂, rfl, hexecute, hrest⟩ := hcalls.of_bind
  obtain ⟨rfl, hanswer⟩ := hrest.of_done
  cases answer with
  | error failure => cases hanswer
  | ok count =>
    rw [List.append_nil, execute_rowsPut hexecute, row?_of_prefix htext hlength]
    exact hfind

theorem keeps_instant? {o : Option Instant} (h : ∀ t ∈ o, t.IsWhole) : Keeps o :=
  keeps_option fun t ht => keeps_instant (h t ht)

theorem keeps_timeOfDay? {o : Option TimeOfDay} (h : ∀ t ∈ o, t.IsWhole) : Keeps o :=
  keeps_option fun t ht => keeps_timeOfDay (h t ht)

/-! ### Events -/

namespace Outbox

open Courier.Outbox

/-- A row is read as the event whose values stand in it. -/
theorem decode_row {e : Event} (h : e.IsWhole) :
    decode (relation.row (params e)) = .ok (.ok e.capped) := by
  have hcreated : Keeps e.createdAt := keeps_instant h.1
  have hpublished : Keeps e.publishedAt := keeps_instant? h.2
  have hstatus : Status.ofText? e.status.name = .ok e.status := by
    rw [Status.ofText?, show e.status.name = Named.name e.status from rfl, Named.ofName?_name]
  simp [decode, relation, Relation.row, params, hcreated, hpublished, hstatus, ok_bind, pure,
    Except.pure, Except.map, Event.capped]

/-- The insertions of a batch put a row for each event. -/
theorem insertAll_rowsPut {batch : List Event} {calls : Transcript Request Request.Answer}
    (h : (insertAll batch).Runs calls (.done (.ok ()))) :
    rowsPut relation calls = batch.map fun e => relation.row (params e) := by
  induction batch generalizing calls with
  | nil =>
    obtain ⟨rfl, -⟩ := h.of_done
    rfl
  | cons e es ih =>
    obtain ⟨answer, calls₁, calls₂, rfl, hrun, hrest⟩ := h.of_bind
    cases answer with
    | error failure => cases hrest.of_done.2
    | ok reply =>
      rw [rowsPut_append, run_rowsPut hrun, row?_of_prefix List.prefix_rfl rfl, ih hrest]
      rfl

theorem perform_store_rowsPut {batch : List Event} {calls : Transcript Request Request.Answer}
    (h : (perform (.store batch)).Runs calls (.done (.ok ()))) :
    rowsPut relation calls = batch.map fun e => relation.row (params e) := by
  obtain ⟨answer, calls₁, calls₂, rfl, hstore, hrest⟩ := h.of_bind
  obtain ⟨rfl, hanswer⟩ := hrest.of_done
  rw [List.append_nil]
  cases answer with
  | error failure => cases hanswer
  | ok _ =>
    rw [store] at hstore
    split at hstore
    next hempty =>
      obtain ⟨rfl, -⟩ := hstore.of_done
      rw [List.isEmpty_iff.1 hempty]
      rfl
    next =>
      obtain ⟨calls', hinsert, hput⟩ := transaction_rowsPut hstore
      rw [hput, insertAll_rowsPut hinsert]

theorem fetch_replying {batch : List Event} (h : ∀ e ∈ batch, e.IsWhole) (status : Status)
    {limit : Int} (hlimit : 0 < limit) :
    ((fetch status limit).run (replying (batch.map fun e => relation.row (params e))) ()).1 =
      .ok (batch.map Event.capped) := by
  have hrows : (batch.map fun e => relation.row (params e)).mapM decode =
      .ok (batch.map fun e => .ok e.capped) := mapM_map_eq_ok fun e he => decode_row (h e he)
  have hevents : (batch.map fun e => (.ok e.capped : Except DeliveryError Event)).mapM id =
      .ok (batch.map Event.capped) := mapM_map_eq_ok fun _ _ => rfl
  rw [fetch, if_neg (Int.not_le.2 hlimit), Program.run_bind, run_fetchAll, hrows]
  exact hevents

end Outbox

/-! ### Notifications -/

namespace Inbox

/-- A row is read as the notification whose values stand in it. -/
theorem decode_row {n : InAppNotification} (h : n.IsWhole) :
    decode (relation.row (params n)) = .ok n := by
  have hcreated : Keeps n.createdAt := keeps_instant h.1
  have hread : Keeps n.readAt := keeps_instant? h.2
  simp [decode, relation, Relation.row, params, hcreated, hread, ok_bind, pure, Except.pure]

theorem findById_replying {n : InAppNotification} (h : n.IsWhole) (id : Uuid) :
    ((perform (.findById id)).run (replying [relation.row (params n)]) ()).1 = .ok (some n) := by
  rw [perform, Program.run_bind, run_fetchFirst, List.head?_cons, Option.mapM_some, decode_row h]
  rfl

theorem findByUser_replying {n : InAppNotification} (h : n.IsWhole) (userId : Uuid)
    (limit offset : Nat) :
    ((perform (.findByUser userId limit offset)).run (replying [relation.row (params n)]) ()).1 =
      .ok [n] := by
  rw [perform, Program.run_bind, run_fetchAll, List.mapM_cons, decode_row h]
  rfl

end Inbox

/-! ### Preferences -/

namespace Preferences

/-- A row is read as the preferences whose values stand in it. -/
theorem decode_row {p : UserPreferences} (h : p.IsWhole) :
    decode (relation.row (params p)) = .ok p := by
  have hupdated : Keeps p.updatedAt := keeps_instant h.1
  have hstart : Keeps p.quietStart := keeps_timeOfDay? h.2.1
  have hend : Keeps p.quietEnd := keeps_timeOfDay? h.2.2
  simp [decode, relation, Relation.row, params, hupdated, hstart, hend, ok_bind, pure, Except.pure]

theorem get_replying {p : UserPreferences} (h : p.IsWhole) (userId : Uuid) :
    ((perform (.get userId)).run (replying [relation.row (params p)]) ()).1 = .ok (some p) := by
  rw [perform, Program.run_bind, run_fetchFirst, List.head?_cons, Option.mapM_some, decode_row h]
  rfl

end Preferences

/-! ### Push tokens -/

namespace Tokens

/-- A row is read as the push token whose values stand in it. -/
theorem decode_row {t : PushToken} (h : t.IsWhole) :
    decode (relation.row (params t)) = .ok (.ok t) := by
  have hcreated : Keeps t.createdAt := keeps_instant h.1
  have hupdated : Keeps t.updatedAt := keeps_instant h.2
  have hplatform : Platform.ofText? t.platform.name = .ok t.platform := named?_name _ t.platform
  simp [decode, relation, Relation.row, params, hcreated, hupdated, hplatform, ok_bind, pure,
    Except.pure, Except.map]

theorem findByUser_replying {t : PushToken} (h : t.IsWhole) (userId : Uuid) :
    ((perform (.findByUser userId)).run (replying [relation.row (params t)]) ()).1 = .ok [t] := by
  rw [perform, Program.run_bind, run_fetchAll, List.mapM_cons, decode_row h]
  rfl

end Tokens

/-! ### Delivery logs -/

namespace Logs

/-- A row is read as the delivery log whose values stand in it. -/
theorem decode_row {l : DeliveryLog} (h : l.IsWhole) :
    decode (relation.row (params l)) = .ok (.ok l.capped) := by
  have hcreated : Keeps l.createdAt := keeps_instant h.1
  have hdelivered : Keeps l.deliveredAt := keeps_instant? h.2
  have hchannel : Channel.ofText? l.channel.name = .ok l.channel := named?_name _ l.channel
  have hstatus : DeliveryStatus.ofText? l.status.name = .ok l.status := named?_name _ l.status
  simp [decode, relation, Relation.row, params, hcreated, hdelivered, hchannel, hstatus, ok_bind,
    pure, Except.pure, DeliveryLog.capped]

theorem findByNotification_replying {l : DeliveryLog} (h : l.IsWhole) (id : Uuid) :
    ((perform (.findByNotification id)).run (replying [relation.row (params l)]) ()).1 =
      .ok [l.capped] := by
  rw [perform, Program.run_bind, run_fetchAll, List.mapM_cons, decode_row h]
  rfl

end Logs

/-! ### All records -/

/-- What is bound for a record whose times are whole microseconds is read again as the record, but
    that a count beyond the greatest number of its column comes back as that number. -/
theorem records_comeBack :
    (∀ batch : List Courier.Outbox.Event, (∀ e ∈ batch, e.IsWhole) →
      ∀ (status : Courier.Outbox.Status) (limit : Int), 0 < limit →
        ComesBack Outbox.relation (Outbox.insertAll batch) (Outbox.fetch status limit)
            (batch.map (·.capped)) ∧
          ComesBack Outbox.relation (Outbox.perform (.store batch)) (Outbox.fetch status limit)
            (batch.map (·.capped))) ∧
      (∀ n : InAppNotification, n.IsWhole →
        (∀ id, ComesBack Inbox.relation (Inbox.perform (.store n)) (Inbox.perform (.findById id))
          (some n)) ∧
        ∀ userId limit offset, ComesBack Inbox.relation (Inbox.perform (.store n))
          (Inbox.perform (.findByUser userId limit offset)) [n]) ∧
      (∀ p : UserPreferences, p.IsWhole → ∀ userId, ComesBack Preferences.relation
        (Preferences.perform (.upsert p)) (Preferences.perform (.get userId)) (some p)) ∧
      (∀ t : PushToken, t.IsWhole → ∀ userId, ComesBack Tokens.relation
        (Tokens.perform (.store t)) (Tokens.perform (.findByUser userId)) [t]) ∧
      ∀ l : DeliveryLog, l.IsWhole → ∀ id, ComesBack Logs.relation
        (Logs.perform (.store l)) (Logs.perform (.findByNotification id)) [l.capped] := by
  refine ⟨?events, ?notifications, ?preferences, ?tokens, ?logs⟩
  case events =>
    intro batch h status limit hlimit
    refine ⟨fun calls hcalls => ?_, fun calls hcalls => ?_⟩
    · rw [Outbox.insertAll_rowsPut hcalls, Outbox.fetch_replying h status hlimit]
    · rw [Outbox.perform_store_rowsPut hcalls, Outbox.fetch_replying h status hlimit]
  case notifications =>
    intro n h
    exact ⟨fun id => .of_execute List.prefix_rfl rfl (Inbox.findById_replying h id),
      fun userId limit offset =>
        .of_execute List.prefix_rfl rfl (Inbox.findByUser_replying h userId limit offset)⟩
  case preferences =>
    intro p h userId
    exact .of_execute (by simp [String.toList_append, List.append_assoc]) rfl
      (Preferences.get_replying h userId)
  case tokens =>
    intro t h userId
    exact .of_execute (by simp [String.toList_append, List.append_assoc]) rfl
      (Tokens.findByUser_replying h userId)
  case logs =>
    intro l h id
    exact .of_execute List.prefix_rfl rfl (Logs.findByNotification_replying h id)

/-! ### An instance -/

/-- A time of whole microseconds. -/
def noon : Instant := ⟨12 * 60 * nanosPerMinute + 1000⟩

/-- An event that has failed more often than a column of 32 bits can say. -/
def stubborn : Courier.Outbox.Event :=
  ⟨Uuid.nth 0, "order", "1", "placed", [0x7B, 0x7D], noon, some noon, 3_000_000_000, some "full",
    .abandoned⟩

def greeting : InAppNotification :=
  ⟨Uuid.nth 0, Uuid.nth 1, "system", "Welcome", "", .empty, none, some "logo", true, some noon,
    noon⟩

def nightly : UserPreferences :=
  ⟨Uuid.nth 1, true, false, true, false, some noon.timeOfDay, none, noon⟩

def handset : PushToken := ⟨Uuid.nth 0, Uuid.nth 1, "token", .android, "", false, noon, noon⟩

/-- A delivery that has been tried more often than a column of 32 bits can say. -/
def persistent : DeliveryLog :=
  ⟨Uuid.nth 0, none, Uuid.nth 1, .inApp, .delivered, "provider", none, none, 3_000_000_000, noon,
    some noon⟩

/-- The rows that a session puts into a table of a database that accepts everything. -/
def accepted {α : Type} (r : Relation) (session : Session α) : List Row :=
  rowsPut r (session.transcript Simulation.Database.answer .new)

theorem records_comeBack_noon :
    ((Outbox.fetch .pending 10).run
        (replying (accepted Outbox.relation (Outbox.perform (.store [stubborn])))) ()).1 =
      .ok [{ stubborn with retryCount := 2147483647 }] ∧
    ((Inbox.perform (.findById (Uuid.nth 0))).run
        (replying (accepted Inbox.relation (Inbox.perform (.store greeting)))) ()).1 =
      .ok (some greeting) ∧
    ((Preferences.perform (.get (Uuid.nth 1))).run
        (replying (accepted Preferences.relation (Preferences.perform (.upsert nightly)))) ()).1 =
      .ok (some nightly) ∧
    ((Tokens.perform (.findByUser (Uuid.nth 1))).run
        (replying (accepted Tokens.relation (Tokens.perform (.store handset)))) ()).1 =
      .ok [handset] ∧
    ((Logs.perform (.findByNotification (Uuid.nth 0))).run
        (replying (accepted Logs.relation (Logs.perform (.store persistent)))) ()).1 =
      .ok [{ persistent with attempts := 2147483647 }] := by
  have hnoon : noon.IsWhole := by decide
  have hread : ∀ t ∈ some noon, t.IsWhole := fun t ht => Option.mem_some.1 ht ▸ hnoon
  have hquiet : ∀ t ∈ some noon.timeOfDay, t.IsWhole := fun t ht => Option.mem_some.1 ht ▸ hnoon
  obtain ⟨hevents, hnotifications, hpreferences, htokens, hlogs⟩ := records_comeBack
  refine ⟨?events, ?notifications, ?preferences, ?tokens, ?logs⟩
  case events =>
    have hwhole : ∀ e ∈ [stubborn], e.IsWhole := fun e he => by
      rw [List.mem_singleton.1 he]
      exact ⟨hnoon, hread⟩
    exact (hevents [stubborn] hwhole .pending 10 (by decide)).2 _ (Program.runs_transcript _ _ _)
  case notifications =>
    exact (hnotifications greeting ⟨hnoon, hread⟩).1 (Uuid.nth 0) _ (Program.runs_transcript _ _ _)
  case preferences =>
    exact hpreferences nightly ⟨hnoon, hquiet, nofun⟩ (Uuid.nth 1) _
      (Program.runs_transcript _ _ _)
  case tokens =>
    exact htokens handset ⟨hnoon, hnoon⟩ (Uuid.nth 1) _ (Program.runs_transcript _ _ _)
  case logs =>
    exact hlogs persistent ⟨hnoon, hread⟩ (Uuid.nth 0) _ (Program.runs_transcript _ _ _)

end Sql

end Courier
