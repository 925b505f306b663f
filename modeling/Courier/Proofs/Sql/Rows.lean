import Courier.Proofs.Fallible
import Courier.Proofs.Sql.Records

/-!
# Rows are read one for one

A database replies with rows whose columns have values of the types of the columns. In a column that
says which of several states a record is in, a text stands, and that may be any text at all. If the
texts of all rows are names of states, a record is read from each row, in the order of the rows. If
not, the first row with another text is complained about, and none of the records comes back.

* `Outbox.Columns`, `Tokens.Columns`, `Logs.Columns`: what can stand in a row of a table.
* `Sifted`: rows are read one for one, or the first that cannot be read is complained about.
* `sifted_mapM`: so they are, if each of them is read or complained about.
* `rows_sifted`: so are the rows of three tables.
-/

namespace Courier.Sql

open Notification

/-! ### Rows that are read or complained about -/

section Sift

variable {γ α ε : Type} {read : γ → Except ε α} {cs : List γ}

/-- What comes of reading rows: a record for each, in their order, if all of them are legible; a
    complaint about the first that is not, otherwise. -/
structure Sifted (Legible : γ → Prop) (Shows : γ → α → Prop) (Complains : γ → ε → Prop)
    (cs : List γ) (result : Except ε (List α)) : Prop where
  ok_iff : (∃ as, result = .ok as) ↔ ∀ c ∈ cs, Legible c
  of_ok : ∀ as, result = .ok as → List.Forall₂ Shows cs as
  of_error : ∀ error, result = .error error → ∃ before c after, cs = before ++ c :: after ∧
    (∀ b ∈ before, Legible b) ∧ ¬ Legible c ∧ Complains c error

variable {Legible : γ → Prop} {Shows : γ → α → Prop} {Complains : γ → ε → Prop}

theorem sifted_mapM (hok : ∀ c a, read c = .ok a → Legible c ∧ Shows c a)
    (herror : ∀ c error, read c = .error error → ¬ Legible c ∧ Complains c error) :
    Sifted Legible Shows Complains cs ((cs.map read).mapM id) := by
  rw [List.mapM_map, Function.id_comp]
  rcases hresult : cs.mapM read with error | as
  case error =>
    obtain ⟨before, c, after, rfl, hbefore, hc⟩ := exists_of_mapM_eq_error hresult
    obtain ⟨hillegible, hcomplains⟩ := herror c error hc
    refine ⟨iff_of_false nofun fun h => hillegible (h c (by simp)), nofun, ?_⟩
    rintro _ ⟨⟩
    refine ⟨before, c, after, rfl, fun b hb => ?_, hillegible, hcomplains⟩
    obtain ⟨a, ha⟩ := hbefore b hb
    exact (hok b a ha).1
  case ok =>
    have hread := (mapM_eq_ok_iff.1 hresult).imp hok
    obtain ⟨hlegible, hshows⟩ := (List.forall₂_and_left cs as).1 hread
    refine ⟨iff_of_true ⟨as, rfl⟩ hlegible, ?_, nofun⟩
    rintro _ ⟨⟩
    exact hshows

end Sift

/-! ### Names and counts -/

theorem named?_eq_ok {α : Type} [Named α] {what text : String} {a : α}
    (h : named? what text = .ok a) : Named.name a = text := by
  rw [named?] at h
  split at h
  next b hb =>
    cases h
    exact Named.name_of_ofName? hb
  next => cases h

/-- What has no name is complained about. -/
theorem named?_eq_error {α : Type} [Named α] {what text : String} {error : ServiceError}
    (h : (named? what text : Except ServiceError α) = .error error) :
    (∀ a : α, Named.name a ≠ text) ∧ error = .validation ("unknown " ++ what ++ ": " ++ text) := by
  rw [named?] at h
  split at h
  next => cases h
  next hnone =>
    cases h
    refine ⟨?_, rfl⟩
    rintro a rfl
    rw [Named.ofName?_name] at hnone
    cases hnone

/-- The count that a column of 32 bits stands for, of which a negative one is none at all. -/
def countOf (n : Int32) : UInt32 := if n < 0 then 0 else n.toUInt32

theorem integerToCount_toInt (n : Int32) : integerToCount n.toInt = countOf n := by
  rw [integerToCount, countOf]
  split
  next hneg =>
    have hnonpos : n.toInt ≤ 0 := Int.le_of_lt (Int32.lt_iff_toInt_lt.1 hneg)
    rw [Int.toNat_of_nonpos hnonpos]
    rfl
  next hnonneg =>
    have hcount : n.toUInt32.toNat = n.toInt.toNat :=
      Int32.toNat_toUInt32_of_le (Int32.not_lt.1 hnonneg)
    rw [← hcount, UInt32.ofNat_toNat]

/-! ### Columns -/

namespace Row

variable (place : String)

@[simp]
theorem decode_uuid (id : Uuid) : decode place (.uuid id) = .ok id := rfl

@[simp]
theorem decode_text (text : String) : decode place (.text text) = .ok text := rfl

@[simp]
theorem decode_integer (n : Int) : decode place (.integer n) = .ok n := rfl

@[simp]
theorem decode_flag (b : Bool) : decode place (.flag b) = .ok b := rfl

@[simp]
theorem decode_bytes (bytes : Bytes) : decode place (.bytes bytes) = .ok bytes := rfl

@[simp]
theorem decode_instant (n : Int) : decode place (.instant n) = .ok (Instant.ofMicroseconds n) := rfl

/-- A column that may be null. -/
theorem decode_elim {α β : Type} [Stored α] {f : β → Value} {g : β → α}
    (hvalue : ∀ b, f b ≠ .null) (hread : ∀ b, Stored.ofValue? (f b) = some (g b)) (o : Option β) :
    (decode place (o.elim .null f) : Except Failure (Option α)) = .ok (o.map g) := by
  rcases o with - | b
  · rfl
  · refine decode_eq_ok ?_ place
    rw [Option.elim_some, ofValue?_option (hvalue b), hread]
    rfl

@[simp]
theorem decode_elim_uuid (o : Option Uuid) : decode place (o.elim .null .uuid) = .ok o := by
  rw [decode_elim place nofun fun _ => rfl, Option.map_id']

@[simp]
theorem decode_elim_text (o : Option String) : decode place (o.elim .null .text) = .ok o := by
  rw [decode_elim place nofun fun _ => rfl, Option.map_id']

@[simp]
theorem decode_elim_instant (o : Option Int) :
    decode place (o.elim .null .instant) = .ok (o.map Instant.ofMicroseconds) :=
  decode_elim place nofun (fun _ => rfl) o

end Row

/-! ### Events -/

namespace Outbox

open Courier.Outbox

/-- What can stand in a row of the table of events. Times are counted in microseconds. -/
structure Columns where
  id : Uuid
  aggregateType : String
  aggregateId : String
  eventType : String
  payload : Bytes
  createdAt : Int
  publishedAt : Option Int
  retryCount : Int32
  lastError : Option String
  status : String

namespace Columns

def row (c : Columns) : Row :=
  relation.row [.uuid c.id, .text c.aggregateType, .text c.aggregateId, .text c.eventType,
    .bytes c.payload, .instant c.createdAt, c.publishedAt.elim .null .instant,
    .integer c.retryCount.toInt, c.lastError.elim .null .text, .text c.status]

/-- The text says what is done with the event. -/
def Legible (c : Columns) : Prop := ∃ status : Status, status.name = c.status

/-- The event that the row stands for, when the status is the given one. -/
def event (c : Columns) (status : Status) : Event where
  id := c.id
  aggregateType := c.aggregateType
  aggregateId := c.aggregateId
  eventType := c.eventType
  payload := c.payload
  createdAt := .ofMicroseconds c.createdAt
  publishedAt := c.publishedAt.map .ofMicroseconds
  retryCount := countOf c.retryCount
  lastError := c.lastError
  status := status

/-- The row stands for the event. -/
def Shows (c : Columns) (e : Event) : Prop := e.status.name = c.status ∧ e = c.event e.status

def Complains (c : Columns) (error : DeliveryError) : Prop :=
  error = .parse ("unknown outbox status: " ++ c.status)

end Columns

theorem ofText?_eq_ok {text : String} {status : Status} (h : Status.ofText? text = .ok status) :
    status.name = text := by
  rw [Status.ofText?] at h
  split at h
  next status' hstatus =>
    cases h
    exact Named.name_of_ofName? hstatus
  next => cases h

theorem ofText?_eq_error {text : String} {error : DeliveryError}
    (h : Status.ofText? text = .error error) :
    (∀ status : Status, status.name ≠ text) ∧
      error = .parse ("unknown outbox status: " ++ text) := by
  rw [Status.ofText?] at h
  split at h
  next => cases h
  next hnone =>
    cases h
    refine ⟨fun status hstatus => ?_, rfl⟩
    rw [← hstatus, show status.name = Named.name status from rfl, Named.ofName?_name] at hnone
    cases hnone

theorem decode_columns (c : Columns) :
    decode c.row = .ok ((Status.ofText? c.status).map c.event) := by
  simp [decode, relation, Relation.row, Columns.row, Row.get, Row.value, List.lookup_cons,
    ok_bind, integerToCount_toInt]
  rfl

theorem fetch_sifted (status : Status) {limit : Int} (hlimit : 0 < limit) (cs : List Columns) :
    Sifted Columns.Legible Columns.Shows Columns.Complains cs
      ((fetch status limit).run (replying (cs.map Columns.row)) ()).1 := by
  have hrows : (cs.map Columns.row).mapM decode =
      .ok (cs.map fun c => (Status.ofText? c.status).map c.event) :=
    mapM_map_eq_ok fun c _ => decode_columns c
  rw [fetch, if_neg (Int.not_le.2 hlimit), Program.run_bind, run_fetchAll, hrows]
  refine sifted_mapM (fun c e h => ?_) fun c error h => ?_
  · obtain ⟨status, hstatus, rfl⟩ := exists_of_map_eq_ok h
    exact ⟨⟨status, ofText?_eq_ok hstatus⟩, ofText?_eq_ok hstatus, rfl⟩
  · obtain ⟨hnone, herror⟩ := ofText?_eq_error (eq_error_of_map h)
    exact ⟨not_exists.2 hnone, herror⟩

end Outbox

/-! ### Push tokens -/

namespace Tokens

/-- What can stand in a row of the table of push tokens. Times are counted in microseconds. -/
structure Columns where
  id : Uuid
  userId : Uuid
  token : String
  platform : String
  deviceId : String
  active : Bool
  createdAt : Int
  updatedAt : Int

namespace Columns

def row (c : Columns) : Row :=
  relation.row [.uuid c.id, .uuid c.userId, .text c.token, .text c.platform, .text c.deviceId,
    .flag c.active, .instant c.createdAt, .instant c.updatedAt]

/-- The text says what the device runs. -/
def Legible (c : Columns) : Prop := ∃ platform : Platform, platform.name = c.platform

/-- The push token that the row stands for, when the platform is the given one. -/
def pushToken (c : Columns) (platform : Platform) : PushToken where
  id := c.id
  userId := c.userId
  token := c.token
  platform := platform
  deviceId := c.deviceId
  active := c.active
  createdAt := .ofMicroseconds c.createdAt
  updatedAt := .ofMicroseconds c.updatedAt

/-- The row stands for the push token. -/
def Shows (c : Columns) (t : PushToken) : Prop :=
  t.platform.name = c.platform ∧ t = c.pushToken t.platform

def Complains (c : Columns) (error : ServiceError) : Prop :=
  error = .validation ("unknown platform: " ++ c.platform)

end Columns

theorem decode_columns (c : Columns) :
    decode c.row = .ok ((Platform.ofText? c.platform).map c.pushToken) := by
  simp [decode, relation, Relation.row, Columns.row, Row.get, Row.value, List.lookup_cons,
    ok_bind]
  rfl

theorem findByUser_sifted (userId : Uuid) (cs : List Columns) :
    Sifted Columns.Legible Columns.Shows Columns.Complains cs
      ((perform (.findByUser userId)).run (replying (cs.map Columns.row)) ()).1 := by
  have hrows : (cs.map Columns.row).mapM decode =
      .ok (cs.map fun c => (Platform.ofText? c.platform).map c.pushToken) :=
    mapM_map_eq_ok fun c _ => decode_columns c
  rw [perform, Program.run_bind, run_fetchAll, hrows]
  refine sifted_mapM (fun c t h => ?_) fun c error h => ?_
  · obtain ⟨platform, hplatform, rfl⟩ := exists_of_map_eq_ok h
    exact ⟨⟨platform, named?_eq_ok hplatform⟩, named?_eq_ok hplatform, rfl⟩
  · obtain ⟨hnone, herror⟩ := named?_eq_error (eq_error_of_map h)
    exact ⟨not_exists.2 hnone, herror⟩

end Tokens

/-! ### Delivery logs -/

namespace Logs

/-- What can stand in a row of the table of delivery logs. Times are counted in microseconds. -/
structure Columns where
  id : Uuid
  notificationId : Option Uuid
  userId : Uuid
  channel : String
  status : String
  provider : String
  providerMessageId : Option String
  errorMessage : Option String
  attempts : Int32
  createdAt : Int
  deliveredAt : Option Int

namespace Columns

def row (c : Columns) : Row :=
  relation.row [.uuid c.id, c.notificationId.elim .null .uuid, .uuid c.userId, .text c.channel,
    .text c.status, .text c.provider, c.providerMessageId.elim .null .text,
    c.errorMessage.elim .null .text, .integer c.attempts.toInt, .instant c.createdAt,
    c.deliveredAt.elim .null .instant]

/-- One text says over which channel it went, and another how it went. -/
def Legible (c : Columns) : Prop :=
  (∃ channel : Channel, channel.name = c.channel) ∧
    ∃ status : DeliveryStatus, status.name = c.status

/-- The delivery log that the row stands for, when channel and status are the given ones. -/
def deliveryLog (c : Columns) (channel : Channel) (status : DeliveryStatus) : DeliveryLog where
  id := c.id
  notificationId := c.notificationId
  userId := c.userId
  channel := channel
  status := status
  provider := c.provider
  providerMessageId := c.providerMessageId
  errorMessage := c.errorMessage
  attempts := countOf c.attempts
  createdAt := .ofMicroseconds c.createdAt
  deliveredAt := c.deliveredAt.map .ofMicroseconds

/-- The row stands for the delivery log. -/
def Shows (c : Columns) (l : DeliveryLog) : Prop :=
  l.channel.name = c.channel ∧ l.status.name = c.status ∧ l = c.deliveryLog l.channel l.status

/-- The status is complained about only where the channel is one. -/
def Complains (c : Columns) (error : ServiceError) : Prop :=
  ((∀ channel : Channel, channel.name ≠ c.channel) ∧
    error = .validation ("unknown channel: " ++ c.channel)) ∨
  ((∃ channel : Channel, channel.name = c.channel) ∧
    error = .validation ("unknown delivery status: " ++ c.status))

/-- Reads the two texts of a row. -/
def read? (c : Columns) : Except ServiceError DeliveryLog := do
  let channel ← Channel.ofText? c.channel
  let status ← DeliveryStatus.ofText? c.status
  return c.deliveryLog channel status

end Columns

theorem decode_columns (c : Columns) : decode c.row = .ok c.read? := by
  simp [decode, relation, Relation.row, Columns.row, Row.get, Row.value, List.lookup_cons,
    ok_bind, integerToCount_toInt]
  rfl

theorem Columns.read?_eq_ok {c : Columns} {l : DeliveryLog} (h : c.read? = .ok l) :
    c.Legible ∧ c.Shows l := by
  rcases hchannel : Channel.ofText? c.channel with error | channel
  · rw [read?, hchannel] at h
    cases h
  rcases hstatus : DeliveryStatus.ofText? c.status with error | status
  · rw [read?, hchannel, hstatus] at h
    cases h
  rw [read?, hchannel, hstatus] at h
  cases h
  exact ⟨⟨⟨channel, named?_eq_ok hchannel⟩, status, named?_eq_ok hstatus⟩,
    named?_eq_ok hchannel, named?_eq_ok hstatus, rfl⟩

theorem Columns.read?_eq_error {c : Columns} {error : ServiceError} (h : c.read? = .error error) :
    ¬ c.Legible ∧ c.Complains error := by
  rcases hchannel : Channel.ofText? c.channel with error' | channel
  · rw [read?, hchannel] at h
    cases h
    obtain ⟨hnone, herror⟩ := named?_eq_error hchannel
    exact ⟨fun hlegible => not_exists.2 hnone hlegible.1, .inl ⟨hnone, herror⟩⟩
  rcases hstatus : DeliveryStatus.ofText? c.status with error' | status
  · rw [read?, hchannel, hstatus] at h
    cases h
    obtain ⟨hnone, herror⟩ := named?_eq_error hstatus
    exact ⟨fun hlegible => not_exists.2 hnone hlegible.2,
      .inr ⟨⟨channel, named?_eq_ok hchannel⟩, herror⟩⟩
  · rw [read?, hchannel, hstatus] at h
    cases h

theorem findByNotification_sifted (id : Uuid) (cs : List Columns) :
    Sifted Columns.Legible Columns.Shows Columns.Complains cs
      ((perform (.findByNotification id)).run (replying (cs.map Columns.row)) ()).1 := by
  have hrows : (cs.map Columns.row).mapM decode = .ok (cs.map Columns.read?) :=
    mapM_map_eq_ok fun c _ => decode_columns c
  rw [perform, Program.run_bind, run_fetchAll, hrows]
  exact sifted_mapM (fun _ _ => Columns.read?_eq_ok) fun _ _ => Columns.read?_eq_error

end Logs

/-! ### The three tables -/

/-- **Rows are read one for one, or not at all.** Events, push tokens and delivery logs are fetched
    exactly when the texts of all rows are names of states, and then there is one for each row, in
    the order of the rows. If not, the first row with another text is complained about, in a
    delivery log first for its channel. Where no events are wanted, the database is not asked. -/
theorem rows_sifted :
    (∀ (limit : Int) (cs : List Outbox.Columns), 0 < limit →
      Sifted Outbox.Columns.Legible Outbox.Columns.Shows Outbox.Columns.Complains cs
          ((Outbox.perform (.fetchUnpublished limit)).run
            (replying (cs.map Outbox.Columns.row)) ()).1 ∧
        Sifted Outbox.Columns.Legible Outbox.Columns.Shows Outbox.Columns.Complains cs
          ((Outbox.perform (.fetchAbandoned limit)).run
            (replying (cs.map Outbox.Columns.row)) ()).1) ∧
      (∀ limit : Int, limit ≤ 0 →
        ∀ {σ : Type} (answer : (q : Request) → σ → q.Answer × σ) (st : σ),
          (Outbox.perform (.fetchUnpublished limit)).transcript answer st = [] ∧
            ((Outbox.perform (.fetchUnpublished limit)).run answer st).1 = .ok [] ∧
            (Outbox.perform (.fetchAbandoned limit)).transcript answer st = [] ∧
            ((Outbox.perform (.fetchAbandoned limit)).run answer st).1 = .ok []) ∧
      (∀ (userId : Uuid) (cs : List Tokens.Columns),
        Sifted Tokens.Columns.Legible Tokens.Columns.Shows Tokens.Columns.Complains cs
          ((Tokens.perform (.findByUser userId)).run
            (replying (cs.map Tokens.Columns.row)) ()).1) ∧
      ∀ (notificationId : Uuid) (cs : List Logs.Columns),
        Sifted Logs.Columns.Legible Logs.Columns.Shows Logs.Columns.Complains cs
          ((Logs.perform (.findByNotification notificationId)).run
            (replying (cs.map Logs.Columns.row)) ()).1 := by
  refine ⟨fun limit cs hlimit => ?_, fun limit hlimit σ answer st => ?_,
    Tokens.findByUser_sifted, Logs.findByNotification_sifted⟩
  · exact ⟨Outbox.fetch_sifted .pending hlimit cs, Outbox.fetch_sifted .abandoned hlimit cs⟩
  · have hnone : ∀ status, Outbox.fetch status limit = pure (.ok []) := fun _ => if_pos hlimit
    simp only [Outbox.perform, hnone]
    exact ⟨rfl, rfl, rfl, rfl⟩

/-- A pending event whose count of failures is negative. -/
def overdrawn : Outbox.Columns :=
  ⟨Uuid.nth 0, "order", "1", "placed", [0x7B, 0x7D], 1000, none, -3, none, "pending"⟩

/-- An event with a status that there is not. -/
def lost : Outbox.Columns := { overdrawn with status := "lost" }

/-- The one is read, with no failures, but not when the other one stands behind it. -/
theorem rows_sifted_overdrawn :
    (∃ e, ((Outbox.perform (.fetchUnpublished 10)).run
        (replying [overdrawn.row]) ()).1 = .ok [e] ∧ overdrawn.Shows e ∧ e.retryCount = 0) ∧
      ((Outbox.perform (.fetchUnpublished 10)).run (replying [overdrawn.row, lost.row]) ()).1 =
        .error (.parse "unknown outbox status: lost") := by
  have hoverdrawn : overdrawn.Legible := ⟨.pending, rfl⟩
  have hlost : ¬ lost.Legible := by
    rintro ⟨status, hstatus⟩
    cases status <;> exact absurd hstatus (by decide)
  refine ⟨?read, ?unread⟩
  case read =>
    have hsifted := (rows_sifted.1 10 [overdrawn] (by decide)).1
    obtain ⟨es, hes⟩ := hsifted.ok_iff.2 (List.forall_mem_singleton.2 hoverdrawn)
    obtain - | ⟨hshows, - | -⟩ := hsifted.of_ok es hes
    exact ⟨_, hes, hshows, congrArg Courier.Outbox.Event.retryCount hshows.2⟩
  case unread =>
    have hsifted := (rows_sifted.1 10 [overdrawn, lost] (by decide)).1
    rcases hresult : ((Outbox.perform (.fetchUnpublished 10)).run
      (replying [overdrawn.row, lost.row]) ()).1 with error | es
    · obtain ⟨before, c, after, hrows, -, hc, hcomplains⟩ := hsifted.of_error error hresult
      obtain _ | ⟨b, _ | ⟨b', before⟩⟩ := before
      · cases hrows
        exact absurd hoverdrawn hc
      · cases hrows
        exact congrArg _ hcomplains
      · cases before <;> cases hrows
    · exact absurd (hsifted.ok_iff.1 ⟨es, hresult⟩ lost (by simp)) hlost

end Courier.Sql
