import Courier.Proofs.Consumer.Block
import Courier.Proofs.Json.Truncation
import Courier.Proofs.Notification.Desk

/-!
# Events that cannot be read

A handler reads the payload of an event before it does anything else. When that cannot be read, all
that the handler does is to report it, and it has not failed. So the consumer goes on to the next
handler and confirms the delivery in the end. What has been written of an occurrence and was then
cut short cannot be read, wherever it was cut.

* `errors`: the errors among the reports to the log.
* `Handler.Drops`, `Consumer.Drops`: an event is reported and dropped.
* `Consumer.drops_of_handlers`: a consumer drops what all its handlers drop.
* `Malformed`: what cannot be read as a record of some type.
* `Notifier.drops_iff`: that, and nothing else, is dropped by the handlers of the service.
* `Occurrence.malformed_of_cutsTo`: so it is with a payload that was cut short.
* `malformed_dropped`: what cannot be read is dropped.
-/

namespace Courier

/-! ### Dropping an event -/

/-- The errors among the reports to the log. -/
def errors (calls : Calls) : List Notice :=
  calls.filterMap fun call =>
    match call.1 with
    | .note notice => if notice.level = .error then some notice else none
    | _ => none

/-- The report that the payload of an event could not be read. -/
def Handler.report (h : Handler) (e : BusEvent) : Σ q : Request, q.Answer :=
  ⟨.note (.malformedPayload h.name e), ()⟩

/-- In whatever surroundings, all that the handler asks for the event is to report that its payload
    could not be read, and it has not failed. -/
structure Handler.Drops (h : Handler) (e : BusEvent) : Prop where
  transcript_eq : ∀ ⦃σ : Type⦄ (answer : (q : Request) → σ → q.Answer × σ) (st : σ),
    (h.handle e).transcript answer st = [h.report e]
  run_eq : ∀ ⦃σ : Type⦄ (answer : (q : Request) → σ → q.Answer × σ) (st : σ),
    ((h.handle e).run answer st).1 = .ok ()

/-- In whatever surroundings, the consumer confirms the delivery once, if it is to be confirmed, and
    otherwise only reports to the log. The errors that it reports are those that handlers with the
    given names could not read the payload. -/
structure Consumer.Drops (c : Consumer) (d : Delivery) (names : List String) : Prop where
  requests_eq : ∀ ⦃σ : Type⦄ (answer : (q : Request) → σ → q.Answer × σ) (st : σ),
    (work ((c.process d).transcript answer st)).map (·.1) =
      d.receipt.toList.map (.confirm · d.event.id)
  errors_eq : ∀ ⦃σ : Type⦄ (answer : (q : Request) → σ → q.Answer × σ) (st : σ),
    errors ((c.process d).transcript answer st) = names.map (.malformedPayload · d.event)

variable {σ : Type} {e : BusEvent} {calls calls' : Calls}

@[simp]
theorem errors_append : errors (calls ++ calls') = errors calls ++ errors calls' :=
  List.filterMap_append ..

theorem Handler.drops_of_handle_eq {h : Handler}
    (hhandle : h.handle e = do
      note (.malformedPayload h.name e)
      return .ok ()) : h.Drops e where
  transcript_eq _ answer st := by
    rw [hhandle]
    rfl
  run_eq _ answer st := by
    rw [hhandle]
    rfl

/-- A handler that asks something else first does not drop the event. -/
theorem Handler.Drops.eq_note {h : Handler} (hdrops : h.Drops e) {q : Request}
    {next : q.Answer → Action (Except DeliveryError Unit)} (hhandle : h.handle e = .ask q next) :
    q = .note (.malformedPayload h.name e) := by
  have htranscript := hdrops.transcript_eq (fun q (st : Unit) => (Classical.arbitrary _, st)) ()
  rw [hhandle, Program.transcript, List.cons.injEq] at htranscript
  exact congrArg Sigma.fst htranscript.1

section Reports

variable (hs : List Handler)

theorem work_reports : work (hs.map (·.report e)) = [] := by
  induction hs with
  | nil => rfl
  | cons h hs ih => exact ih

theorem errors_reports :
    errors (hs.map (·.report e)) = (hs.map (·.name)).map (.malformedPayload · e) := by
  induction hs with
  | nil => rfl
  | cons h hs ih => exact congrArg (_ :: ·) ih

end Reports

variable (answer : (q : Request) → σ → q.Answer × σ) (st : σ)

/-- Each handler is called, whatever those before it have dropped. -/
theorem Consumer.transcript_handleAll {hs : List Handler} (hdrops : ∀ h ∈ hs, h.Drops e) :
    (Consumer.handleAll e hs).transcript answer st = hs.map (·.report e) := by
  induction hs generalizing st with
  | nil => rfl
  | cons h hs ih =>
    rw [List.forall_mem_cons] at hdrops
    rw [handleAll, Program.transcript_bind, hdrops.1.transcript_eq, hdrops.1.run_eq]
    exact congrArg (_ :: ·) (ih _ hdrops.2)

/-- A delivery is confirmed once, if it is to be confirmed, and a failure of that is no error. -/
theorem Delivery.transcript_confirm (d : Delivery) :
    (work (d.confirm.transcript answer st)).map (·.1) =
        d.receipt.toList.map (.confirm · d.event.id) ∧
      errors (d.confirm.transcript answer st) = [] := by
  obtain ⟨e, - | receipt⟩ := d
  · exact ⟨rfl, rfl⟩
  · have hconfirm : Delivery.confirm ⟨e, some receipt⟩ =
        bestEffort DeliveryError.text "ack delivery" (ask (.confirm receipt e.id)) := rfl
    rw [hconfirm, bestEffort, Program.transcript_bind]
    rcases ((ask (.confirm receipt e.id)).run answer st).1 with error | _
    · exact ⟨rfl, rfl⟩
    · exact ⟨rfl, rfl⟩

/-- A consumer drops what all its handlers drop, also if there are none. -/
theorem Consumer.drops_of_handlers {c : Consumer} {d : Delivery} {hs : List Handler}
    (hmatching : c.registry.matching d.event.eventType = hs) (hdrops : ∀ h ∈ hs, h.Drops d.event) :
    c.Drops d (hs.map (·.name)) := by
  -- That no handler was found is only reported, and not as an error.
  have hprocess {σ : Type} (answer : (q : Request) → σ → q.Answer × σ) (st : σ) :
      ∃ opening st', (c.process d).transcript answer st =
        opening ++ (hs.map (·.report d.event) ++ d.confirm.transcript answer st') ∧
        work opening = [] ∧ errors opening = [] := by
    rw [process, hmatching]
    dsimp only
    split
    next =>
      rw [Program.transcript_bind, Program.transcript_bind, transcript_handleAll _ _ hdrops]
      exact ⟨_, _, rfl, rfl, rfl⟩
    next =>
      rw [Program.transcript_bind, transcript_handleAll _ _ hdrops]
      exact ⟨[], _, rfl, rfl, rfl⟩
  constructor
  · intro σ answer st
    obtain ⟨opening, st', htranscript, hwork, -⟩ := hprocess answer st
    rw [htranscript, work_append, work_append, hwork, work_reports, List.nil_append,
      List.nil_append]
    exact (d.transcript_confirm answer st').1
  · intro σ answer st
    obtain ⟨opening, st', htranscript, -, herrors⟩ := hprocess answer st
    rw [htranscript, errors_append, errors_append, herrors, errors_reports,
      (d.transcript_confirm answer st').2, List.nil_append, List.append_nil]

/-! ### What cannot be read -/

namespace Notification

/-- The bytes cannot be read as a record of the type. -/
def Malformed (α : Type) [Json.Model α] (bytes : Bytes) : Prop :=
  ∀ a : α, Json.Model.parse bytes ≠ .ok a

/-- A handler that asks what the user wants as soon as it has read the payload drops exactly the
    events whose payload cannot be read. -/
theorem Notifier.drops_iff {α : Type} [Json.Model α] {h : Handler} {e : BusEvent}
    {act : α → Action (Except DeliveryError Unit)} (hhandle : h.handle = onPayload h.name act)
    (hact : ∀ a, ∃ userId next, act a = .ask (.preferences (.get userId)) next) :
    h.Drops e ↔ Malformed α e.payload := by
  rcases hparse : (Json.Model.parse e.payload : Except Json.Fault α) with fault | a
  case error =>
    refine iff_of_true (Handler.drops_of_handle_eq ?_) fun a ha => ?_
    · rw [hhandle, onPayload, payload?, hparse]
      rfl
    · cases hparse.symm.trans ha
  case ok =>
    refine iff_of_false (fun hdrops => ?_) fun hmalformed => hmalformed a hparse
    obtain ⟨userId, next, hnext⟩ := hact a
    rw [← onPayload_eq hparse h.name act, ← hhandle] at hnext
    cases hdrops.eq_note hnext

theorem Notifier.translation_drops_iff {e : BusEvent} :
    translation.Drops e ↔ Malformed TranslationCreated e.payload :=
  drops_iff rfl fun t => ⟨t.userId, _, rfl⟩

theorem Notifier.welcome_drops_iff (s : Service) {e : BusEvent} :
    (welcome s).Drops e ↔ Malformed UserCreated e.payload :=
  drops_iff rfl fun u => ⟨u.userId, _, rfl⟩

/-! ### What was cut short -/

/-- The bytes are what remains of a payload when something was cut off its end. -/
def Occurrence.CutsTo (o : Occurrence) (bytes : Bytes) : Prop :=
  ∃ rest ≠ [], bytes ++ rest = o.payload

theorem TranslationCreated.passesOver :
    ∀ f ∈ Json.Model.fields TranslationCreated, Json.PassesOver f.codec.read := by
  simp only [Json.Model.fields, List.forall_mem_cons, List.not_mem_nil, false_implies,
    implies_true, and_true]
  exact ⟨Json.readSpelled_passesOver _, Json.readSpelled_passesOver _, Json.readText_passesOver,
    Json.readText_passesOver, Json.readText_passesOver, Json.readText_passesOver⟩

theorem UserCreated.passesOver :
    ∀ f ∈ Json.Model.fields UserCreated, Json.PassesOver f.codec.read := by
  simp only [Json.Model.fields, List.forall_mem_cons, List.not_mem_nil, false_implies,
    implies_true, and_true]
  exact ⟨Json.readSpelled_passesOver _, Json.readText_passesOver,
    Json.readText_passesOver.optional⟩

/-- A payload that was cut short cannot be read, as a record of whatever type. -/
theorem Occurrence.malformed_of_cutsTo {α : Type} [Json.Model α]
    (hα : ∀ f ∈ Json.Model.fields α, Json.PassesOver f.codec.read) {o : Occurrence} {bytes : Bytes}
    (h : o.CutsTo bytes) : Malformed α bytes := by
  intro a
  obtain ⟨rest, hrest, hbytes⟩ := h
  cases o with
  | translation t =>
    exact Json.Model.parse_truncated hα TranslationCreated.passesOver (by decide)
      (Json.kept_of_lawful TranslationCreated.lawful _) hbytes hrest a
  | user u =>
    exact Json.Model.parse_truncated hα UserCreated.passesOver (by decide)
      (Json.kept_of_lawful UserCreated.lawful _) hbytes hrest a

/-- **What cannot be read is dropped.** A handler drops an event exactly when it cannot read the
    payload, and then the consumer of the service confirms a delivery of the event, with nothing but
    an error from that handler. Neither handler can read a payload of any occurrence that was cut
    short, wherever that was. And a consumer drops whatever all its handlers for the event drop. -/
theorem malformed_dropped (s : Service) (topics : List String) (d : Delivery) :
    (Notifier.translation.Drops d.event ↔ Malformed TranslationCreated d.event.payload) ∧
    ((Notifier.welcome s).Drops d.event ↔ Malformed UserCreated d.event.payload) ∧
    (d.event.eventType = translationCreated → Malformed TranslationCreated d.event.payload →
      (Notifier.dispatcher s topics).Drops d [Notifier.translationName]) ∧
    (d.event.eventType = userCreated → Malformed UserCreated d.event.payload →
      (Notifier.dispatcher s topics).Drops d [Notifier.welcomeName]) ∧
    (∀ o : Occurrence, o.CutsTo d.event.payload →
      Malformed TranslationCreated d.event.payload ∧ Malformed UserCreated d.event.payload) ∧
    ∀ c : Consumer, (∀ h ∈ c.registry.matching d.event.eventType, h.Drops d.event) →
      c.Drops d ((c.registry.matching d.event.eventType).map (·.name)) := by
  have hmatching := matching_all s d.event.eventType
  refine ⟨Notifier.translation_drops_iff, Notifier.welcome_drops_iff s, ?translation, ?user, ?cut,
    fun c => Consumer.drops_of_handlers rfl⟩
  case translation =>
    intro ht h
    rw [if_pos ht] at hmatching
    have hdrops := Notifier.translation_drops_iff.2 h
    exact Consumer.drops_of_handlers hmatching (List.forall_mem_singleton.2 hdrops)
  case user =>
    intro ht h
    rw [if_neg (ht ▸ Occurrence.userCreated_ne), if_pos ht] at hmatching
    have hdrops := (Notifier.welcome_drops_iff s).2 h
    exact Consumer.drops_of_handlers hmatching (List.forall_mem_singleton.2 hdrops)
  case cut =>
    intro o h
    exact ⟨o.malformed_of_cutsTo TranslationCreated.passesOver h,
      o.malformed_of_cutsTo UserCreated.passesOver h⟩

/-- A new user whose name takes an escape and a character of two bytes. -/
def zoe : UserCreated := ⟨.nil, "zoe@home", some "\"\u00eb"⟩

/-- The event of that user, of whose payload only so many bytes have arrived. -/
def torn (n : Nat) : BusEvent := ⟨"7", userCreated, (Json.Model.print zoe).take n⟩

/-- The payload ends after the first byte of the escape or of the character. -/
theorem malformed_dropped_torn :
    let s : Service := ⟨some "post", none, none⟩
    ((torn 78).payload.getLast? = some 0x5C ∧ (torn 80).payload.getLast? = some 0xC3) ∧
      ((Notifier.welcome s).Drops (torn 78) ∧ (Notifier.welcome s).Drops (torn 80)) ∧
      (Notifier.dispatcher s [userTopic]).Drops ⟨torn 78, some (.tagged 1)⟩
        [Notifier.welcomeName] ∧
      (Notifier.dispatcher s [userTopic]).Drops ⟨torn 80, some (.tagged 2)⟩
        [Notifier.welcomeName] := by
  intro s
  have hcuts (n : Nat) (h : n < (Json.Model.print zoe).length) :
      (Occurrence.user zoe).CutsTo (torn n).payload := by
    refine ⟨(Json.Model.print zoe).drop n, ?_, List.take_append_drop ..⟩
    rw [Ne, List.drop_eq_nil_iff]
    exact Nat.not_le_of_gt h
  have hdrops (n : Nat) (h : n < (Json.Model.print zoe).length) (receipt : Receipt) :
      (Notifier.welcome s).Drops (torn n) ∧ (Notifier.dispatcher s [userTopic]).Drops
        ⟨torn n, some receipt⟩ [Notifier.welcomeName] := by
    obtain ⟨-, hwelcome, -, huser, hcut, -⟩ :=
      malformed_dropped s [userTopic] ⟨torn n, some receipt⟩
    have hmalformed := (hcut (.user zoe) (hcuts n h)).2
    exact ⟨hwelcome.2 hmalformed, huser rfl hmalformed⟩
  have hearly := hdrops 78 (by decide +kernel) (.tagged 1)
  have hlate := hdrops 80 (by decide +kernel) (.tagged 2)
  exact ⟨by decide +kernel, ⟨hearly.1, hlate.1⟩, hearly.2, hlate.2⟩

end Notification

end Courier
