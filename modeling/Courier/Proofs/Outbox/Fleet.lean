import Courier.Proofs.Outbox.Stage
import Courier.Proofs.Outbox.Store

/-!
# Workers side by side

Several workers share an outbox and a publisher. Each asks one question at a time and goes on when
it is answered; in between, every other worker may go on, and somebody else may store events. Which
of them goes on, and how a question is answered, is not known: a call may succeed or fail, and a
failure leaves the outbox as it is. A sequence of turns says what happens in one run, and what holds
after all of them holds however the workers are interleaved.

* `Fleet.play`: the fleet after a sequence of turns.
* `Deed`: all that an answer to a worker can do, in terms of what the worker has in hand.
* `Board.Step`: all that a turn can do; `Fleet.play_keeps`: what every such step keeps is kept.
-/

namespace Courier

/-- Whether an event is to be published by a question. -/
def Request.publishes (id : Uuid) : Request → Bool
  | .publish e => e.id = id
  | _ => false

namespace Outbox

/-- A question with its answer. -/
abbrev Call := Σ q : Request, q.Answer

/-- How a question is answered. -/
inductive Reply
  /-- The call does what it should, at the given time. -/
  | perform (now : Instant)
  /-- The call fails, and has no effect. -/
  | refuse (error : DeliveryError)

/-- The answer to a question of a worker, and the outbox after it. -/
def Reply.answer? (reply : Reply) (s : Store) : (q : Request) → Option (q.Answer × Store)
  | .outbox op =>
    match reply with
    | perform now => some (s.perform now op)
    | refuse error => some (.error error, s)
  | .publish _ =>
    match reply with
    | perform _ => some (.ok (), s)
    | refuse error => some (.error error, s)
  | .note _ => some ((), s)
  | _ => none

/-- A worker with what is left to do of its tick. -/
structure Member where
  worker : Worker
  rest : Action Report

/-- Workers that share an outbox and a publisher, with all calls that have been answered. -/
structure Fleet where
  store : Store
  members : List Member
  calls : List Call

/-- What can happen next. -/
inductive Turn
  /-- A worker that is done with its tick begins another one. -/
  | tick (i : Nat)
  /-- The question of a worker is answered. -/
  | answer (i : Nat) (reply : Reply)
  /-- Somebody else stores a batch. -/
  | store (batch : List Event) (reply : Reply)

/-- All that is stored by a turn has a property. -/
def Turn.Stores (p : Event → Prop) : Turn → Prop
  | store batch _ => ∀ e ∈ batch, p e
  | _ => True

namespace Fleet

/-- Workers between two ticks, and an empty outbox. -/
def start (workers : List Worker) : Fleet :=
  ⟨.empty, workers.map fun w => ⟨w, return .start 0⟩, []⟩

/-- The fleet after a turn. A turn for which it is not the time changes nothing. -/
def step (f : Fleet) : Turn → Fleet
  | .tick i =>
    match f.members[i]? with
    | some ⟨w, .done _⟩ => { f with members := f.members.set i ⟨w, w.runOnce⟩ }
    | _ => f
  | .answer i reply =>
    match f.members[i]? with
    | some ⟨w, .ask q next⟩ =>
      match reply.answer? f.store q with
      | some (a, store) => ⟨store, f.members.set i ⟨w, next a⟩, f.calls ++ [⟨q, a⟩]⟩
      | none => f
    | _ => f
  | .store batch reply =>
    match reply.answer? f.store (.outbox (.store batch)) with
    | some (a, store) => ⟨store, f.members, f.calls ++ [⟨.outbox (.store batch), a⟩]⟩
    | none => f

/-- The fleet after a sequence of turns. -/
def play (f : Fleet) (turns : List Turn) : Fleet := turns.foldl step f

/-- All questions that have been asked, be they answered or not. -/
def asked (f : Fleet) : List Request :=
  f.calls.map (·.1) ++ f.members.filterMap (·.rest.question?)

/-- All workers are between two ticks. -/
def IsResting (f : Fleet) : Prop := ∀ member ∈ f.members, member.rest.question? = none

end Fleet

/-! ### Rivals -/

/-- A worker that tries only once. -/
def rival : Worker := ⟨1000, 100, 1⟩

/-- An event for which there are rivals. -/
def contested : Event :=
  ⟨.nil, "user", "1", "user.created", [], ⟨0⟩, none, 0, none, .pending⟩

/-- Two rivals fetch the event. The publisher accepts it from the first, and rejects it from the
    second, which abandons it before the first has marked it as published. -/
def rivalry : List Turn :=
  [.store [contested] (.perform ⟨1⟩), .tick 0, .tick 1,
    .answer 0 (.perform ⟨2⟩), .answer 1 (.perform ⟨2⟩),
    .answer 0 (.perform ⟨3⟩), .answer 1 (.refuse (.bus "down")),
    .answer 1 (.perform ⟨3⟩), .answer 1 (.perform ⟨4⟩), .answer 1 (.perform ⟨4⟩),
    .answer 1 (.perform ⟨4⟩), .answer 0 (.perform ⟨5⟩)]

/-- What becomes of the event. -/
def won : Event :=
  { contested with
    publishedAt := some ⟨5⟩, retryCount := 1, lastError := some "down", status := .published }

theorem play_rivalry : ((Fleet.start [rival, rival]).play rivalry).store.events = [won] := by
  decide +kernel

/-! ### Deeds -/

/-- A worker is about to abandon an event, and then to deal with the others. -/
def Stage.Abandons (m : UInt32) (e : Event) (batch : List Event) (k : Stage) : Prop :=
  k = .exhausted e batch ∨ k = .dealing (e :: batch) ∧ m ≤ e.retryCount

/-- What the answer to a worker does: what the worker has in hand before and after it, the call, and
    the outbox before and after it. -/
inductive Deed (m : UInt32) (s : Store) : Stage → Call → Stage → Store → Prop
  | noted (k : Stage) (notice : Notice) : Deed m s k ⟨.note notice, ()⟩ k s
  | fetched (limit : Int) : Deed m s (.ready limit)
      ⟨.outbox (.fetchUnpublished limit), .ok (s.fetch .pending limit)⟩
      (.dealing (s.fetch .pending limit)) s
  | fetchRefused (limit : Int) (error : DeliveryError) : Deed m s (.ready limit)
      ⟨.outbox (.fetchUnpublished limit), .error error⟩ (.dealing []) s
  | accepted (e : Event) (batch : List Event) (h : e.retryCount < m) :
      Deed m s (.dealing (e :: batch)) ⟨.publish e, .ok ()⟩ (.accepted e batch) s
  | rejected (e : Event) (batch : List Event) (error : DeliveryError) (h : e.retryCount < m) :
      Deed m s (.dealing (e :: batch)) ⟨.publish e, .error error⟩ (.rejected e error batch) s
  | published (e row : Event) (batch : List Event) (now : Instant) (h : s.get? e.id = some row) :
      Deed m s (.accepted e batch) ⟨.outbox (.markPublished e.id), .ok ()⟩ (.dealing batch)
        (s.edit e.id fun e => e.recordPublished now)
  | publishedRefused (e : Event) (batch : List Event) (error : DeliveryError) :
      Deed m s (.accepted e batch) ⟨.outbox (.markPublished e.id), .error error⟩
        (.dealing batch) s
  | counted (e row : Event) (batch : List Event) (error : DeliveryError)
      (h : s.get? e.id = some row) :
      Deed m s (.rejected e error batch)
        ⟨.outbox (.markFailed e.id error.reason), .ok (Event.nextCount row.retryCount)⟩
        (if m ≤ Event.nextCount row.retryCount then .exhausted e batch else .dealing batch)
        (s.edit e.id fun e => e.recordFailure error.reason)
  | countRefused (e : Event) (batch : List Event) (error error' : DeliveryError) :
      Deed m s (.rejected e error batch)
        ⟨.outbox (.markFailed e.id error.reason), .error error'⟩ (.dealing batch) s
  | abandoned (e row : Event) (batch : List Event) (k : Stage) (hk : k.Abandons m e batch)
      (h : s.get? e.id = some row) :
      Deed m s k ⟨.outbox (.markAbandoned e.id), .ok ()⟩ (.dealing batch)
        (s.edit e.id Event.recordAbandoned)
  | abandonRefused (e : Event) (batch : List Event) (k : Stage) (error : DeliveryError)
      (hk : k.Abandons m e batch) :
      Deed m s k ⟨.outbox (.markAbandoned e.id), .error error⟩ (.dealing batch) s

variable {m : UInt32} {p : Event → Prop}

theorem Reply.answer?_outbox {reply : Reply} {s s' : Store} {op : Op}
    {a : Except DeliveryError op.Answer} (h : reply.answer? s (.outbox op) = some (a, s')) :
    (∃ error, a = .error error ∧ s' = s) ∨ ∃ now, s.perform now op = (a, s') := by
  cases reply with
  | perform now => exact .inr ⟨now, Option.some.inj h⟩
  | refuse error =>
    cases h
    exact .inl ⟨error, rfl, rfl⟩

theorem Reply.answer?_publish {reply : Reply} {s s' : Store} {e : Event}
    {a : Except DeliveryError Unit} (h : reply.answer? s (.publish e) = some (a, s')) :
    s' = s := by
  cases reply <;> cases h <;> rfl

/-- An answer to an allowed question is one of the deeds. -/
theorem deed_of_answer {s s' : Store} {k : Stage} {q : Request} {a : q.Answer} {reply : Reply}
    (hq : k.Allows m q) (ha : reply.answer? s q = some (a, s')) :
    Deed m s k ⟨q, a⟩ (k.after m q a) s' := by
  -- One case for each question that is allowed. Within each, the call is refused, or it finds its
  -- event, or it does not find it and so fails as well.
  unfold Stage.Allows at hq
  split at hq
  next notice =>
    cases ha
    rw [Stage.after_note]
    exact .noted k notice
  next limit limit' =>
    cases hq
    rcases Reply.answer?_outbox ha with ⟨error, rfl, rfl⟩ | ⟨now, h⟩
    · exact .fetchRefused limit error
    · cases h
      exact .fetched limit
  next e batch e' =>
    obtain ⟨rfl, h⟩ := hq
    cases Reply.answer?_publish ha
    cases a with
    | ok _ => exact .accepted e' batch h
    | error error => exact .rejected e' batch error h
  next e batch id =>
    obtain ⟨rfl, h⟩ := hq
    have hk : (Stage.dealing (e :: batch)).Abandons m e batch := .inr ⟨rfl, h⟩
    rcases Reply.answer?_outbox ha with ⟨error, rfl, rfl⟩ | ⟨now, ha⟩
    · exact .abandonRefused e batch _ error hk
    · rw [Store.perform_markAbandoned] at ha
      split at ha <;> cases ha
      · exact .abandonRefused e batch _ _ hk
      next row hrow => exact .abandoned e row batch _ hk hrow
  next e batch id =>
    cases hq
    rcases Reply.answer?_outbox ha with ⟨error, rfl, rfl⟩ | ⟨now, ha⟩
    · exact .publishedRefused e batch error
    · rw [Store.perform_markPublished] at ha
      split at ha <;> cases ha
      · exact .publishedRefused e batch _
      next row hrow => exact .published e row batch now hrow
  next e error batch id reason =>
    obtain ⟨rfl, rfl⟩ := hq
    rcases Reply.answer?_outbox ha with ⟨error', rfl, rfl⟩ | ⟨now, ha⟩
    · exact .countRefused e batch error error'
    · rw [Store.perform_markFailed] at ha
      split at ha <;> cases ha
      · exact .countRefused e batch error _
      next row hrow => exact .counted e row batch error hrow
  next e batch id =>
    cases hq
    have hk : (Stage.exhausted e batch).Abandons m e batch := .inl rfl
    rcases Reply.answer?_outbox ha with ⟨error, rfl, rfl⟩ | ⟨now, ha⟩
    · exact .abandonRefused e batch _ error hk
    · rw [Store.perform_markAbandoned] at ha
      split at ha <;> cases ha
      · exact .abandonRefused e batch _ _ hk
      next row hrow => exact .abandoned e row batch _ hk hrow
  next => exact hq.elim

/-! ### What calls are about -/

/-- The event that a call publishes or marks. -/
def Call.subject? : Call → Option Uuid
  | ⟨.publish e, _⟩ => some e.id
  | ⟨.outbox (.markPublished id), _⟩ => some id
  | ⟨.outbox (.markFailed id _), _⟩ => some id
  | ⟨.outbox (.markAbandoned id), _⟩ => some id
  | _ => none

theorem Call.publishes_of_subject?_ne {call : Call} {id : Uuid} (h : call.subject? ≠ some id) :
    call.1.publishes id = false := by
  obtain ⟨q, a⟩ := call
  cases q with
  | publish e => simpa [subject?, Request.publishes] using h
  | _ => rfl

/-- A worker asks about an event that it has in hand. -/
theorem Deed.exists_held {s s' : Store} {k k' : Stage} {call : Call} {id : Uuid}
    (h : Deed m s k call k' s') (hid : call.subject? = some id) : ∃ e ∈ k.held, e.id = id := by
  cases h with
  | noted k notice => cases hid
  | fetched limit => cases hid
  | fetchRefused limit error => cases hid
  | abandoned e row batch k hk hrow =>
    cases hid
    rcases hk with rfl | ⟨rfl, _⟩ <;> exact ⟨e, List.mem_cons_self, rfl⟩
  | abandonRefused e batch k error hk =>
    cases hid
    rcases hk with rfl | ⟨rfl, _⟩ <;> exact ⟨e, List.mem_cons_self, rfl⟩
  | _ =>
    cases hid
    exact ⟨_, List.mem_cons_self, rfl⟩

/-- Nothing has been asked about an event that is not in the outbox. -/
def Store.Silent (s : Store) (calls : List Call) : Prop :=
  ∀ id, s.get? id = none → ∀ call ∈ calls, call.subject? ≠ some id

theorem Store.Silent.append {s s' : Store} {calls : List Call} {call : Call} (h : s.Silent calls)
    (hs : ∀ id, s'.get? id = none → s.get? id = none)
    (hc : ∀ id, call.subject? = some id → s.get? id ≠ none) : s'.Silent (calls ++ [call]) := by
  intro id hid call' hcall
  rcases List.mem_append.1 hcall with hcall | hcall
  · exact h id (hs id hid) call' hcall
  · cases List.mem_singleton.1 hcall
    exact fun h => hc id h (hs id hid)

/-! ### Steps -/

/-- A fleet in terms of what its workers have in hand. -/
structure Board where
  store : Store
  stages : List Stage
  calls : List Call

namespace Board

/-- Workers between two ticks, and an empty outbox. -/
def start (size : Nat) : Board := ⟨.empty, List.replicate size (.dealing []), []⟩

/-- All that a turn can do to a board, if nothing but events with a property is stored. -/
inductive Step (m : UInt32) (p : Event → Prop) (b : Board) : Board → Prop
  | stayed : Step m p b b
  | began (i : Nat) (limit : Int) (hi : b.stages[i]? = some (.dealing [])) :
      Step m p b { b with stages := b.stages.set i (.ready limit) }
  | did (i : Nat) (k k' : Stage) (call : Call) (s : Store) (hi : b.stages[i]? = some k)
      (h : Deed m b.store k call k' s) :
      Step m p b ⟨s, b.stages.set i k', b.calls ++ [call]⟩
  | stored (batch : List Event) (hp : ∀ e ∈ batch, p e)
      (h : (⟨b.store.events ++ batch⟩ : Store).Distinct) :
      Step m p b ⟨⟨b.store.events ++ batch⟩, b.stages,
        b.calls ++ [⟨.outbox (.store batch), .ok ()⟩]⟩
  | storeRefused (batch : List Event) (error : DeliveryError) :
      Step m p b { b with calls := b.calls ++ [⟨.outbox (.store batch), .error error⟩] }

theorem Step.distinct {b b' : Board} (h : b.Step m p b') (hd : b.store.Distinct) :
    b'.store.Distinct := by
  cases h with
  | stayed => exact hd
  | began i limit hi => exact hd
  | did i k k' call s hi h =>
    cases h with
    | published e row batch now h => exact hd.edit fun _ => rfl
    | counted e row batch error h => exact hd.edit fun _ => rfl
    | abandoned e row batch k hk h => exact hd.edit Event.id_recordAbandoned
    | _ => exact hd
  | stored batch hp h => exact h
  | storeRefused batch error => exact hd

theorem Step.length_stages {b b' : Board} (h : b.Step m p b') :
    b'.stages.length = b.stages.length := by
  cases h with
  | began i limit hi => exact List.length_set
  | did i k k' call s hi h => exact List.length_set
  | _ => rfl

end Board

namespace Fleet

/-- The board shows what the workers of the fleet, which all try so often, have in hand. -/
structure Shows (m : UInt32) (f : Fleet) (b : Board) : Prop where
  store : b.store = f.store
  calls : b.calls = f.calls
  length : b.stages.length = f.members.length
  follows : ∀ (i : Nat) (k : Stage) (member : Member),
    b.stages[i]? = some k → f.members[i]? = some member →
    member.worker.maxRetries = m ∧
      member.rest.Follows (Stage.protocol m) (fun k _ => k = .dealing []) k

theorem start_shows {workers : List Worker} (hm : ∀ w ∈ workers, w.maxRetries = m) :
    (start workers).Shows m (.start workers.length) where
  store := rfl
  calls := rfl
  length := by simp [start, Board.start]
  follows i k member hk hmember := by
    simp only [Board.start, List.getElem?_replicate] at hk
    split at hk <;> cases hk
    obtain ⟨w, hw, rfl⟩ := List.mem_map.1 (List.mem_of_getElem? hmember)
    exact ⟨hm w hw, rfl⟩

/-- What a question of a worker says of the stage in which it is. -/
theorem Shows.allows {f : Fleet} {b : Board} (h : f.Shows m b) {member : Member} {q : Request}
    (hmember : member ∈ f.members) (hq : member.rest.question? = some q) :
    ∃ (i : Nat) (k : Stage), b.stages[i]? = some k ∧ k.Allows m q := by
  obtain ⟨i, hi⟩ := List.mem_iff_getElem?.1 hmember
  have hlt := (List.getElem?_eq_some_iff.1 hi).1
  have hk := List.getElem?_eq_getElem (h.length ▸ hlt)
  exact ⟨i, _, hk, (h.follows i _ member hk hi).2.allows hq⟩

/-- A worker between two ticks has nothing in hand. -/
theorem Shows.eq_dealing_nil {f : Fleet} {b : Board} (h : f.Shows m b) (hrest : f.IsResting)
    {i : Nat} {k : Stage} (hk : b.stages[i]? = some k) : k = .dealing [] := by
  have hlt := (List.getElem?_eq_some_iff.1 hk).1
  have hi := List.getElem?_eq_getElem (h.length ▸ hlt)
  have hdone := hrest _ (List.mem_of_getElem? hi)
  exact (h.follows i k _ hk hi).2.wanted_of_question?_eq_none hdone

theorem Shows.set {f : Fleet} {b : Board} (h : f.Shows m b) (i : Nat) {k : Stage} (member : Member)
    (hm : member.worker.maxRetries = m)
    (hk : member.rest.Follows (Stage.protocol m) (fun k _ => k = .dealing []) k)
    (s : Store) (calls : List Call) :
    Shows m ⟨s, f.members.set i member, calls⟩ ⟨s, b.stages.set i k, calls⟩ where
  store := rfl
  calls := rfl
  length := by simp [h.length]
  follows j k' member' hk' hmember' := by
    rw [List.getElem?_set] at hk' hmember'
    split at hk'
    next hij =>
      subst hij
      rw [if_pos rfl] at hmember'
      split at hk' <;> cases hk'
      split at hmember' <;> cases hmember'
      exact ⟨hm, hk⟩
    next hij =>
      rw [if_neg hij] at hmember'
      exact h.follows j k' member' hk' hmember'

/-- A turn takes what a board shows to what it shows after a step. -/
theorem Shows.step {f : Fleet} {b : Board} (h : f.Shows m b) (hd : b.store.Distinct) {t : Turn}
    (ht : t.Stores p) : ∃ b', b.Step m p b' ∧ (f.step t).Shows m b' := by
  have hstay : ∃ b', b.Step m p b' ∧ f.Shows m b' := ⟨b, .stayed, h⟩
  -- A worker on the fleet stands for a stage on the board.
  have hstage {i : Nat} {member : Member} (hmember : f.members[i]? = some member) :
      ∃ k, b.stages[i]? = some k := by
    have hi := (List.getElem?_eq_some_iff.1 hmember).1
    exact ⟨_, List.getElem?_eq_getElem (h.length ▸ hi)⟩
  cases t with
  | tick i =>
    simp only [Fleet.step]
    split
    next w report hmember =>
      obtain ⟨k, hk⟩ := hstage hmember
      obtain ⟨hm, rfl⟩ := h.follows i k _ hk hmember
      -- The worker is done with its tick, and so has nothing in hand.
      refine ⟨_, .began i w.limit hk, ?_⟩
      have := h.set i ⟨w, w.runOnce⟩ hm (hm ▸ w.runOnce_follows) f.store f.calls
      rw [← h.store, ← h.calls] at this ⊢
      exact this
    next => exact hstay
  | answer i reply =>
    simp only [Fleet.step]
    split
    next w q next hmember =>
      obtain ⟨k, hk⟩ := hstage hmember
      obtain ⟨hm, hq, hnext⟩ := h.follows i k _ hk hmember
      split
      next a s ha =>
        refine ⟨_, .did i k _ ⟨q, a⟩ s hk (deed_of_answer hq (h.store ▸ ha)), ?_⟩
        rw [h.calls]
        exact h.set i ⟨w, next a⟩ hm (hnext a _ rfl) s _
      next => exact hstay
    next => exact hstay
  | store batch reply =>
    simp only [Fleet.step]
    split
    next a s ha =>
      rcases Reply.answer?_outbox ha with ⟨error, rfl, rfl⟩ | ⟨now, ha⟩
      · exact ⟨_, .storeRefused batch error, h.store, by rw [h.calls], h.length, h.follows⟩
      · rw [Store.perform_store] at ha
        split at ha <;> cases ha
        · exact ⟨_, .storeRefused batch _, h.store, by rw [h.calls], h.length, h.follows⟩
        next hs =>
          obtain ⟨rfl, hd'⟩ := (Store.store_eq_ok_iff (h.store ▸ hd)).1 hs
          rw [← h.store] at hd'
          exact ⟨_, .stored batch ht hd', by rw [h.store], by rw [h.calls], h.length, h.follows⟩
    next => exact hstay

/-- What every step of a board keeps is kept by every sequence of turns. -/
theorem play_keeps (I : Board → Prop)
    (hI : ∀ b b' : Board, b.store.Distinct → I b → b.Step m p b' → I b') {f : Fleet} {b : Board}
    (h : f.Shows m b) (hd : b.store.Distinct) (hb : I b) {turns : List Turn}
    (ht : ∀ t ∈ turns, t.Stores p) :
    ∃ b', (f.play turns).Shows m b' ∧ b'.store.Distinct ∧ I b' := by
  -- That no identifier comes twice is kept along with the invariant, which may rely on it.
  induction turns generalizing f b with
  | nil => exact ⟨b, h, hd, hb⟩
  | cons t turns ih =>
    obtain ⟨b', hs, h'⟩ := h.step hd (ht t List.mem_cons_self)
    exact ih h' (hs.distinct hd) (hI b b' hd hb hs) fun t' ht' => ht t' (List.mem_cons_of_mem t ht')

end Fleet

end Outbox

end Courier
