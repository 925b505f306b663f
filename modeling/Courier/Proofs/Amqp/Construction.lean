import Courier.Proofs.Transcript
import Courier.Simulation.Broker

/-!
# Connecting to a broker

To connect, a publisher or a subscriber opens a connection, opens a channel on it and takes some
steps on the channel, one after the other. At the first failure nothing more is set up: what has
been opened is closed, whatever comes of closing it, and the failure is the error that comes back.

* `Step`: a step of setting up a channel.
* `Taken`: the steps were taken in their order, up to the first that failed.
* `Established`: how the connecting goes as a whole, in each of the ways in which it can go.
* `Established.eq_ok_iff`: it succeeds if and only if everything on the way has succeeded.
* `connect_establishes`: a publisher and a subscriber connect in no other way.
-/

namespace Courier.Amqp

/-- Requests with their answers. -/
abbrev Calls : Type := Transcript Request Request.Answer

/-- Whether a request only reports to the log. -/
def Request.isNote : Request → Bool
  | .note _ => true
  | _ => false

/-- The calls that are more than reports to the log. -/
def talk (calls : Calls) : Calls := calls.filter fun call => !call.1.isNote

@[simp]
theorem talk_append (calls calls' : Calls) : talk (calls ++ calls') = talk calls ++ talk calls' :=
  List.filter_append ..

/-! ### Steps -/

/-- A step of setting up a channel. -/
inductive Step
  | declareExchange (exchange : String)
  | declareQueue (queue : String)
  /-- Have the events of a topic and of everything below it go from an exchange to a queue. -/
  | bind (queue exchange topic : String)
  | enableConfirms

namespace Step

/-- The step on a channel, with what the broker has answered. -/
def answered (channel : Channel) (answer : Except String Unit) : Step → Σ q : Request, q.Answer
  | declareExchange exchange => ⟨.declareExchange channel exchange, answer⟩
  | declareQueue queue => ⟨.declareQueue channel queue, answer⟩
  | bind queue exchange topic =>
    ⟨.bindQueue channel queue exchange (Topic.subtree topic), answer⟩
  | enableConfirms => ⟨.enableConfirms channel, answer⟩

/-- What the error of a step that has failed begins with. -/
def name : Step → String
  | declareExchange exchange => "declare exchange " ++ exchange
  | declareQueue queue => "declare queue " ++ queue
  | bind _ _ topic => "bind " ++ Topic.subtree topic
  | enableConfirms => "enable confirms"

/-- A step that has failed is none that has succeeded. -/
theorem answered_error_ne {channel channel' : Channel} {reason : String} (x y : Step) :
    x.answered channel (.error reason) ≠ y.answered channel' (.ok ()) := by
  rcases x with _ | _ | _ | _ <;> rcases y with _ | _ | _ | _ <;> simp [answered]

end Step

/-- Steps were taken on a channel, one after the other, up to the first that failed. -/
inductive Taken (channel : Channel) : List Step → Calls → Except DeliveryError Unit → Prop
  | all (steps : List Step) :
      Taken channel steps (steps.map (·.answered channel (.ok ()))) (.ok ())
  | upTo (before : List Step) (step : Step) (after : List Step) (reason : String) :
      Taken channel (before ++ step :: after)
        (before.map (·.answered channel (.ok ())) ++ [step.answered channel (.error reason)])
        (.error (failure step.name reason))

namespace Taken

variable {channel : Channel} {steps : List Step} {calls : Calls}
  {result : Except DeliveryError Unit}

theorem next (h : Taken channel steps calls result) (step : Step) :
    Taken channel (step :: steps) (step.answered channel (.ok ()) :: calls) result := by
  cases h with
  | all => exact .all (step :: steps)
  | upTo before failed after reason => exact .upTo (step :: before) failed after reason

theorem first (step : Step) (steps : List Step) (reason : String) :
    Taken channel (step :: steps) [step.answered channel (.error reason)]
      (.error (failure step.name reason)) :=
  .upTo [] step steps reason

theorem append {error : DeliveryError} (h : Taken channel steps calls (.error error))
    (more : List Step) : Taken channel (steps ++ more) calls (.error error) := by
  cases h with
  | upTo before failed after reason =>
    rw [List.append_assoc]
    exact .upTo before failed (after ++ more) reason

theorem after (before : List Step) (h : Taken channel steps calls result) :
    Taken channel (before ++ steps) (before.map (·.answered channel (.ok ())) ++ calls) result := by
  induction before with
  | nil => exact h
  | cons step before ih => exact ih.next step

theorem calls_eq (h : Taken channel steps calls (.ok ())) :
    calls = steps.map (·.answered channel (.ok ())) := by
  cases h with
  | all => rfl

end Taken

/-! ### Connecting -/

/-- A connection and a channel on it have been opened. -/
def opening (host : String) (connection : Connection) (channel : Channel) : Calls :=
  [⟨.connect host, .ok connection⟩, ⟨.openChannel connection, .ok channel⟩]

/-- A channel and its connection have been closed, with these answers. -/
def closing (connection : Connection) (channel : Channel) (answer answer' : Except String Unit) :
    Calls :=
  [⟨.closeChannel channel closeCode "closing", answer⟩,
    ⟨.closeConnection connection closeCode "closing", answer'⟩]

/-- What has been said to a broker to open a connection and a channel and to take steps on it, and
    what has come of that. -/
inductive Established (host : String) (steps : List Step) :
    Calls → Except DeliveryError (Connection × Channel) → Prop
  /-- There is no connection. -/
  | unconnected (reason : String) :
      Established host steps [⟨.connect host, .error reason⟩] (.error (failure "connect" reason))
  /-- There is no channel, and the connection is closed, whatever comes of that. -/
  | unopened (connection : Connection) (reason : String) (answer : Except String Unit) :
      Established host steps
        [⟨.connect host, .ok connection⟩, ⟨.openChannel connection, .error reason⟩,
          ⟨.closeConnection connection closeCode "channel failed", answer⟩]
        (.error (failure "open channel" reason))
  /-- A step has failed, and both the channel and the connection are closed, whatever comes of
      either. -/
  | stopped (connection : Connection) (channel : Channel) {calls : Calls} {error : DeliveryError}
      (h : Taken channel steps calls (.error error)) (answer answer' : Except String Unit) :
      Established host steps
        (opening host connection channel ++ calls ++ closing connection channel answer answer')
        (.error error)
  /-- Everything has succeeded, and nothing is closed. -/
  | completed (connection : Connection) (channel : Channel) :
      Established host steps
        (opening host connection channel ++ steps.map (·.answered channel (.ok ())))
        (.ok (connection, channel))

namespace Established

variable {host : String} {steps : List Step} {calls : Calls}

/-- Whoever has a channel has it after everything has succeeded. -/
theorem calls_eq {connection : Connection} {channel : Channel}
    (h : Established host steps calls (.ok (connection, channel))) :
    calls = opening host connection channel ++ steps.map (·.answered channel (.ok ())) := by
  cases h with
  | completed => rfl

/-- Connecting has succeeded if and only if everything on the way has. -/
theorem eq_ok_iff {result : Except DeliveryError (Connection × Channel)} {connection : Connection}
    {channel : Channel} (h : Established host steps calls result) :
    result = .ok (connection, channel) ↔
      calls = opening host connection channel ++ steps.map (·.answered channel (.ok ())) := by
  refine ⟨fun hok => calls_eq (hok ▸ h), fun hcalls => ?_⟩
  cases h with
  | unconnected reason => simp [opening] at hcalls
  | unopened connection reason answer => simp [opening] at hcalls
  | completed => simp_all [opening]
  | stopped connection' channel' h answer answer' =>
    -- The step that has failed would be one that has succeeded.
    cases h with
    | upTo before step after reason =>
      have hmem : step.answered channel' (.error reason) ∈ opening host connection channel ++
          (before ++ step :: after).map (·.answered channel (.ok ())) := by
        rw [← hcalls]
        simp
      rcases List.mem_append.1 hmem with hmem | hmem
      · rcases step with _ | _ | _ | _ <;> simp [opening, Step.answered] at hmem
      · obtain ⟨other, -, heq⟩ := List.mem_map.1 hmem
        exact absurd heq.symm (Step.answered_error_ne step other)

/-- A failure is the same failure, whatever other steps would have followed. -/
theorem append {error : DeliveryError} (h : Established host steps calls (.error error))
    (more : List Step) : Established host (steps ++ more) calls (.error error) := by
  cases h with
  | unconnected reason => exact .unconnected reason
  | unopened connection reason answer => exact .unopened connection reason answer
  | stopped connection channel h answer answer' =>
    exact .stopped connection channel (h.append more) answer answer'

/-- More steps are taken, and they succeed. -/
theorem go_on {connection : Connection} {channel : Channel} {more : List Step} {calls' : Calls}
    (h : Established host steps calls (.ok (connection, channel)))
    (hmore : Taken channel more calls' (.ok ())) :
    Established host (steps ++ more) (calls ++ calls') (.ok (connection, channel)) := by
  rw [h.calls_eq, hmore.calls_eq, List.append_assoc, ← List.map_append]
  exact .completed connection channel

/-- More steps are taken, one of them fails, and everything is closed. -/
theorem stop {connection : Connection} {channel : Channel} {more : List Step} {calls' : Calls}
    {error : DeliveryError} (h : Established host steps calls (.ok (connection, channel)))
    (hmore : Taken channel more calls' (.error error)) (answer answer' : Except String Unit) :
    Established host (steps ++ more)
      (calls ++ calls' ++ closing connection channel answer answer') (.error error) := by
  rw [h.calls_eq, List.append_assoc (opening host connection channel)]
  exact .stopped connection channel (hmore.after steps) answer answer'

end Established

/-! ### What is said -/

variable {host exchange queue : String} {connection : Connection} {channel : Channel}
  {calls : Calls}

theorem note_runs {notice : Notice} (h : (note notice : Session Unit).Runs calls (.done ())) :
    talk calls = [] := by
  obtain ⟨_, rest, rfl, hrest⟩ := Program.Runs.of_ask h
  obtain ⟨rfl, -⟩ := hrest.of_done
  rfl

/-- Whatever comes of a call that is worth a try, it is made, and nothing else is said. -/
theorem bestEffort_runs {ε α : Type} {text : ε → String} {operation : String}
    {call : Session (Except ε α)} (h : (bestEffort text operation call).Runs calls (.done ())) :
    ∃ answer calls', call.Runs calls' (.done answer) ∧ talk calls = talk calls' :=
  Program.Runs.of_bestEffort note_runs h

theorem closeQuietly_runs (h : (closeQuietly connection channel).Runs calls (.done ())) :
    ∃ answer answer', talk calls = closing connection channel answer answer' := by
  obtain ⟨_, calls₁, calls₂, rfl, h₁, h₂⟩ := h.of_bind
  obtain ⟨answer, asked₁, hask₁, htalk₁⟩ := bestEffort_runs h₁
  obtain ⟨answer', asked₂, hask₂, htalk₂⟩ := bestEffort_runs h₂
  refine ⟨answer, answer', ?_⟩
  rw [talk_append, htalk₁, htalk₂, hask₁.of_request, hask₂.of_request]
  rfl

/-- A step that has failed is followed by closing everything, and its error comes back. -/
theorem Established.of_closeQuietly {α : Type} {steps more : List Step} {calls₁ calls₂ : Calls}
    {error : DeliveryError} {result : Except DeliveryError α}
    (h : Established host steps (talk calls₁) (.ok (connection, channel)))
    (hmore : Taken channel more (talk calls₂) (.error error))
    (hclose : (closeQuietly connection channel >>= fun _ => return .error error).Runs calls
      (.done result)) :
    Established host (steps ++ more) (talk (calls₁ ++ (calls₂ ++ calls))) (.error error) ∧
      result = .error error := by
  obtain ⟨_, closes, rest, rfl, hcloses, hrest⟩ := hclose.of_bind
  obtain ⟨rfl, rfl⟩ := hrest.of_done
  obtain ⟨answer, answer', htalk⟩ := closeQuietly_runs hcloses
  refine ⟨?_, rfl⟩
  rw [List.append_nil, talk_append, talk_append, htalk, ← List.append_assoc]
  exact h.stop hmore answer answer'

theorem openChannel_runs {result : Except DeliveryError (Connection × Channel)}
    (h : (openChannel host exchange).Runs calls (.done result)) :
    Established host [.declareExchange exchange] (talk calls) result := by
  obtain ⟨connected, calls₁, rfl, h₁⟩ := Program.Runs.of_request_bind h
  rcases connected with reason | connection
  · obtain ⟨rfl, rfl⟩ := h₁.of_done
    exact .unconnected reason
  obtain ⟨opened, calls₂, rfl, h₂⟩ := Program.Runs.of_request_bind h₁
  rcases opened with reason | channel
  · obtain ⟨_, closes, rest, rfl, hcloses, hrest⟩ := h₂.of_bind
    obtain ⟨rfl, rfl⟩ := hrest.of_done
    obtain ⟨answer, asked, hask, htalk⟩ := bestEffort_runs hcloses
    rw [hask.of_request] at htalk
    rw [List.append_nil]
    change Established host _ (_ :: _ :: talk closes) _
    rw [htalk]
    exact .unopened connection reason answer
  have hopened : Established host [] (talk (opening host connection channel))
      (.ok (connection, channel)) :=
    .completed connection channel
  obtain ⟨declared, calls₃, rfl, h₃⟩ := Program.Runs.of_request_bind h₂
  rcases declared with reason | _
  · have hstopped : Taken channel [.declareExchange exchange]
        (talk [(Step.declareExchange exchange).answered channel (.error reason)]) _ :=
      .first (.declareExchange exchange) [] reason
    obtain ⟨hclosed, rfl⟩ := hopened.of_closeQuietly hstopped h₃
    exact hclosed
  · obtain ⟨rfl, rfl⟩ := h₃.of_done
    exact hopened.go_on (.all [.declareExchange exchange])

theorem bindTopics_runs {topics : List String} {result : Except DeliveryError Unit}
    (h : (bindTopics channel queue exchange topics).Runs calls (.done result)) :
    Taken channel (topics.map (.bind queue exchange)) (talk calls) result := by
  induction topics generalizing calls with
  | nil =>
    obtain ⟨rfl, rfl⟩ := h.of_done
    exact .all []
  | cons topic topics ih =>
    obtain ⟨bound, calls₁, calls₂, rfl, h₁, h₂⟩ := h.of_bind
    obtain ⟨answer, rest, rfl, hrest⟩ := Program.Runs.of_request_bind h₁
    rcases answer with reason | _
    · obtain ⟨rfl, rfl⟩ := hrest.of_done
      obtain ⟨rfl, rfl⟩ := h₂.of_done
      exact .first (.bind queue exchange topic) _ reason
    · obtain ⟨rfl, rfl⟩ := hrest.of_done
      exact (ih h₂).next (.bind queue exchange topic)

theorem Publisher.connect_runs {result : Except DeliveryError Publisher}
    (h : (Publisher.connect host exchange).Runs calls (.done result)) :
    ∃ opened, result = opened.map (fun x => ⟨x.1, x.2, exchange⟩) ∧
      Established host [.declareExchange exchange, .enableConfirms] (talk calls) opened := by
  obtain ⟨opened, calls₁, calls₂, rfl, h₁, h₂⟩ := h.of_bind
  have hopened := openChannel_runs h₁
  rcases opened with error | ⟨connection, channel⟩
  · obtain ⟨rfl, rfl⟩ := h₂.of_done
    rw [List.append_nil]
    exact ⟨.error error, rfl, hopened.append [.enableConfirms]⟩
  obtain ⟨enabled, calls₃, rfl, h₃⟩ := Program.Runs.of_request_bind h₂
  rcases enabled with reason | _
  · have hstopped : Taken channel [.enableConfirms]
        (talk [Step.enableConfirms.answered channel (.error reason)]) _ :=
      .first .enableConfirms [] reason
    obtain ⟨hclosed, rfl⟩ := hopened.of_closeQuietly hstopped h₃
    exact ⟨.error _, rfl, hclosed⟩
  · obtain ⟨_, reports, rfl, hrest⟩ := Program.Runs.of_ask h₃
    obtain ⟨rfl, rfl⟩ := hrest.of_done
    refine ⟨.ok (connection, channel), rfl, ?_⟩
    rw [talk_append]
    exact hopened.go_on (.all [.enableConfirms])

theorem Subscriber.connect_runs {topics : List String} {result : Except DeliveryError Subscriber}
    (h : (Subscriber.connect host exchange queue topics).Runs calls (.done result)) :
    ∃ opened, result = opened.map (fun x => ⟨x.1, x.2, exchange, queue, topics⟩) ∧
      Established host (.declareExchange exchange :: .declareQueue queue ::
        topics.map (.bind queue exchange)) (talk calls) opened := by
  obtain ⟨opened, calls₁, calls₂, rfl, h₁, h₂⟩ := h.of_bind
  have hopened := openChannel_runs h₁
  rcases opened with error | ⟨connection, channel⟩
  · obtain ⟨rfl, rfl⟩ := h₂.of_done
    rw [List.append_nil]
    exact ⟨.error error, rfl, hopened.append _⟩
  obtain ⟨declared, calls₃, rfl, h₃⟩ := Program.Runs.of_request_bind h₂
  rcases declared with reason | _
  · have hstopped : Taken channel (.declareQueue queue :: topics.map (.bind queue exchange))
        (talk [(Step.declareQueue queue).answered channel (.error reason)]) _ :=
      .first (.declareQueue queue) _ reason
    obtain ⟨hclosed, rfl⟩ := hopened.of_closeQuietly hstopped h₃
    exact ⟨.error _, rfl, hclosed⟩
  obtain ⟨bound, calls₄, calls₅, rfl, h₄, h₅⟩ := h₃.of_bind
  have htaken : Taken channel (.declareQueue queue :: topics.map (.bind queue exchange))
      (talk ((Step.declareQueue queue).answered channel (.ok ()) :: calls₄)) bound :=
    (bindTopics_runs h₄).next (.declareQueue queue)
  rcases bound with error | _
  · obtain ⟨hclosed, rfl⟩ := hopened.of_closeQuietly htaken h₅
    exact ⟨.error error, rfl, hclosed⟩
  · obtain ⟨_, reports, rest, rfl, hreports, hrest⟩ := h₅.of_bind
    obtain ⟨rfl, rfl⟩ := hrest.of_done
    have hreport : talk (reports ++ []) = [] := by rw [List.append_nil, note_runs hreports]
    refine ⟨.ok (connection, channel), rfl, ?_⟩
    rw [talk_append, ← List.cons_append, talk_append, hreport, List.append_nil]
    exact hopened.go_on htaken

/-! ### Publishers and subscribers -/

/-- However a broker answers, the program connects by taking these steps, and when everything has
    succeeded, and only then, it comes back with what it has made of the connection and the
    channel. -/
def Connects {α : Type} (host : String) (steps : List Step) (make : Connection × Channel → α)
    (p : Session (Except DeliveryError α)) : Prop :=
  ∀ (σ : Type) (answer : (q : Request) → σ → q.Answer × σ) (st : σ), ∃ opened,
    (p.run answer st).1 = opened.map make ∧
      Established host steps (talk (p.transcript answer st)) opened ∧
      ∀ connection channel, opened = .ok (connection, channel) ↔
        talk (p.transcript answer st) =
          opening host connection channel ++ steps.map (·.answered channel (.ok ()))

theorem Connects.of_runs {α : Type} {steps : List Step} {make : Connection × Channel → α}
    {p : Session (Except DeliveryError α)}
    (h : ∀ {calls result}, p.Runs calls (.done result) →
      ∃ opened, result = opened.map make ∧ Established host steps (talk calls) opened) :
    Connects host steps make p := by
  intro σ answer st
  obtain ⟨opened, hresult, hopened⟩ := h (p.runs_transcript answer st)
  exact ⟨opened, hresult, hopened, fun _ _ => hopened.eq_ok_iff⟩

/-- However a broker answers, a publisher declares its exchange and has messages confirmed, and a
    subscriber declares its exchange and its queue and binds its topics in their order. Either
    stops at the first failure, which is the error that comes back, and closes what it has
    opened. -/
theorem connect_establishes (host exchange queue : String) (topics : List String) :
    Connects host [.declareExchange exchange, .enableConfirms]
        (fun x => (⟨x.1, x.2, exchange⟩ : Publisher)) (Publisher.connect host exchange) ∧
      Connects host
        (.declareExchange exchange :: .declareQueue queue :: topics.map (.bind queue exchange))
        (fun x => (⟨x.1, x.2, exchange, queue, topics⟩ : Subscriber))
        (Subscriber.connect host exchange queue topics) :=
  ⟨Connects.of_runs Publisher.connect_runs, Connects.of_runs Subscriber.connect_runs⟩

open Simulation in
/-- The broker closes the connection when the second topic is to be bound, and refuses to close
    anything then. -/
example :
    let b := Broker.new.script "queue.bind" [none, some .closeConnection]
    let p := Subscriber.connect "/" "events" "mail" ["user", "order", "news"]
    (Broker.run p b).1 = .error (failure "bind order.#" Broker.refusal) ∧
      (talk (p.transcript Broker.answer b)).map (·.1) =
        [.connect "/", .openChannel ⟨0⟩, .declareExchange ⟨0⟩ "events", .declareQueue ⟨0⟩ "mail",
          .bindQueue ⟨0⟩ "mail" "events" "user.#", .bindQueue ⟨0⟩ "mail" "events" "order.#",
          .closeChannel ⟨0⟩ 200 "closing", .closeConnection ⟨0⟩ 200 "closing"] :=
  ⟨rfl, rfl⟩

end Courier.Amqp
