import Courier.Proofs.Amqp.Construction
import Mathlib.Data.List.Infix

/-!
# Closing a connection to a broker

A publisher or a subscriber that is closed closes its channel and then its connection. It stops when
its channel cannot be closed, and the broker may have closed the channel long before. Then nothing
is said of the connection any more, and it stays open if it was.

* `Broker.Owns`: a channel has been opened on a connection, which is never forgotten.
* `Client`: a publisher or a subscriber, and `Client.ConnectedBy` how it has got its connection.
* `Client.close_runs`: what is said when a client is closed, and what comes back.
* `Client.close_attempts_iff`: when closing a client closes its connection, and when it leaves the
  connection open.
-/

namespace Courier

/-! ### Channels and their connections -/

namespace Simulation.Broker

open Amqp

variable {b : Broker}

/-- The connections on which the channels have been opened, in the order of opening. -/
def owners (b : Broker) : List Nat := b.channels.map (·.1)

/-- The channel has been opened on the connection. -/
def Owns (b : Broker) (connection : Connection) (channel : Channel) : Prop :=
  b.owners[channel.number]? = some connection.number

theorem owners_closeChannel (b : Broker) (channel : Nat) (by_ : LinkState) :
    (b.closeChannel channel by_).owners = b.owners := by
  rw [closeChannel]
  split
  · refine List.ext_getElem? fun i => ?_
    simp only [owners, List.getElem?_map, List.getElem?_modify]
    split
    · cases b.channels[i]? <;> rfl
    · simp
  · rfl

theorem owners_closeConnection (b : Broker) (connection : Nat) (by_ : LinkState) :
    (b.closeConnection connection by_).owners = b.owners := by
  have hfold (channels : List Nat) (b : Broker) :
      (channels.foldl (fun b i => b.closeChannel i by_) b).owners = b.owners := by
    induction channels generalizing b with
    | nil => rfl
    | cons i channels ih => exact (ih _).trans (b.owners_closeChannel i by_)
  exact hfold _ b

theorem owners_takeReply (b : Broker) (method : String) :
    (b.takeReply method).2.owners = b.owners := by
  rw [takeReply]
  split <;> rfl

theorem owners_take (b : Broker) (call : Amqp.Request) : (b.take call).2.owners = b.owners :=
  owners_takeReply _ _

theorem owners_answerOn {α : Type} (b : Broker) (channel : Nat) (call : Amqp.Request)
    {usual : Broker → Except String α × Broker} (h : ∀ b, (usual b).2.owners = b.owners) :
    (b.answerOn channel call usual).2.owners = b.owners := by
  rw [answerOn]
  split
  · have htake := b.owners_take call
    split
    next b' heq =>
      rw [heq] at htake
      exact (owners_closeChannel ..).trans htake
    next b' heq =>
      rw [heq] at htake
      exact (owners_closeConnection ..).trans htake
    next b' _ _ heq =>
      rw [heq] at htake
      exact (h _).trans htake
  · rfl

/-- Whatever is asked of a broker, channels only come to be. -/
theorem owners_prefix_answer (q : Amqp.Request) (b : Broker) :
    b.owners <+: (answer q b).2.owners := by
  have hdone (channel : Nat) (call : Amqp.Request) :
      b.owners <+: (b.answerOn channel call done).2.owners := by
    rw [b.owners_answerOn channel call fun _ => rfl]
  cases q with
  | freshId | clock | note => exact List.prefix_rfl
  | connect host =>
    have htake := b.owners_take (.connect host)
    rw [answer]
    split <;> simp_all [owners]
  | openChannel c =>
    have htake := b.owners_take (.openChannel c)
    rw [answer]
    split
    · split
      next heq =>
        rw [heq] at htake
        simp_all [owners]
      next heq =>
        rw [heq] at htake
        rw [owners_closeConnection, htake]
      next heq =>
        rw [heq] at htake
        rw [htake]
    · exact List.prefix_rfl
  | declareExchange | declareQueue | bindQueue | enableConfirms => exact hdone _ _
  | publish channel exchange routingKey payload properties =>
    rw [answer, owners_answerOn]
    intro b'
    split
    · exact owners_takeReply _ _
    · rfl
  | consume channel queue tag =>
    rw [answer, owners_answerOn]
    exact fun _ => rfl
  | confirm channel tag =>
    rw [answer]
    split
    · exact hdone _ _
    · exact List.prefix_rfl
  | closeChannel channel code text =>
    rw [answer, owners_answerOn]
    exact fun b' => b'.owners_closeChannel _ _
  | closeConnection c code text =>
    have htake := b.owners_take (.closeConnection c code text)
    rw [answer]
    split
    · split <;> simp_all [owners_closeConnection]
    · exact List.prefix_rfl
  | receive consumer =>
    rw [answer]
    split
    · exact List.prefix_rfl
    · split <;> exact List.prefix_rfl

/-- What has been opened is not forgotten. -/
theorem Owns.answer {connection : Connection} {channel : Channel} (h : b.Owns connection channel)
    (q : Amqp.Request) : (answer q b).2.Owns connection channel := by
  obtain ⟨more, hmore⟩ := owners_prefix_answer q b
  rw [Owns, ← hmore, List.getElem?_append_left (List.getElem?_eq_some_iff.1 h).1]
  exact h

theorem Owns.run {connection : Connection} {channel : Channel} (h : b.Owns connection channel)
    {α : Type} (session : Session α) : (b.run session).2.Owns connection channel := by
  induction session generalizing b with
  | done a => exact h
  | ask q next ih => exact ih _ (h.answer q)

/-- A channel is given for the connection on which it has been opened. -/
theorem owns_of_answer {connection : Connection} {channel : Channel}
    (h : (answer (.openChannel connection) b).1 = .ok channel) :
    (answer (.openChannel connection) b).2.Owns connection channel := by
  rw [answer] at h ⊢
  split at h
  next hopen =>
    rw [if_pos hopen]
    split at h
    next b' heq =>
      cases h
      simp [Owns, owners]
    next => cases h
    next => cases h
  next => cases h

/-- A channel that is given in a session belongs to its connection ever after. -/
theorem owns_of_mem_transcript {α : Type} {session : Session α} {connection : Connection}
    {channel : Channel}
    (h : ⟨.openChannel connection, .ok channel⟩ ∈ session.transcript Broker.answer b) :
    (b.run session).2.Owns connection channel := by
  induction session generalizing b with
  | done a => exact absurd h List.not_mem_nil
  | ask q next ih =>
    rcases List.mem_cons.1 h with h | h
    · injection h with hq ha
      subst hq
      exact (owns_of_answer (eq_of_heq ha).symm).run _
    · exact ih _ h

/-! ### Links that are closed -/

theorem connections_closeChannel (b : Broker) (channel : Nat) (by_ : LinkState) :
    (b.closeChannel channel by_).connections = b.connections := by
  rw [closeChannel]
  split <;> rfl

theorem connections_take (b : Broker) (call : Amqp.Request) :
    (b.take call).2.connections = b.connections := by
  rw [take, takeReply]
  split <;> rfl

theorem reply_take (b : Broker) (call : Amqp.Request) :
    (b.take call).1 = (b.takeReply (method call)).1 := by
  rw [take, takeReply, takeReply]
  dsimp only
  split <;> rfl

/-- A connection that has been closed is not open. -/
theorem isOpen_closeConnection (b : Broker) (connection : Nat) {by_ : LinkState}
    (h : by_ ≠ .isOpen) : (b.closeConnection connection by_).isOpen connection = false := by
  rw [closeConnection, isOpen, List.getElem?_set_self']
  cases (List.foldl _ b _).connections[connection]? with
  | none => rfl
  | some state => simpa using h

/-- Whatever comes of closing a connection, it is not open after that. -/
theorem isOpen_answer_closeConnection (b : Broker) (connection : Connection) (code : Nat)
    (text : String) :
    (Broker.answer (.closeConnection connection code text) b).2.isOpen connection.number =
      false := by
  rw [Broker.answer]
  split
  · split
    · exact isOpen_closeConnection _ _ (by simp)
    · exact isOpen_closeConnection _ _ (by simp)
  next h => exact Bool.eq_false_iff.2 h

/-- Closing a channel fails and leaves its connection as it is: the channel is not usable any more,
    or the broker closes it instead of answering. -/
def Stalls (b : Broker) (channel : Channel) : Prop :=
  b.isUsable channel.number = false ∨ (b.takeReply "channel.close").1 = some .closeChannel

/-- What becomes of a connection when its channel is to be closed. -/
theorem Owns.closeChannel {connection : Connection} {channel : Channel}
    (h : b.Owns connection channel) (code : Nat) (text : String) :
    ∃ b', b.Stalls channel ∧ b'.isOpen connection.number = b.isOpen connection.number ∧
        Broker.answer (.closeChannel channel code text) b = (.error refusal, b') ∨
      ¬b.Stalls channel ∧ b'.isOpen connection.number = false ∧
        Broker.answer (.closeChannel channel code text) b = (.error refusal, b') ∨
      ¬b.Stalls channel ∧
        Broker.answer (.closeChannel channel code text) b = (.ok (), b') := by
  rw [Broker.answer, answerOn]
  cases husable : b.isUsable channel.number with
  | false => exact ⟨b, .inl ⟨.inl husable, rfl, rfl⟩⟩
  | true =>
    have hreply := b.reply_take (.closeChannel channel code text)
    have hconnections := b.connections_take (.closeChannel channel code text)
    have howners := b.owners_take (.closeChannel channel code text)
    rw [if_pos rfl]
    have hstalls (h : (b.take (.closeChannel channel code text)).1 ≠ some .closeChannel) :
        ¬b.Stalls channel := by
      rintro (hunusable | hcloses)
      · rw [husable] at hunusable
        cases hunusable
      · exact h (hreply.trans hcloses)
    split
    next b' heq =>
      rw [heq] at hreply hconnections
      refine ⟨_, .inl ⟨.inr hreply.symm, ?_, rfl⟩⟩
      rw [isOpen, connections_closeChannel, hconnections, isOpen]
    next b' heq =>
      rw [heq] at hstalls howners
      have howner : b'.channels[channel.number]?.map (·.1) = some connection.number := by
        rw [← List.getElem?_map]
        exact (congrArg (·[channel.number]?) howners).trans h
      refine ⟨_, .inr (.inl ⟨hstalls (by simp), ?_, rfl⟩)⟩
      rw [howner]
      exact isOpen_closeConnection b' _ (by simp)
    next reply b' hcloses hkills heq =>
      rw [heq] at hstalls
      exact ⟨_, .inr (.inr ⟨hstalls hcloses, rfl⟩)⟩

end Simulation.Broker

namespace Amqp

open Simulation

/-! ### Clients -/

/-- Who talks to a broker. -/
inductive Client
  | publisher (p : Publisher)
  | subscriber (s : Subscriber)

namespace Client

def connection : Client → Connection
  | publisher p => p.connection
  | subscriber s => s.connection

def channel : Client → Channel
  | publisher p => p.channel
  | subscriber s => s.channel

/-- Closes a client. -/
def close : Client → Session (Except DeliveryError Unit)
  | publisher p => p.close
  | subscriber s => s.close

/-- The client has connected to the first broker, which has become the second one by that. -/
inductive ConnectedBy (b b' : Broker) : Client → Prop
  | publisher {host exchange : String} {p : Publisher}
      (h : b.run (Publisher.connect host exchange) = (.ok p, b')) : ConnectedBy b b' (publisher p)
  | subscriber {host exchange queue : String} {topics : List String} {s : Subscriber}
      (h : b.run (Subscriber.connect host exchange queue topics) = (.ok s, b')) :
      ConnectedBy b b' (subscriber s)

end Client

/-- Whoever has connected has been given a channel on the connection. -/
theorem Established.openChannel_mem {host : String} {steps : List Step} {calls : Calls}
    {connection : Connection} {channel : Channel}
    (h : Established host steps (talk calls) (.ok (connection, channel))) :
    ⟨.openChannel connection, .ok channel⟩ ∈ calls := by
  have hmem : ⟨.openChannel connection, .ok channel⟩ ∈ talk calls := by
    rw [h.calls_eq]
    simp [opening]
  exact (List.mem_filter.1 hmem).1

namespace Client

variable {client : Client} {b b' : Broker}

/-- The channel of a client that has connected has been opened on its connection. -/
theorem ConnectedBy.owns (h : client.ConnectedBy b b') :
    b'.Owns client.connection client.channel := by
  cases h with
  | @publisher host exchange p h =>
    obtain ⟨opened, hresult, hestablished⟩ := Publisher.connect_runs
      (Program.runs_transcript Broker.answer (Publisher.connect host exchange) b)
    rw [show Program.run Broker.answer _ b = _ from h] at hresult
    obtain _ | ⟨connection, channel⟩ := opened
    · cases hresult
    · cases hresult
      have howns := Broker.owns_of_mem_transcript hestablished.openChannel_mem
      rwa [h] at howns
  | @subscriber host exchange queue topics s h =>
    obtain ⟨opened, hresult, hestablished⟩ := Subscriber.connect_runs
      (Program.runs_transcript Broker.answer (Subscriber.connect host exchange queue topics) b)
    rw [show Program.run Broker.answer _ b = _ from h] at hresult
    obtain _ | ⟨connection, channel⟩ := opened
    · cases hresult
    · cases hresult
      have howns := Broker.owns_of_mem_transcript hestablished.openChannel_mem
      rwa [h] at howns

/-! ### Closing -/

/-- What is said when a client is closed, and what comes back. -/
inductive Closed (client : Client) : Calls → Except DeliveryError Unit → Prop
  /-- The channel cannot be closed, and that is all. -/
  | early (reason : String) :
      Closed client [⟨.closeChannel client.channel closeCode "closing", .error reason⟩]
        (.error (failure "close channel" reason))
  /-- The channel is closed, and then the connection, if that can be done. -/
  | late (answer : Except String Unit) :
      Closed client (closing client.connection client.channel (.ok ()) answer)
        (answer.mapError (failure "close connection"))

theorem close_eq (client : Client) : client.close = closeBoth client.connection client.channel := by
  cases client <;> rfl

theorem close_runs {calls : Calls} {result : Except DeliveryError Unit}
    (h : client.close.Runs calls (.done result)) : client.Closed calls result := by
  rw [close_eq] at h
  obtain ⟨answer, calls₁, rfl, h₁⟩ := Program.Runs.of_request_bind h
  rcases answer with reason | _
  · obtain ⟨rfl, rfl⟩ := h₁.of_done
    exact .early reason
  obtain ⟨answer, calls₂, rfl, h₂⟩ := Program.Runs.of_request_bind h₁
  rcases answer with reason | _
  · obtain ⟨rfl, rfl⟩ := h₂.of_done
    exact .late (.error reason)
  · obtain ⟨rfl, rfl⟩ := h₂.of_done
    exact .late (.ok ())

/-- Closing the channel comes first, and the connection is only closed where that has succeeded. -/
theorem Closed.attempts {calls : Calls} {result : Except DeliveryError Unit}
    (h : client.Closed calls result) :
    ∃ outcome, calls.head? = some ⟨.closeChannel client.channel closeCode "closing", outcome⟩ ∧
      ((∃ outcome', ⟨.closeConnection client.connection closeCode "closing", outcome'⟩ ∈ calls) ↔
        outcome = .ok ()) ∧
      (result = .ok () ↔ outcome = .ok () ∧
        ⟨.closeConnection client.connection closeCode "closing", .ok ()⟩ ∈ calls) := by
  cases h with
  | early reason => exact ⟨.error reason, rfl, by simp, by simp⟩
  | late outcome =>
    refine ⟨.ok (), rfl, by simp [closing], ?_⟩
    cases outcome with
    | error reason => simp [closing, Except.mapError]
    | ok _ => simp [closing, Except.mapError]

/-- Closing a client leaves its connection open if and only if closing the channel has stalled. -/
theorem isOpen_close_iff (h : b.Owns client.connection client.channel) :
    (b.run client.close).2.isOpen client.connection.number ↔
      b.isOpen client.connection.number ∧ b.Stalls client.channel := by
  have hrun : b.run client.close = Program.run Broker.answer
      (closeBoth client.connection client.channel) b := by
    rw [close_eq]
    rfl
  rw [hrun, closeBoth, ask, Program.request_bind, Program.run]
  obtain ⟨b', ⟨hstalls, hopen, hanswer⟩ | ⟨hstalls, hopen, hanswer⟩ | ⟨hstalls, hanswer⟩⟩ :=
    h.closeChannel closeCode "closing"
  · rw [hanswer]
    exact (iff_of_eq (congrArg (· = true) hopen)).trans (and_iff_left hstalls).symm
  · rw [hanswer]
    exact iff_of_false (by simpa using hopen) fun h => hstalls h.2
  · rw [hanswer]
    have hclosed := b'.isOpen_answer_closeConnection client.connection closeCode "closing"
    refine iff_of_false ?_ fun h => hstalls h.2
    dsimp only
    rw [ask, Program.request_bind, Program.run]
    cases h : (Broker.answer (.closeConnection client.connection closeCode "closing") b').1 with
    | error reason => simpa [Program.run] using hclosed
    | ok _ => simpa [Program.run] using hclosed

/-- Closing a client asks first to close its channel, and then to close its connection if and only
    if that has succeeded, whatever has been said before and however the broker answers. It succeeds
    if and only if both succeed. So a client that has connected to the scripted broker leaves its
    connection open behind it if and only if it is still open and closing the channel stalls. -/
theorem close_attempts_iff (client : Client) :
    (∀ {σ : Type} (answer : (q : Request) → σ → q.Answer × σ) (st : σ) {α : Type}
        (history : Session α),
      let st := (history.run answer st).2
      let calls := client.close.transcript answer st
      ∃ outcome, calls.head? = some ⟨.closeChannel client.channel closeCode "closing", outcome⟩ ∧
        ((∃ outcome', ⟨.closeConnection client.connection closeCode "closing", outcome'⟩ ∈ calls) ↔
          outcome = .ok ()) ∧
        ((client.close.run answer st).1 = .ok () ↔ outcome = .ok () ∧
          ⟨.closeConnection client.connection closeCode "closing", .ok ()⟩ ∈ calls)) ∧
      ∀ {b b' : Broker}, client.ConnectedBy b b' → ∀ {α : Type} (history : Session α),
        let b := (b'.run history).2
        (b.run client.close).2.isOpen client.connection.number ↔
          b.isOpen client.connection.number ∧ b.Stalls client.channel := by
  refine ⟨fun answer st _ history => ?_, fun h _ history => isOpen_close_iff (h.owns.run history)⟩
  exact (client.close_runs (client.close.runs_transcript answer _)).attempts

/-- An event to be published. -/
def event : Outbox.Event :=
  ⟨.nil, "user", "1", "user.created", [123, 125], ⟨0⟩, none, 0, none, .pending⟩

/-- A broker that closes the channel on which the first message is published. -/
def strictBroker : Broker := Broker.new.script "basic.publish" [some .closeChannel]

/-- The publisher that connects to a broker on which nothing has been opened. -/
def newcomer : Publisher := ⟨⟨0⟩, ⟨0⟩, "events"⟩

/-- The publisher that the broker has deprived of its channel leaves its connection open. -/
theorem close_attempts_newcomer :
    ∃ b : Broker, (publisher newcomer).ConnectedBy strictBroker b ∧
      ((b.run (newcomer.publish event)).2.run (publisher newcomer).close).2.isOpen 0 = true := by
  have hconnected : (publisher newcomer).ConnectedBy strictBroker
      (strictBroker.run (Publisher.connect "/" "events")).2 := .publisher rfl
  have hleft := (close_attempts_iff (publisher newcomer)).2 hconnected (newcomer.publish event)
  exact ⟨_, hconnected, hleft.2 ⟨rfl, .inl rfl⟩⟩

/-- Nothing is said of the connection when the broker has closed the channel. -/
theorem close_newcomer_silent :
    let b := (strictBroker.run (Publisher.connect "/" "events")).2
    let b := (b.run (newcomer.publish event)).2
    ((publisher newcomer).close.transcript Broker.answer b).map (·.1) =
        [.closeChannel ⟨0⟩ closeCode "closing"] ∧
      (b.run (publisher newcomer).close).2.isOpen 0 = true :=
  ⟨rfl, rfl⟩

end Client

end Amqp

end Courier
