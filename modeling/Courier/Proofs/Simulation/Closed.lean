import Courier.Simulation.Task

/-!
# What the surroundings do to the bus and the clock

Only what is published, a confirmation and the end of the publisher reach the bus, and all of them
at once. What is left to be done for an answer after its delay leaves the bus alone. A closed bus is
never opened again. Nothing that is asked moves the clock.

* `Surroundings.unmoved_finish_begin`: the bus and the clock when an answer comes.
* `Surroundings.isClosed_begin`: a closed bus stays closed.
* `Surroundings.now_begin`: the clock stands still while something is asked.
-/

namespace Courier.Simulation.Surroundings

variable {α : Type} {s : Surroundings}

/-- The bus and the clock are left alone. -/
structure Unmoved (s s' : Surroundings) : Prop where
  bus_eq : s'.bus = s.bus
  now_eq : s'.now = s.now

/-- What leaves the bus and the clock alone does so as often as it is done. -/
theorem unmoved_foldl {f : Surroundings → α → Surroundings} (h : ∀ s a, Unmoved s (f s a))
    (l : List α) (s : Surroundings) : s.Unmoved (l.foldl f s) := by
  induction l generalizing s with
  | nil => exact ⟨rfl, rfl⟩
  | cons a l ih =>
    obtain ⟨hbus, hnow⟩ := ih (f s a)
    exact ⟨hbus.trans (h s a).bus_eq, hnow.trans (h s a).now_eq⟩

theorem unmoved_query (s : Surroundings) (database : Database) (session : Sql.Session α) :
    s.Unmoved (s.query database session).2 := by
  have hemit := unmoved_foldl (f := fun s statement => s.emit (.statement statement))
    (fun _ _ => ⟨rfl, rfl⟩) (database.run session).2.1
    { s with database := some (database.run session).2.2 }
  exact ⟨hemit.bus_eq, hemit.now_eq⟩

section Operations

variable (s : Surroundings)

theorem unmoved_performOutbox (op : Outbox.Op) : s.Unmoved (performOutbox op s).2 := by
  rw [performOutbox]
  split
  · exact unmoved_query _ _ _
  · exact ⟨rfl, rfl⟩

theorem unmoved_performInbox (op : Notification.Inbox.Op) : s.Unmoved (performInbox op s).2 := by
  rw [performInbox]
  split
  · exact unmoved_query _ _ _
  · exact ⟨rfl, rfl⟩

theorem unmoved_performPreferences (op : Notification.Preferences.Op) :
    s.Unmoved (performPreferences op s).2 := by
  rw [performPreferences]
  split
  · exact unmoved_query _ _ _
  · exact ⟨rfl, rfl⟩

theorem unmoved_performTokens (op : Notification.Tokens.Op) :
    s.Unmoved (performTokens op s).2 := by
  rw [performTokens]
  split
  · exact unmoved_query _ _ _
  · exact ⟨rfl, rfl⟩

theorem unmoved_performLogs (op : Notification.Logs.Op) : s.Unmoved (performLogs op s).2 := by
  rw [performLogs]
  split
  · exact unmoved_query _ _ _
  · exact ⟨rfl, rfl⟩

end Operations

theorem unmoved_finish_carryOut {ε ρ : Type} (outcome : Outcome ε ρ)
    (perform : Option ρ → Surroundings → Except ε α × Surroundings)
    (h : ∀ answer s, Unmoved s (perform answer s).2) (s : Surroundings) :
    s.Unmoved ((carryOut outcome perform).finish s).2 := by
  rw [carryOut]
  dsimp only
  split
  · exact ⟨rfl, rfl⟩
  · exact ⟨rfl, rfl⟩
  · exact h _ s

theorem unmoved_finish_callDelivery (endpoint : String) (s s' : Surroundings) :
    s'.Unmoved ((s.callDelivery endpoint nothing).1.finish s').2 :=
  unmoved_finish_carryOut _ (fun _ => nothing) (fun _ _ => ⟨rfl, rfl⟩) s'

/-- Until the answer comes, the bus and the clock are left alone. -/
theorem unmoved_finish_begin (q : Request) (s s' : Surroundings) :
    s'.Unmoved ((s.begin q).1.finish s').2 := by
  cases q with
  | clock => exact ⟨rfl, rfl⟩
  | freshId => exact ⟨rfl, rfl⟩
  | note notice => exact ⟨rfl, rfl⟩
  | outbox op =>
    exact unmoved_finish_carryOut _ (fun _ => performOutbox op)
      (fun _ s => unmoved_performOutbox s op) s'
  | publish e =>
    rw [begin]
    split
    · exact ⟨rfl, rfl⟩
    · exact unmoved_finish_callDelivery _ _ s'
  | closePublisher =>
    rw [begin]
    split
    · exact ⟨rfl, rfl⟩
    · exact unmoved_finish_callDelivery _ _ s'
  | handle handler e => exact unmoved_finish_callDelivery _ _ s'
  | confirm receipt id =>
    cases receipt with
    | counted => exact ⟨rfl, rfl⟩
    | returned => exact unmoved_finish_callDelivery _ _ s'
    | tagged tag => exact ⟨rfl, rfl⟩
  | inbox op =>
    exact unmoved_finish_carryOut _ (fun _ => performInbox op)
      (fun _ s => unmoved_performInbox s op) s'
  | preferences op =>
    exact unmoved_finish_carryOut _ (fun _ => performPreferences op)
      (fun _ s => unmoved_performPreferences s op) s'
  | tokens op =>
    exact unmoved_finish_carryOut _ (fun _ => performTokens op)
      (fun _ s => unmoved_performTokens s op) s'
  | logs op =>
    exact unmoved_finish_carryOut _ (fun _ => performLogs op)
      (fun _ s => unmoved_performLogs s op) s'
  | sendEmail message =>
    exact unmoved_finish_carryOut _ (fun answer s => (.ok answer, s)) (fun _ _ => ⟨rfl, rfl⟩) s'
  | sendSms message =>
    exact unmoved_finish_carryOut _ (fun answer s => (.ok answer, s)) (fun _ _ => ⟨rfl, rfl⟩) s'
  | sendPush message tokens =>
    let report : Notification.PushReport := ⟨tokens.length, 0, [], none⟩
    exact unmoved_finish_carryOut _ (fun answer s => (.ok (answer.getD report), s))
      (fun _ _ => ⟨rfl, rfl⟩) s'

theorem isClosed_begin (q : Request) (h : s.bus.isClosed) : (s.begin q).2.bus.isClosed := by
  cases q with
  | publish e =>
    rw [begin]
    split
    · have hpublish : s.bus.publish (.ofOutbox e) = .error MemoryBus.closedError := if_pos h
      rw [publishToBus, hpublish]
      exact h
    · exact h
  | closePublisher =>
    rw [begin]
    split
    · rfl
    · exact h
  | confirm receipt id => cases receipt <;> exact h
  | _ => exact h

theorem now_publishToBus (s : Surroundings) (e : Outbox.Event) :
    (s.publishToBus e).2.now = s.now := by
  rw [publishToBus]
  split <;> rfl

theorem now_begin (q : Request) (s : Surroundings) : (s.begin q).2.now = s.now := by
  cases q with
  | publish e =>
    rw [begin]
    split
    · exact s.now_publishToBus e
    · rfl
  | closePublisher =>
    rw [begin]
    split <;> rfl
  | confirm receipt id => cases receipt <;> rfl
  | _ => rfl

end Courier.Simulation.Surroundings
