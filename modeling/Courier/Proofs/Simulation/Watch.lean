import Courier.Proofs.Supervision
import Courier.Simulation.Run

/-!
# Who cancels the tasks of a simulation

Tasks go on in the background, time passes, and actions are performed in the foreground. None of
this cancels a task or touches a handle, so that the history of what is done with the handles tells
which tasks are cancelled.

* `Simulation.Keeps`: tasks go on, and nothing is done with them.
* `Watch.step`: a simulation after an act, with the history of what has been done.
* `Watch.Sound.step`: the history tells how the tasks stand.
* `Watch.spares_step`, `Watch.isCancelled_step_of_isJoin`: what an act does not cancel.
* `Watch.play_cancelled_iff`: which tasks are cancelled after all acts.
-/

namespace Courier.Simulation

/-- Nothing is done with tasks, except that they go on. -/
structure Keeps (sim sim' : Simulation) : Prop where
  supervisor_eq : sim'.supervisor = sim.supervisor
  handles_eq : sim'.handles = sim.handles
  length_eq : sim'.tasks.length = sim.tasks.length

variable {sim sim' sim'' : Simulation} {α : Type}

namespace Keeps

theorem refl (sim : Simulation) : sim.Keeps sim := ⟨rfl, rfl, rfl⟩

theorem trans (h : sim.Keeps sim') (h' : sim'.Keeps sim'') : sim.Keeps sim'' :=
  ⟨h'.supervisor_eq.trans h.supervisor_eq, h'.handles_eq.trans h.handles_eq,
    h'.length_eq.trans h.length_eq⟩

theorem foldl {f : Simulation → α → Simulation} (h : ∀ sim a, Keeps sim (f sim a)) (l : List α)
    (sim : Simulation) : sim.Keeps (l.foldl f sim) := by
  induction l generalizing sim with
  | nil => exact refl sim
  | cons a l ih => exact (h sim a).trans (ih (f sim a))

end Keeps

/-! ### Turns -/

theorem keeps_enqueue (sim : Simulation) (task : Nat) : sim.Keeps (sim.enqueue task) := by
  rw [enqueue]
  split <;> exact ⟨rfl, rfl, rfl⟩

theorem keeps_wakeAt (sim : Simulation) (task place : Nat) : sim.Keeps (sim.wakeAt task place) := by
  have hchange (f : Task → Task) : sim.Keeps (sim.change task f) :=
    ⟨rfl, rfl, List.length_modify _ _ _⟩
  exact (hchange _).trans (keeps_enqueue _ task)

theorem keeps_wakeReaders (before : MemoryBus) (sim : Simulation) :
    sim.Keeps (sim.wakeReaders before) := by
  have hwake (places : List (Nat × Nat × Nat)) :
      sim.Keeps (places.foldl (fun sim p => sim.wakeAt p.2.1 p.2.2) sim) :=
    .foldl (fun sim p => keeps_wakeAt sim p.2.1 p.2.2) places sim
  rw [wakeReaders]
  split
  · exact hwake _
  · split
    · exact hwake _
    · exact .refl sim

theorem keeps_giveTurn (sim : Simulation) (task : Nat) : sim.Keeps (sim.giveTurn task) := by
  rw [giveTurn]
  split
  next => exact .refl sim
  next t =>
    dsimp only
    have hturn (s : Surroundings) (t : Task) (rank : Nat) (alarms : List (Nat × Nat)) :
        sim.Keeps { sim with
          surroundings := s, tasks := sim.tasks.set task t, rank := rank, alarms := alarms } :=
      ⟨rfl, rfl, List.length_set⟩
    split
    · exact ((hturn _ _ _ _).trans (keeps_wakeReaders _ _)).trans (keeps_enqueue _ task)
    · exact (hturn _ _ _ _).trans (keeps_wakeReaders _ _)

theorem keeps_giveTurns (turns : Nat) (sim : Simulation) : sim.Keeps (sim.giveTurns turns) := by
  induction turns generalizing sim with
  | zero => exact .refl sim
  | succ turns ih =>
    rw [giveTurns]
    split
    · exact .refl sim
    next task rest hqueue =>
      have hqueue : sim.Keeps { sim with queue := rest } := ⟨rfl, rfl, rfl⟩
      exact (hqueue.trans (keeps_giveTurn _ task)).trans (ih _)

theorem keeps_settle (sim : Simulation) : sim.Keeps sim.settle := keeps_giveTurns _ sim

/-! ### Time -/

theorem keeps_moveTo (sim : Simulation) (time : Nat) : sim.Keeps (sim.moveTo time) := by
  let sim' : Simulation := { sim with
    surroundings := { sim.surroundings with now := time }
    alarms := sim.alarms.filter fun a => time < a.1 }
  have hmove : sim.Keeps sim' := ⟨rfl, rfl, rfl⟩
  exact hmove.trans (.foldl (fun sim (a : Nat × Nat) => keeps_enqueue sim a.2) _ sim')

theorem keeps_passTo (isDone : Simulation → Bool) (time alarms : Nat) (sim : Simulation) :
    sim.Keeps (sim.passTo isDone time alarms) := by
  induction alarms generalizing sim with
  | zero => exact .refl sim
  | succ alarms ih =>
    have hsettle := keeps_settle sim
    rw [passTo]
    split
    · exact hsettle
    · split
      · exact hsettle.trans (keeps_moveTo _ time)
      · split
        · exact (hsettle.trans (keeps_moveTo _ _)).trans (ih _)
        · exact hsettle.trans (keeps_moveTo _ time)

theorem keeps_pass (sim : Simulation) (delay : Nat) (isDone : Simulation → Bool) :
    sim.Keeps (sim.pass delay isDone) := keeps_passTo isDone _ _ sim

/-! ### The foreground -/

/-- What is done to the surroundings may wake the tasks that wait for the bus. -/
theorem keeps_changed (sim : Simulation) (s : Surroundings) :
    sim.Keeps ({ sim with surroundings := s }.wakeReaders sim.surroundings.bus) := by
  have hchange : sim.Keeps { sim with surroundings := s } := ⟨rfl, rfl, rfl⟩
  exact hchange.trans (keeps_wakeReaders _ _)

theorem keeps_changeBus (sim : Simulation) (f : MemoryBus → MemoryBus) :
    sim.Keeps (sim.changeBus f) := keeps_changed sim _

theorem keeps_perform (action : Action α) (sim : Simulation) :
    sim.Keeps (sim.perform action).2 := by
  induction action generalizing sim with
  | done a => exact .refl sim
  | ask q next ih =>
    have hbegin := keeps_changed sim (sim.surroundings.begin q).2
    have hpass (sim : Simulation) (delay : Nat) :
        sim.Keeps (if delay = 0 then sim else sim.advance delay) := by
      split
      · exact .refl sim
      · exact keeps_pass sim delay _
    have hfinish (sim : Simulation) (s : Surroundings) :
        sim.Keeps { sim with surroundings := s } := ⟨rfl, rfl, rfl⟩
    have hwait := hbegin.trans (hpass _ (sim.surroundings.begin q).1.delay)
    rw [perform]
    dsimp only
    split
    · exact hwait.trans (hfinish _ _)
    · exact (hwait.trans (hfinish _ _)).trans (ih _ _)

theorem keeps_wakeCancelled (before : Supervisor) (sim : Simulation) (task : Nat) :
    sim.Keeps (wakeCancelled before sim task) := by
  have hwake : sim.Keeps (sim.wake task) := by
    rw [wake]
    split
    · exact keeps_enqueue sim task
    · exact .refl sim
  rw [wakeCancelled]
  split
  · exact .refl sim
  · split
    · exact hwake
    · exact .refl sim

/-! ### Tasks -/

theorem keeps_cancel (sim : Simulation) :
    Keeps { sim with supervisor := sim.supervisor.cancel } sim.cancel :=
  .foldl (keeps_wakeCancelled sim.supervisor) _ _

theorem keeps_shutDown (sim : Simulation) (task : Nat) :
    Keeps { sim with supervisor := sim.supervisor.shutDown task } (sim.shutDown task) :=
  keeps_wakeCancelled _ _ task

theorem keeps_drop (sim : Simulation) (task : Nat) :
    Keeps { sim with supervisor := sim.supervisor.drop task } (sim.drop task) :=
  keeps_wakeCancelled _ _ task

theorem keeps_join (sim : Simulation) (task : Nat) :
    Keeps { sim with supervisor := sim.supervisor.beginJoin task } (sim.join task).2 := by
  have hpass (sim : Simulation) :
      sim.Keeps (if sim.isOver task then sim
        else sim.pass joinLimit fun sim => sim.isOver task) := by
    split
    · exact .refl sim
    · exact keeps_pass sim joinLimit _
  have hreport (sim : Simulation) (isTornDown : Bool) :
      sim.Keeps (if isTornDown then
          { sim with surroundings := sim.surroundings.report .taskFailed }
        else sim) := by
    split <;> exact ⟨rfl, rfl, rfl⟩
  exact (hpass _).trans (hreport _ _)

/-- A task has been started and is held under a name, whatever was held under it before. -/
def started (sim : Simulation) (name : String) (task : Task) : Simulation :=
  { sim with
    tasks := sim.tasks ++ [task]
    supervisor := sim.supervisor.start
    handles := sim.handles.insert name sim.tasks.length
    queue := sim.queue ++ [sim.tasks.length] }

theorem length_started (sim : Simulation) (name : String) (task : Task) :
    (sim.started name task).tasks.length = sim.tasks.length + 1 := List.length_append

theorem spawn_eq (sim : Simulation) (name : String) (task : Task) :
    sim.spawn name task =
      match sim.held? name with
      | none => sim.started name task
      | some old => (sim.started name task).drop old := rfl

theorem supervisor_spawn {name : String} {old : Nat} (task : Task)
    (h : sim.held? name = some old) :
    (sim.spawn name task).supervisor = sim.supervisor.start.drop old := by
  rw [spawn_eq, h]
  exact (keeps_drop _ old).supervisor_eq

theorem spawnConsumer_eq_ok {name : String} {c : Consumer}
    (h : sim.spawnConsumer name c = .ok sim') :
    ∃ s task, sim' = { sim with surroundings := s }.spawn name task := by
  rw [spawnConsumer] at h
  cases hsub : subscribeAll sim.surroundings.bus c.topics with
  | error error =>
    rw [hsub] at h
    cases h
  | ok subscribed =>
    rw [hsub] at h
    cases h
    exact ⟨_, _, rfl⟩

/-! ### The history -/

/-- What is done with tasks in the foreground, and what happens besides. -/
inductive Act
  | spawnWorker (name : String) (w : Outbox.Worker)
  | spawnConsumer (name : String) (c : Consumer)
  | cancel
  | shutDown (name : String)
  | drop (name : String)
  /-- Waits for the end of a task until it has come, or until it has taken too long. -/
  | join (name : String)
  /-- Begins to wait for the end of a task, while other things go on. -/
  | beginJoin (name : String)
  /-- It is not waited any more for the end of a task, which may have come or not. The handle is
      dropped then, like any other. -/
  | endJoin (task : Nat)
  | perform (action : Action Unit)
  | changeBus (f : MemoryBus → MemoryBus)
  | settle
  | pass (delay : Nat) (isDone : Simulation → Bool)

/-- The name of the handle with which something is done. A task that is started under the name of
    another one takes its place. -/
def Act.handle? : Act → Option String
  | spawnWorker name _ | spawnConsumer name _ | shutDown name | drop name | join name
  | beginJoin name => some name
  | _ => none

/-- Somebody waits for the end of a task, or stops waiting for it. -/
def Act.IsJoin : Act → Prop
  | join _ | beginJoin _ | endJoin _ => True
  | _ => False

open Supervisor (Deed)

/-- A simulation, and what has been done with its tasks. -/
structure Watch where
  sim : Simulation
  /-- The tasks for the end of which it is waited. -/
  waits : List Nat
  deeds : List Deed

namespace Watch

/-- A simulation in which nothing has happened. -/
def new (s : Surroundings) : Watch := ⟨.new s, [], []⟩

/-- Whether a task is cancelled. -/
def isCancelled (w : Watch) (task : Nat) : Bool := w.sim.supervisor.isCancelled task

/-- Something has been done, which has led to this simulation. -/
def did (w : Watch) (deeds : List Deed) (sim : Simulation) : Watch :=
  { w with sim := sim, deeds := w.deeds ++ deeds }

/-- A task has been started, which has dropped the one that was held under its name. -/
def spawned (w : Watch) (name : String) (sim : Simulation) : Watch :=
  w.did (.started :: (w.sim.held? name).toList.map .dropped) sim

/-- Does something with the task that is held under a name, if there is one. -/
def withHeld (w : Watch) (name : String) (f : Nat → Watch) : Watch :=
  match w.sim.held? name with
  | none => w
  | some task => f task

/-- What comes of an act. -/
def step (w : Watch) : Act → Watch
  | .spawnWorker name worker => w.spawned name (w.sim.spawn name (.ofWorker worker))
  | .spawnConsumer name c =>
    match w.sim.spawnConsumer name c with
    | .error _ => w
    | .ok sim => w.spawned name sim
  | .cancel => w.did [.cancelled] w.sim.cancel
  | .shutDown name => w.withHeld name fun task => w.did [.shutDown task] (w.sim.shutDown task)
  | .drop name =>
    w.withHeld name fun task => w.did [.dropped task] ((w.sim.drop task).release name)
  | .join name =>
    w.withHeld name fun task => w.did [.joined task] ((w.sim.release name).join task).2
  | .beginJoin name => w.withHeld name fun task =>
    { w.did [.joined task]
        { w.sim.release name with supervisor := w.sim.supervisor.beginJoin task } with
      waits := w.waits ++ [task] }
  | .endJoin task =>
    if task ∈ w.waits then
      { w.did [.dropped task] (w.sim.drop task) with waits := w.waits.erase task }
    else w
  | .perform action => w.did [] (w.sim.perform action).2
  | .changeBus f => w.did [] (w.sim.changeBus f)
  | .settle => w.did [] w.sim.settle
  | .pass delay isDone => w.did [] (w.sim.pass delay isDone)

/-- What comes of one act after the other. -/
def play (w : Watch) (acts : List Act) : Watch := acts.foldl step w

/-- The history tells how the tasks stand, and only tasks that have been started are held. -/
structure Sound (w : Watch) : Prop where
  tells : Supervisor.Tells w.deeds w.sim.supervisor
  length_eq : w.sim.supervisor.tasks.length = w.sim.tasks.length
  held : ∀ name task, w.sim.held? name = some task → task < w.sim.tasks.length
  waits : ∀ task ∈ w.waits, task < w.sim.tasks.length ∧ .joined task ∈ w.deeds

namespace Sound

variable {w : Watch} {d : Deed} {name : String} {task : Nat}

theorem new (s : Surroundings) : (Watch.new s).Sound where
  tells := .empty
  length_eq := rfl
  held name task h := by cases h
  waits task h := by cases h

theorem keeps (h : w.Sound) (hk : w.sim.Keeps sim) : { w with sim := sim }.Sound where
  tells := by
    rw [hk.supervisor_eq]
    exact h.tells
  length_eq := by rw [hk.supervisor_eq, hk.length_eq, h.length_eq]
  held name task hheld := by
    rw [held?, hk.handles_eq] at hheld
    rw [hk.length_eq]
    exact h.held name task hheld
  waits task ht := by
    rw [hk.length_eq]
    exact h.waits task ht

theorem release (h : w.Sound) (name : String) : { w with sim := w.sim.release name }.Sound where
  tells := h.tells
  length_eq := h.length_eq
  held name' task hheld := by
    rw [held?, Simulation.release, Table.get?_erase] at hheld
    split at hheld
    · cases hheld
    · exact h.held name' task hheld
  waits := h.waits

/-- Something has been done with the handle of a task, or with all of them. -/
theorem did (h : w.Sound) (hne : d ≠ .started)
    (hd : ∀ task, d.task? = some task → task < w.sim.tasks.length) :
    (w.did [d] { w.sim with supervisor := w.sim.supervisor.after d }).Sound where
  tells := h.tells.after (h.length_eq ▸ hd)
  length_eq := by
    refine Eq.trans ?_ h.length_eq
    exact (Supervisor.length_after _ _).trans (if_neg hne)
  held := h.held
  waits task ht := ⟨(h.waits task ht).1, List.mem_append_left _ (h.waits task ht).2⟩

theorem started (h : w.Sound) (name : String) (task : Task) :
    (w.did [.started] (w.sim.started name task)).Sound where
  tells := h.tells.after (by rintro _ ⟨⟩)
  length_eq := by
    have hlength := Supervisor.length_after w.sim.supervisor .started
    rw [if_pos rfl, h.length_eq] at hlength
    exact hlength.trans (w.sim.length_started name task).symm
  held name' task' hheld := by
    change (w.sim.handles.insert name w.sim.tasks.length).get? name' = some task' at hheld
    refine (w.sim.length_started name task).symm ▸ ?_
    rw [Table.get?_insert] at hheld
    split at hheld
    · cases hheld
      exact Nat.lt_succ_self _
    · exact Nat.lt_succ_of_lt (h.held name' task' hheld)
  waits task' ht := by
    obtain ⟨hlt, hjoined⟩ := h.waits task' ht
    refine ⟨(w.sim.length_started name task).symm ▸ ?_, List.mem_append_left _ hjoined⟩
    exact Nat.lt_succ_of_lt hlt

/-- A task that has been started takes the place of another one, the handle of which is dropped. -/
theorem spawned (h : w.Sound) (name : String) (task : Task) :
    (w.spawned name (w.sim.spawn name task)).Sound := by
  have hstarted := h.started name task
  -- The handle of the old task is dropped only after the new one has been started.
  rw [Watch.spawned, spawn_eq]
  cases hheld : w.sim.held? name with
  | none => exact hstarted
  | some old =>
    have hlt : old < (w.sim.started name task).tasks.length := by
      rw [length_started]
      exact Nat.lt_succ_of_lt (h.held name old hheld)
    have hdropped := hstarted.did (d := .dropped old) (by rintro ⟨⟩) (by rintro _ ⟨⟩; exact hlt)
    have hkept := hdropped.keeps (keeps_drop _ old)
    simpa [Watch.did] using hkept

/-- Something is done with the handle of a task, and the tasks go on. -/
theorem handled (h : w.Sound) (hd : d.task? = some task) (ht : task < w.sim.tasks.length)
    (hk : Keeps { w.sim with supervisor := w.sim.supervisor.after d } sim) :
    (w.did [d] sim).Sound := by
  refine (h.did ?_ ?_).keeps hk
  · rintro rfl
    cases hd
  · intro task' hd'
    rw [hd] at hd'
    exact Option.some.inj hd' ▸ ht

theorem withHeld (h : w.Sound) {f : Nat → Watch}
    (hf : ∀ task, task < w.sim.tasks.length → (f task).Sound) : (w.withHeld name f).Sound := by
  rw [Watch.withHeld]
  split
  · exact h
  next task hheld => exact hf task (h.held name task hheld)

theorem step (h : w.Sound) (act : Act) : (w.step act).Sound := by
  have hsame {sim : Simulation} (hk : w.sim.Keeps sim) : (w.did [] sim).Sound := by
    rw [Watch.did, List.append_nil]
    exact h.keeps hk
  cases act with
  | spawnWorker name worker => exact h.spawned name _
  | spawnConsumer name c =>
    rw [Watch.step]
    split
    · exact h
    next sim hsim =>
      obtain ⟨s, task, rfl⟩ := spawnConsumer_eq_ok hsim
      have hsubscribed : w.sim.Keeps { w.sim with surroundings := s } := ⟨rfl, rfl, rfl⟩
      exact (h.keeps hsubscribed).spawned name task
  | cancel =>
    have hcancelled := h.did (d := .cancelled) (by rintro ⟨⟩) (by rintro _ ⟨⟩)
    exact hcancelled.keeps (keeps_cancel w.sim)
  | shutDown name =>
    exact h.withHeld fun task ht =>
      h.handled (d := .shutDown task) rfl ht (keeps_shutDown w.sim task)
  | drop name =>
    exact h.withHeld fun task ht =>
      (h.handled (d := .dropped task) rfl ht (keeps_drop w.sim task)).release name
  | join name =>
    exact h.withHeld fun task ht =>
      (h.release name).handled (d := .joined task) rfl ht (keeps_join _ task)
  | beginJoin name =>
    refine h.withHeld fun task ht => ?_
    have hjoined := (h.handled (d := .joined task) rfl ht (.refl _)).release name
    refine { hjoined with waits := fun task' ht' => ?_ }
    rcases List.mem_append.1 ht' with ht' | ht'
    · exact hjoined.waits task' ht'
    · rw [List.mem_singleton.1 ht']
      exact ⟨ht, List.mem_append_right _ List.mem_cons_self⟩
  | endJoin task =>
    rw [Watch.step]
    split
    next ht =>
      have hdropped :=
        h.handled (d := .dropped task) rfl (h.waits task ht).1 (keeps_drop w.sim task)
      exact { hdropped with
        waits := fun task' ht' => hdropped.waits task' (List.mem_of_mem_erase ht') }
    next => exact h
  | perform action => exact hsame (keeps_perform action w.sim)
  | changeBus f => exact hsame (keeps_changeBus w.sim f)
  | settle => exact hsame (keeps_settle w.sim)
  | pass delay isDone => exact hsame (keeps_pass w.sim delay isDone)

theorem play (h : w.Sound) (acts : List Act) : (w.play acts).Sound := by
  induction acts generalizing w with
  | nil => exact h
  | cons act acts ih => exact ih (h.step act)

end Sound

/-! ### What one act cancels -/

variable {w : Watch} {name : String} {task other : Nat}

/-- What is done with the handle of a task cancels no other task, and not all of them. -/
theorem spares_step {act : Act} (hact : act.handle? = some name)
    (hheld : w.sim.held? name = some task) :
    w.sim.supervisor.Spares task (w.step act).sim.supervisor := by
  have hwith (f : Nat → Watch) : w.withHeld name f = f task := by rw [withHeld, hheld]
  have hafter (s : Supervisor) (d : Deed) (hd : d.task? = some task) : s.Spares task (s.after d) :=
    s.spares_after d hd
  have hspawned {sim : Simulation} (t : Task) (hk : w.sim.Keeps sim) :
      w.sim.supervisor.Spares task (sim.spawn name t).supervisor := by
    have hheld' : sim.held? name = some task := by rw [held?, hk.handles_eq, ← hheld, held?]
    rw [supervisor_spawn t hheld', hk.supervisor_eq]
    exact (w.sim.supervisor.spares_start task).trans (hafter _ (.dropped task) rfl)
  cases act with
  | spawnWorker name' worker =>
    cases hact
    exact hspawned _ (.refl w.sim)
  | spawnConsumer name' c =>
    cases hact
    rw [step]
    split
    · exact .refl task _
    next sim hsim =>
      obtain ⟨s, t, rfl⟩ := spawnConsumer_eq_ok hsim
      exact hspawned t ⟨rfl, rfl, rfl⟩
  | shutDown name' =>
    cases hact
    rw [step, hwith, did, (keeps_shutDown w.sim task).supervisor_eq]
    exact hafter _ (.shutDown task) rfl
  | drop name' =>
    cases hact
    rw [step, hwith, did, release, (keeps_drop w.sim task).supervisor_eq]
    exact hafter _ (.dropped task) rfl
  | join name' =>
    cases hact
    rw [step, hwith, did, (keeps_join _ task).supervisor_eq]
    exact hafter _ (.joined task) rfl
  | beginJoin name' =>
    cases hact
    rw [step, hwith]
    exact hafter _ (.joined task) rfl
  | _ => cases hact

/-- To wait for the end of a task, or to stop waiting for it, cancels nothing. -/
theorem isCancelled_step_of_isJoin (h : w.Sound) {act : Act} (hact : act.IsJoin) :
    (w.step act).sim.supervisor.cancelled = w.sim.supervisor.cancelled ∧
      ∀ other, (w.step act).isCancelled other = w.isCancelled other := by
  have hjoined {w' : Watch} {task : Nat}
      (hw' : w'.sim.supervisor = w.sim.supervisor.beginJoin task) :
      w'.sim.supervisor.cancelled = w.sim.supervisor.cancelled ∧
        ∀ other, w'.isCancelled other = w.isCancelled other := by
    simp only [isCancelled, hw']
    exact ⟨rfl, w.sim.supervisor.isCancelled_beginJoin task⟩
  cases act with
  | join name =>
    rw [step, withHeld]
    split
    · exact ⟨rfl, fun _ => rfl⟩
    · exact hjoined (keeps_join _ _).supervisor_eq
  | beginJoin name =>
    rw [step, withHeld]
    split
    · exact ⟨rfl, fun _ => rfl⟩
    next task _ => exact @hjoined _ task rfl
  | endJoin task =>
    rw [step]
    split
    next ht =>
      have hj (t : Supervised) (hrow : w.sim.supervisor.tasks[task]? = some t) : t.joined :=
        (h.tells.joined task t hrow).2 (h.waits task ht).2
      simp only [isCancelled, did, (keeps_drop w.sim task).supervisor_eq]
      exact ⟨rfl, fun _ => Supervisor.isCancelled_drop hj⟩
    next => exact ⟨rfl, fun _ => rfl⟩
  | _ => cases hact

/-- Tasks are started, one after the other, and all kinds of things are done with them. Then a task
    is cancelled exactly if all of them are, or it has been shut down, or its handle was dropped
    before anybody had begun to wait for its end. What is done next with the handle of one task
    cancels no other task and not all of them, and to wait for the end of a task cancels nothing,
    whether it is waited until it comes or not. -/
theorem play_cancelled_iff (s : Surroundings) (acts : List Act) :
    let w := (Watch.new s).play acts
    (w.sim.supervisor.cancelled ↔ .cancelled ∈ w.deeds) ∧
      (∀ task, w.isCancelled task ↔ .cancelled ∈ w.deeds ∨ .shutDown task ∈ w.deeds ∨
        ∃ before after, w.deeds = before ++ .dropped task :: after ∧ .joined task ∉ before) ∧
      (∀ act name task, act.handle? = some name → w.sim.held? name = some task →
        (w.step act).sim.supervisor.cancelled = w.sim.supervisor.cancelled ∧
          ∀ other, other ≠ task → (w.step act).isCancelled other = w.isCancelled other) ∧
      ∀ act, act.IsJoin →
        (w.step act).sim.supervisor.cancelled = w.sim.supervisor.cancelled ∧
          ∀ task, (w.step act).isCancelled task = w.isCancelled task := by
  intro w
  have hw : w.Sound := (Sound.new s).play acts
  refine ⟨hw.tells.root, hw.tells.isCancelled_iff, ?_, ?_⟩
  · intro act name task hact hheld
    have hspares := spares_step hact hheld
    exact ⟨hspares.root, hspares.others⟩
  · exact fun act hact => isCancelled_step_of_isJoin hw hact

/-- Four tasks are started. Somebody begins to wait for the end of the first one, the second one is
    dropped, and the third one is shut down. -/
def farewell : List Act :=
  [.spawnWorker "first" default, .spawnWorker "second" default,
    .spawnConsumer "third" (.new ["#"] []), .spawnWorker "fourth" default, .beginJoin "first",
    .drop "second", .shutDown "third", .settle]

/-- The second task and the third one are cancelled. The first one is not, and is not cancelled when
    its handle is dropped at last, nor when the fourth one is dropped. -/
theorem play_cancelled_iff_farewell :
    let w := (Watch.new (.new default true none)).play farewell
    (w.isCancelled 1 ∧ w.isCancelled 2) ∧
      ¬w.isCancelled 0 ∧ ¬(w.step (.endJoin 0)).isCancelled 0 ∧
      ¬(w.step (.drop "fourth")).isCancelled 0 := by
  intro w
  obtain ⟨-, hiff, hhandle, hjoin⟩ := play_cancelled_iff (.new default true none) farewell
  have hfirst : ¬w.isCancelled 0 := by
    have hnone : ∀ d ∈ w.deeds, d ≠ .cancelled ∧ d ≠ .shutDown 0 ∧ d ≠ .dropped 0 := by
      decide +kernel
    intro h
    rcases (hiff 0).1 h with h | h | ⟨before, after, h, -⟩
    · exact (hnone _ h).1 rfl
    · exact (hnone _ h).2.1 rfl
    · refine (hnone (.dropped 0) ?_).2.2 rfl
      rw [h]
      exact List.mem_append_right _ List.mem_cons_self
  refine ⟨⟨?_, ?_⟩, hfirst, ?_, ?_⟩
  · exact (hiff 1).2 (.inr (.inr ⟨[.started, .started, .started, .started, .joined 0],
      [.shutDown 2], rfl, by decide⟩))
  · exact (hiff 2).2 (.inr (.inl (by decide +kernel)))
  · rw [(hjoin (.endJoin 0) trivial).2]
    exact hfirst
  · rw [(hhandle (.drop "fourth") "fourth" 3 rfl (by decide +kernel)).2 0 (by decide)]
    exact hfirst

end Watch

end Courier.Simulation
